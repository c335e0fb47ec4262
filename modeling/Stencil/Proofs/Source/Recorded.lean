import Mathlib.Data.List.Infix
import Stencil.Proofs.Action
import Stencil.Source.Basic

namespace Stencil

/-!
# Recorded sources

A recorded source answers as the source that it wraps, and writes down everything it is asked, with the answer.
What a run has asked of its source is then part of the state after the run.

* `Source.Event` — a question with its answer;
* `Recorded` — a source with its record;
* `Recorded.reflections` — how often the schema has been reflected;
* `Untroubled`, `Consistent` — records in which nothing but binding failed, and in which lists of tables agree with
  the schema.
-/

/-- What a source was asked, and what it answered. -/
inductive Source.Event (κ : Type) where
  | connected (dsn : String) (answer : Except Fault κ)
  | bound (c : κ) (name : String) (answer : Except Fault κ)
  | listedDatabases (c : κ) (answer : Except Fault (List String))
  | listedTables (c : κ) (answer : Except Fault (List String))
  | reflected (c : κ) (answer : Except Fault Database)
  | closed (c : κ) (answer : Except Fault Unit)

namespace Source.Event

variable {κ : Type}

/-- Whether the schema was reflected, or was to be. -/
def isReflection : Event κ → Bool
  | reflected _ _ => true
  | _ => false

/-- Whether something else than binding a database failed. -/
def isTrouble : Event κ → Bool
  | connected _ (.error _) => true
  | listedDatabases _ (.error _) => true
  | listedTables _ (.error _) => true
  | reflected _ (.error _) => true
  | closed _ (.error _) => true
  | _ => false

end Source.Event

/-- A source and the record of what it was asked. -/
structure Recorded (σ κ : Type) where
  source : σ
  events : List (Source.Event κ) := []

variable {σ κ α : Type}

namespace Recorded

/-- Ask the wrapped source, and write down its answer. -/
def ask (act : Action σ α) (event : Except Fault α → Source.Event κ) : Action (Recorded σ κ) α := fun r =>
  match act r.source with
  | (answer, source) => (answer, { source, events := r.events ++ [event answer] })

instance [Source σ κ] : Source (Recorded σ κ) κ where
  connect dsn := ask (Source.connect dsn) (.connected dsn)
  databaseName := Source.databaseName σ
  bind c name := ask (Source.bind c name) (.bound c name)
  bindReport := Source.bindReport σ
  listDatabases c := ask (Source.listDatabases c) (.listedDatabases c)
  listTables c := ask (Source.listTables c) (.listedTables c)
  reflect c := ask (Source.reflect c) (.reflected c)
  close c := ask (Source.close c) (.closed c)

/-- How often the schema has been reflected. -/
def reflections (r : Recorded σ κ) : Nat :=
  r.events.countP Source.Event.isReflection

end Recorded

/-! ### Records -/

/-- Nothing but binding a database failed. -/
def Untroubled (events : List (Source.Event κ)) : Prop :=
  ∀ e ∈ events, e.isTrouble = false

/-- A schema that is reflected right after the tables were listed has the listed tables. -/
def Consistent (events : List (Source.Event κ)) : Prop :=
  ∀ c names schema, [.listedTables c (.ok names), .reflected c (.ok schema)] <:+: events →
    ∀ name, name ∈ names ↔ name ∈ schema.tableNames

theorem Untroubled.of_prefix {before events : List (Source.Event κ)} (h : Untroubled events)
    (hp : before <+: events) : Untroubled before :=
  fun e he => h e (hp.subset he)

theorem Consistent.of_prefix {before events : List (Source.Event κ)} (h : Consistent events)
    (hp : before <+: events) : Consistent before :=
  fun c names schema hi => h c names schema (hi.trans hp.isInfix)

/-! ### What an answer adds to a record -/

theorem Recorded.events_ask {act : Action σ α} {event : Except Fault α → Source.Event κ} {r r' : Recorded σ κ}
    {answer : Except Fault α} (h : ask act event r = (answer, r')) : r'.events = r.events ++ [event answer] := by
  obtain ⟨rfl, rfl⟩ := Prod.mk.inj h
  rfl

theorem Recorded.reflections_of_events {r r' : Recorded σ κ} {e : Source.Event κ}
    (h : r'.events = r.events ++ [e]) : r'.reflections = r.reflections + if e.isReflection then 1 else 0 := by
  rw [reflections, h, List.countP_append, List.countP_singleton, reflections]

variable [Source σ κ]

theorem Recorded.events_connect {dsn : String} {r r' : Recorded σ κ} {answer : Except Fault κ}
    (h : Source.connect dsn r = (answer, r')) : r'.events = r.events ++ [.connected dsn answer] :=
  events_ask h

theorem Recorded.events_bind {c : κ} {name : String} {r r' : Recorded σ κ} {answer : Except Fault κ}
    (h : Source.bind c name r = (answer, r')) : r'.events = r.events ++ [.bound c name answer] :=
  events_ask h

theorem Recorded.events_listTables {c : κ} {r r' : Recorded σ κ} {answer : Except Fault (List String)}
    (h : Source.listTables c r = (answer, r')) : r'.events = r.events ++ [.listedTables c answer] :=
  events_ask h

theorem Recorded.events_reflect {c : κ} {r r' : Recorded σ κ} {answer : Except Fault Database}
    (h : Source.reflect c r = (answer, r')) : r'.events = r.events ++ [.reflected c answer] :=
  events_ask h

/-! ### Records without trouble -/

variable {c : κ} {r r₁ r₂ : Recorded σ κ}

theorem Untroubled.not_listTables_error {e : Fault} (hu : Untroubled r₁.events) :
    Source.listTables c r ≠ (.error e, r₁) := fun hl => by
  have ht := hu (.listedTables c (.error e)) (by simp [Recorded.events_listTables hl])
  cases ht

theorem Untroubled.not_reflect_error {e : Fault} (hu : Untroubled r₁.events) :
    Source.reflect c r ≠ (.error e, r₁) := fun hr => by
  have ht := hu (.reflected c (.error e)) (by simp [Recorded.events_reflect hr])
  cases ht

/-- A schema that is reflected right after the tables were listed has the tables. -/
theorem Consistent.mem_tableNames {names : List String} {schema : Database} (hc : Consistent r₂.events)
    (hl : Source.listTables c r = (.ok names, r₁)) (hr : Source.reflect c r₁ = (.ok schema, r₂)) (name : String) :
    name ∈ names ↔ name ∈ schema.tableNames := by
  have hevents : r₂.events = r.events ++ [.listedTables c (.ok names), .reflected c (.ok schema)] := by
    rw [Recorded.events_reflect hr, Recorded.events_listTables hl, List.append_assoc, List.singleton_append]
  refine hc c names schema ?_ name
  rw [hevents]
  exact (List.suffix_append _ _).isInfix

end Stencil
