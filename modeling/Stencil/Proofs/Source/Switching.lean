import Stencil.Proofs.Source.Steady
import Stencil.Proofs.Task.Call

namespace Stencil.Exchange

open Server

/-!
# Switching databases

A connection to a server is held while databases are bound over it. A switch to another database opens a new pool
first and closes the old one only once the new one connects; so a switch that fails leaves the old pool in use, and no
pool is ever left over.

* `live` — the pools that are open after some events;
* `obstacle?`, `openPool_of_none`, `openPool_of_some` — when a pool can be opened, and what happens either way;
* `Connection`, `Connection.switch`, `Connection.after` — a connection, and what is left of it after switches;
* `Connection.Alike`, `Connection.alike_of_dsn` — connections that no answer tells apart;
* `Connection.Sole` — the pool in use is the only one that is open;
* `switch_atomic` — a switch fails without a trace, or leads to a connection like one that is opened directly.
-/

/-! ### Open pools -/

/-- The open pools after an event. -/
def keep (pools : List Pool) : Event → List Pool
  | .opened pool => pools ++ [pool]
  | .closed pool => pools.filter fun other => decide (other ≠ pool)
  | _ => pools

/-- The pools that were opened and not closed again. -/
def live (events : List Event) : List Pool :=
  events.foldl keep []

theorem live_append (events since : List Event) : live (events ++ since) = since.foldl keep (live events) :=
  List.foldl_append

/-- A pool that is opened and closed again leaves the others open. -/
theorem keep_closed_opened {pools : List Pool} {pool : Pool} (h : pool ∉ pools) :
    keep (keep pools (.opened pool)) (.closed pool) = pools := by
  have hothers : pools.filter (fun other => decide (other ≠ pool)) = pools :=
    List.filter_eq_self.mpr fun other hm => decide_eq_true fun he => h (he ▸ hm)
  rw [keep, keep, List.filter_append, hothers]
  simp

/-! ### Opening a pool -/

/-- What stands in the way of a pool: it cannot be made, or it does not connect. -/
def obstacle? (s : Server) (d : Dsn) : Option Refusal :=
  match s.checkPool d with
  | .error refusal => some refusal
  | .ok () =>
    match s.checkConnect d with
    | .error refusal => some refusal
    | .ok () => none

/-- The pool that is opened next. -/
def nextPool (x : Exchange) (d : Dsn) : Pool where
  number := x.events.length
  dsn := d

variable {x : Exchange} {d : Dsn} {refusal : Refusal}

/-- A pool to which nothing is opposed is opened. -/
theorem openPool_of_none (h : obstacle? x.server d = none) :
    openPool d x = (.ok (nextPool x d), { x with events := x.events ++ [.opened (nextPool x d)] }) := by
  unfold obstacle? at h
  cases hp : x.server.checkPool d with
  | error refusal => simp [hp] at h
  | ok =>
    cases hc : x.server.checkConnect d with
    | error refusal => simp [hp, hc] at h
    | ok => simp [openPool, record, Action.bind_apply, hp, hc, nextPool]

/-- A pool to which something is opposed is not opened, or closed at once: the open pools stay as they are. -/
theorem openPool_of_some (h : obstacle? x.server d = some refusal) :
    ∃ since, openPool d x = (.error (refusal.fault ("connect to " ++ d.shown)), { x with events := x.events ++ since }) ∧
      ∀ pools, nextPool x d ∉ pools → since.foldl keep pools = pools := by
  unfold obstacle? at h
  cases hp : x.server.checkPool d with
  | error refusal' =>
    obtain rfl : refusal' = refusal := by simpa [hp] using h
    exact ⟨[.refused d], by simp [openPool, record, Action.bind_apply, hp], fun pools _ => rfl⟩
  | ok =>
    cases hc : x.server.checkConnect d with
    | error refusal' =>
      obtain rfl : refusal' = refusal := by simpa [hp, hc] using h
      refine ⟨[.opened (nextPool x d), .closed (nextPool x d)], ?_, fun pools hm => keep_closed_opened hm⟩
      simp [openPool, record, Action.bind_apply, hp, hc, nextPool]
    | ok => simp [hp, hc] at h

/-! ### Connections -/

/-- A connection as it is held: the pool in use, and all that happened so far. -/
structure Connection where
  pool : Pool
  exchange : Exchange

/-- What can be learnt over a connection. -/
structure View where
  databaseName : String
  databases : Except Fault (List String)
  tables : Except Fault (List String)
  schema : Except Fault Database

namespace Connection

/-- What can be learnt over a connection. -/
def view (c : Connection) : View where
  databaseName := Source.databaseName Exchange c.pool
  databases := (Source.listDatabases c.pool c.exchange).1
  tables := (Source.listTables c.pool c.exchange).1
  schema := (Source.reflect c.pool c.exchange).1

/-- A connection at a time at which its server is as given. -/
def facing (c : Connection) (server : Server) : Connection where
  pool := c.pool
  exchange := { c.exchange with server }

/-- Bind another database. If that fails, the pool stays in use. -/
def switch (c : Connection) (name : String) : Except Fault Unit × Connection :=
  match Source.bind c.pool name c.exchange with
  | (.ok fresh, x) => (.ok (), ⟨fresh, x⟩)
  | (.error e, x) => (.error e, ⟨c.pool, x⟩)

/-- A connection after some switches. The server may be another one at each of them. -/
def after (c : Connection) (switches : List (Server × String)) : Connection :=
  switches.foldl (fun c s => ((c.facing s.1).switch s.2).2) c

@[simp] theorem after_nil (c : Connection) : c.after [] = c := rfl

@[simp] theorem after_cons (c : Connection) (s : Server × String) (switches : List (Server × String)) :
    c.after (s :: switches) = ((c.facing s.1).switch s.2).2.after switches := rfl

/-- The data source name of a connection with another database. -/
def target (c : Connection) (name : String) : Dsn :=
  c.pool.dsn.withDatabase name

variable {c c' : Connection} {name : String}

/-- A switch to which nothing is opposed opens a new pool and then closes the old one. -/
theorem switch_of_none (h : obstacle? c.exchange.server (c.target name) = none) :
    c.switch name = (.ok (), ⟨nextPool c.exchange (c.target name), { c.exchange with
      events := c.exchange.events ++ [.opened (nextPool c.exchange (c.target name)), .closed c.pool] }⟩) := by
  have hbind : Source.bind c.pool name c.exchange = (.ok (nextPool c.exchange (c.target name)), { c.exchange with
      events := c.exchange.events ++ [.opened (nextPool c.exchange (c.target name)), .closed c.pool] }) := by
    show bind c.pool name c.exchange = _
    rw [bind, Action.bind_apply, ← target, openPool_of_none h]
    simp [record, Action.bind_apply]
  rw [switch, hbind]

/-- A switch to which something is opposed fails, and keeps the pool and what is open. -/
theorem switch_of_some (h : obstacle? c.exchange.server (c.target name) = some refusal) :
    ∃ since, c.switch name = (.error (refusal.fault ("connect to " ++ (c.target name).shown)),
        ⟨c.pool, { c.exchange with events := c.exchange.events ++ since }⟩) ∧
      ∀ pools, nextPool c.exchange (c.target name) ∉ pools → since.foldl keep pools = pools := by
  obtain ⟨since, hopen, hkeep⟩ := openPool_of_some h
  refine ⟨since, ?_, hkeep⟩
  have hbind : Source.bind c.pool name c.exchange = (.error (refusal.fault ("connect to " ++ (c.target name).shown)),
      { c.exchange with events := c.exchange.events ++ since }) := by
    show bind c.pool name c.exchange = _
    rw [bind, Action.bind_apply, ← target, hopen]
  rw [switch, hbind]

/-! ### Connections that no answer tells apart -/

/-- Connections that always tell the same, at any time and after any switches, and that fail alike to switch. -/
def Alike (c c' : Connection) : Prop :=
  ∀ switches server, ((c.after switches).facing server).view = ((c'.after switches).facing server).view ∧
    ∀ name, (((c.after switches).facing server).switch name).1 = (((c'.after switches).facing server).switch name).1

theorem listDatabases_congr {pool pool' : Pool} {x x' : Exchange} (hd : pool.dsn = pool'.dsn)
    (hs : x.server = x'.server) : (listDatabases pool x).1 = (listDatabases pool' x').1 := by
  unfold listDatabases
  rw [hd]
  split
  · cases hc : x'.server.checkConnect pool'.dsn <;>
      cases hq : x'.server.check .catalog (pool'.dsn.database.getD "") <;>
      simp [record, Action.bind_apply, Action.map_apply, ask_apply, hs, hc, hq, Except.map]
  · rw [ask_apply, ask_apply, hs]

/-- What can be learnt depends on the server and the data source name only, not on what happened before. -/
theorem view_congr (hd : c.pool.dsn = c'.pool.dsn) (hs : c.exchange.server = c'.exchange.server) :
    c.view = c'.view := by
  have hdatabases : (Source.listDatabases c.pool c.exchange).1 = (Source.listDatabases c'.pool c'.exchange).1 :=
    listDatabases_congr hd hs
  have htables : (listTables c.pool c.exchange).1 = (listTables c'.pool c'.exchange).1 := by
    rw [listTables, listTables, ask_apply, ask_apply, hd, hs]
  have hschema : (reflect c.pool c.exchange).1 = (reflect c'.pool c'.exchange).1 := by
    rw [reflect, reflect, ask_apply, ask_apply, hd, hs]
  have hname : Source.databaseName Exchange c.pool = Source.databaseName Exchange c'.pool :=
    congrArg databaseName hd
  exact View.mk.injEq .. |>.mpr ⟨hname, hdatabases, htables, hschema⟩

theorem switch_congr (hd : c.pool.dsn = c'.pool.dsn) (hs : c.exchange.server = c'.exchange.server) (name : String) :
    (c.switch name).1 = (c'.switch name).1 ∧ (c.switch name).2.pool.dsn = (c'.switch name).2.pool.dsn := by
  have htarget : c.target name = c'.target name := congrArg (Dsn.withDatabase · name) hd
  cases ho : obstacle? c.exchange.server (c.target name) with
  | none =>
    rw [switch_of_none ho, switch_of_none (hs ▸ htarget ▸ ho)]
    exact ⟨rfl, htarget⟩
  | some refusal =>
    obtain ⟨_, h, -⟩ := switch_of_some ho
    obtain ⟨_, h', -⟩ := switch_of_some (hs ▸ htarget ▸ ho)
    rw [h, h', htarget]
    exact ⟨rfl, hd⟩

theorem dsn_after_congr (hd : c.pool.dsn = c'.pool.dsn) (switches : List (Server × String)) :
    (c.after switches).pool.dsn = (c'.after switches).pool.dsn := by
  induction switches generalizing c c' with
  | nil => exact hd
  | cons s switches ih =>
    have hfacing : (c.facing s.1).pool.dsn = (c'.facing s.1).pool.dsn := hd
    exact ih (switch_congr hfacing rfl s.2).2

/-- Connections with one data source name are alike, whatever happened before. -/
theorem alike_of_dsn (hd : c.pool.dsn = c'.pool.dsn) : Alike c c' := by
  intro switches server
  have hafter := dsn_after_congr hd switches
  have hfacing : ((c.after switches).facing server).pool.dsn = ((c'.after switches).facing server).pool.dsn := hafter
  exact ⟨view_congr hfacing rfl, fun name => (switch_congr hfacing rfl name).1⟩

/-! ### What switches keep -/

/-- Of all pools since a moment, the one in use is the only one that is open. -/
structure Sole (start : List Event) (c : Connection) : Prop where
  since : ∃ since, c.exchange.events = start ++ since ∧ live since = [c.pool]
  number : c.pool.number < c.exchange.events.length

theorem sole_of_openPool {x₁ : Exchange} {pool : Pool} (h : openPool d x = (.ok pool, x₁)) :
    Sole x.events ⟨pool, x₁⟩ ∧ pool.dsn = d := by
  cases ho : obstacle? x.server d with
  | none =>
    rw [openPool_of_none ho] at h
    cases h
    exact ⟨⟨⟨_, rfl, rfl⟩, by simp [nextPool]⟩, rfl⟩
  | some refusal =>
    obtain ⟨_, hopen, -⟩ := openPool_of_some ho
    rw [hopen] at h
    cases h

/-- A switch keeps the pool in use the only one that is open, whether it succeeds or not. -/
theorem Sole.switch {start : List Event} (h : Sole start c) (name : String) : Sole start (c.switch name).2 := by
  obtain ⟨⟨since, hevents, hlive⟩, hnumber⟩ := h
  -- The next pool has a number that no pool had before.
  have hnext : nextPool c.exchange (c.target name) ≠ c.pool := fun he => by
    rw [← he] at hnumber
    exact Nat.lt_irrefl _ hnumber
  cases ho : obstacle? c.exchange.server (c.target name) with
  | none =>
    rw [switch_of_none ho]
    refine ⟨⟨since ++ [.opened (nextPool c.exchange (c.target name)), .closed c.pool], ?_, ?_⟩, by simp [nextPool]⟩
    · show c.exchange.events ++ _ = _
      rw [hevents, List.append_assoc]
    · rw [live_append, hlive]
      simp [keep, hnext]
  | some refusal =>
    obtain ⟨more, hswitch, hkeep⟩ := switch_of_some ho
    rw [hswitch]
    refine ⟨⟨since ++ more, ?_, ?_⟩, ?_⟩
    · show c.exchange.events ++ more = _
      rw [hevents, List.append_assoc]
    · rw [live_append, hlive]
      exact hkeep _ (by simpa using hnext)
    · show c.pool.number < (c.exchange.events ++ more).length
      rw [List.length_append]
      exact Nat.lt_add_right _ hnumber

theorem Sole.after {start : List Event} (h : Sole start c) (switches : List (Server × String)) :
    Sole start (c.after switches) := by
  induction switches generalizing c with
  | nil => exact h
  | cons s switches ih =>
    have hfacing : Sole start (c.facing s.1) := ⟨h.since, h.number⟩
    exact ih (hfacing.switch s.2)

/-- Once the pool in use is closed, none is open. -/
theorem Sole.close {start : List Event} (h : Sole start c) :
    ∃ since, (Source.close c.pool c.exchange).2.events = start ++ since ∧ live since = [] := by
  obtain ⟨⟨since, hevents, hlive⟩, -⟩ := h
  refine ⟨since ++ [.closed c.pool], ?_, ?_⟩
  · show c.exchange.events ++ [.closed c.pool] = _
    rw [hevents, List.append_assoc]
  · rw [live_append, hlive]
    simp [keep]

/-- Whatever database a connection was switched to, the next switch starts from the same server. -/
theorem target_after (c : Connection) (switches : List (Server × String)) (name : String) :
    (c.after switches).target name = c.target name := by
  induction switches generalizing c with
  | nil => rfl
  | cons s switches ih =>
    rw [after_cons, ih]
    cases ho : obstacle? s.1 (c.target s.2) with
    | none =>
      rw [switch_of_none (c := c.facing s.1) ho]
      rfl
    | some refusal =>
      obtain ⟨_, h, -⟩ := switch_of_some (c := c.facing s.1) ho
      rw [h]
      rfl

end Connection

/-! ### Switches -/

/-- **A switch is atomic.** Take a connection that was opened for a data source name, and any switches since, whatever
the server was at each of them. Of all pools since then, only the one in use is open, and none once it is closed. The next
switch either fails, because a pool cannot be made or does not connect, and keeps the pool; that is a failure of the
database unless the server says otherwise, and the connection tells what it told before. Or it succeeds, and the
connection is like one that is opened for the database directly. A task that cannot switch stays as it is. -/
theorem switch_atomic {x₀ x₁ : Exchange} {pool : Pool} (h : openPool d x₀ = (.ok pool, x₁))
    (switches : List (Server × String)) {c : Connection} (hc : c = Connection.after ⟨pool, x₁⟩ switches) :
    (∃ since, c.exchange.events = x₀.events ++ since ∧ live since = [c.pool]) ∧
    (∃ since, (Source.close c.pool c.exchange).2.events = x₀.events ++ since ∧ live since = []) ∧
    (∀ server name e c', (c.facing server).switch name = (.error e, c') →
      (∃ refusal, obstacle? server (d.withDatabase name) = some refusal ∧
        e = refusal.fault ("connect to " ++ (d.withDatabase name).shown) ∧
        ((∀ text, refusal ≠ .other text) → ∃ message, e = .database message)) ∧
      c'.pool = c.pool ∧ c'.view = (c.facing server).view ∧ c'.Alike c) ∧
    (∀ server name c', (c.facing server).switch name = (.ok (), c') →
      ∀ x : Exchange, x.server = server →
        ∃ direct x', openPool (d.withDatabase name) x = (.ok direct, x') ∧
          c'.view = Connection.view ⟨direct, x'⟩ ∧ c'.Alike ⟨direct, x'⟩) ∧
    ∀ (t : Task Exchange Pool) v e x', Source.bind t.connection v.text t.source = (.error e, x') →
      Task.answer .database v t = (.error e, { t with source := x' }) := by
  obtain ⟨hsole, rfl⟩ := Connection.sole_of_openPool h
  have hsole : c.Sole x₀.events := hc ▸ hsole.after switches
  -- A switch changes the database of a connection and nothing else, so all switches start from the same place.
  have htarget : ∀ server name, (c.facing server).target name = pool.dsn.withDatabase name := fun server name =>
    hc ▸ Connection.target_after ⟨pool, x₁⟩ switches name
  refine ⟨hsole.since, hsole.close, fun server name e c' hswitch => ?_, fun server name c' hswitch x hx => ?_,
    fun t v e x' hb => ?_⟩
  · cases ho : obstacle? server (pool.dsn.withDatabase name) with
    | none =>
      rw [Connection.switch_of_none (c := c.facing server) (htarget server name ▸ ho)] at hswitch
      cases hswitch
    | some refusal =>
      obtain ⟨since, hfail, -⟩ := Connection.switch_of_some (c := c.facing server) (htarget server name ▸ ho)
      rw [hfail, htarget] at hswitch
      obtain ⟨he, rfl⟩ := Prod.mk.inj hswitch
      obtain rfl := Except.error.inj he
      refine ⟨⟨refusal, rfl, rfl, fun hother => ?_⟩, rfl, Connection.view_congr rfl rfl, Connection.alike_of_dsn rfl⟩
      cases refusal with
      | database text => exact ⟨_, rfl⟩
      | driverMissing text => exact ⟨_, rfl⟩
      | other text => exact absurd rfl (hother text)
  · cases ho : obstacle? server (pool.dsn.withDatabase name) with
    | none =>
      rw [Connection.switch_of_none (c := c.facing server) (htarget server name ▸ ho), htarget] at hswitch
      cases hswitch
      exact ⟨_, _, openPool_of_none (hx ▸ ho), Connection.view_congr rfl hx.symm, Connection.alike_of_dsn rfl⟩
    | some refusal =>
      obtain ⟨since, hfail, -⟩ := Connection.switch_of_some (c := c.facing server) (htarget server name ▸ ho)
      rw [hfail] at hswitch
      cases hswitch
  · exact (Task.Taken.refused hb).perform_of_error

namespace Shop

/-- A server with two databases, of which one is out of reach. -/
def branches : Server where
  databases := [("north", []), ("south", [])]
  refusals := [("connect:south", .database "out of reach")]

/-- The server without one of its databases. -/
def anyBranch : Dsn :=
  { driver := "mysql", host := some "host" }

/-- A new connection to the server. -/
def opened : Connection where
  pool := nextPool { server := branches } anyBranch
  exchange := { server := branches, events := [.opened (nextPool { server := branches } anyBranch)] }

/-- The connection after a switch that fails and one that succeeds. -/
def switched : Connection :=
  opened.after [(branches, "south"), (branches, "north")]

end Shop

theorem switch_atomic_shop :
    openPool Shop.anyBranch { server := Shop.branches } = (.ok Shop.opened.pool, Shop.opened.exchange) ∧
      Shop.switched.view.databaseName = "north" ∧ live Shop.switched.exchange.events = [Shop.switched.pool] ∧
      ∃ message c', (Shop.switched.facing Shop.branches).switch "south" = (.error (.database message), c') ∧
        c'.view = (Shop.switched.facing Shop.branches).view := by
  have h : openPool Shop.anyBranch { server := Shop.branches } = (.ok Shop.opened.pool, Shop.opened.exchange) := rfl
  obtain ⟨⟨since, hevents, hlive⟩, -, hfails, -⟩ := switch_atomic (c := Shop.switched) h _ rfl
  obtain rfl : _ = since := hevents
  obtain ⟨message, c', hswitch⟩ : ∃ message c',
      (Shop.switched.facing Shop.branches).switch "south" = (.error (.database message), c') := ⟨_, _, rfl⟩
  exact ⟨h, rfl, hlive, message, c', hswitch, (hfails _ _ _ _ hswitch).2.2.1⟩

end Stencil.Exchange
