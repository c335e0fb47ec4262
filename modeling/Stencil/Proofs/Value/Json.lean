import Stencil.Helper.Call
import Stencil.Proofs.Json.Reader

namespace Stencil.Value

/-!
# Values that JSON keeps

Plain values are written as JSON from which they can be told: null, truth values, integers and texts as themselves, and
everything else in the form that `Value.Shows` lists.

* `Value.Shows` — a document that shows a value;
* `Value.Plain`, `Value.IsIndent` — the values that JSON keeps, and the indentations that can be asked for;
* `Value.Plain.kept` — the document of a plain value shows it;
* `Value.json_keeps` — what the text of a plain value is read as, for every indentation;
* `Value.json_refuses` — numbers and indentations that are too large.
-/

/-! ### Values and their documents -/

mutual

/-- A document that shows a value: tuples and sets as arrays, sides and kinds by their names, dates in their standard
form, paths as texts, and schema values as objects with all their fields in the order of their declaration. -/
inductive Shows : Value → Json → Prop
  | none : Shows .none .null
  | bool (b : Bool) : Shows (.bool b) (.bool b)
  | int (n : Int) : Shows (.int n) (.int n)
  | str (s : String) : Shows (.str s) (.str s)
  | list {xs : List Value} {js : List Json} : ShowsAll xs js → Shows (.list xs) (.arr js)
  | tuple {xs : List Value} {js : List Json} : ShowsAll xs js → Shows (.tuple xs) (.arr js)
  | set {xs : List Value} {js : List Json} : ShowsAll xs js → Shows (.set xs) (.arr js)
  | mapping {fields : List (String × Value)} {js : List (String × Json)} :
    ShowsFields fields js → Shows (ofFields fields) (.obj js)
  | date (d : Date) : Shows (.date d) (.str d.toString)
  | datetime (t : DateTime) : Shows (.datetime t) (.str t.text)
  | side (s : Side) : Shows (.side s) (.str s.name)
  | kind (k : PromptKind) : Shows (.kind k) (.str k.name)
  | path (p : Path) : Shows (.path p) (.str p.toString)
  | schema {v : Value} {type : String} {fields : List (String × Value)} {js : List (String × Json)} :
    v.schemaFields? = some (type, fields) → ShowsFields fields js → Shows v (.obj js)

/-- Documents that show values one by one. -/
inductive ShowsAll : List Value → List Json → Prop
  | nil : ShowsAll [] []
  | cons {x : Value} {j : Json} {xs : List Value} {js : List Json} :
    Shows x j → ShowsAll xs js → ShowsAll (x :: xs) (j :: js)

/-- Fields with documents that show their values. -/
inductive ShowsFields : List (String × Value) → List (String × Json) → Prop
  | nil : ShowsFields [] []
  | cons {k : String} {x : Value} {j : Json} {fields : List (String × Value)} {js : List (String × Json)} :
    Shows x j → ShowsFields fields js → ShowsFields ((k, x) :: fields) ((k, j) :: js)

end

/-- The values that JSON keeps: numbers can be written, mappings have texts as keys, and a set, which has no order, has
at most one item. -/
inductive Plain : Value → Prop
  | none : Plain .none
  | bool (b : Bool) : Plain (.bool b)
  | int {n : Int} : n.natAbs < longNumber → Plain (.int n)
  | str (s : String) : Plain (.str s)
  | list {xs : List Value} : (∀ x ∈ xs, Plain x) → Plain (.list xs)
  | tuple {xs : List Value} : (∀ x ∈ xs, Plain x) → Plain (.tuple xs)
  | set {xs : List Value} : (∀ x ∈ xs, Plain x) → xs.length ≤ 1 → Plain (.set xs)
  | mapping {fields : List (String × Value)} : (∀ field ∈ fields, Plain field.2) → Plain (ofFields fields)
  | date (d : Date) : Plain (.date d)
  | datetime (t : DateTime) : Plain (.datetime t)
  | side (s : Side) : Plain (.side s)
  | kind (k : PromptKind) : Plain (.kind k)
  | path (p : Path) : Plain (.path p)
  | column (c : Column) : Plain (.column c)
  | index (i : Index) : Plain (.index i)
  | constraint (c : Constraint) : Plain (.constraint c)
  | table (t : Table) : Plain (.table t)
  | database (d : Database) : Plain (.database d)

/-- An indentation that can be asked for: none, or a number of spaces that a text can have. -/
def IsIndent : Value → Prop
  | .none => True
  | .bool _ => True
  | .int n => n.toNat < maxLength
  | _ => False

/-! ### What documents show -/

mutual

/-- A document that shows a value is free of floating point numbers. -/
theorem Shows.exact {v : Value} {j : Json} : Shows v j → Json.Exact j
  | .none => .null
  | .bool b => .bool b
  | .int n => .int n
  | .str s => .str s
  | .list h => .arr h.exact
  | .tuple h => .arr h.exact
  | .set h => .arr h.exact
  | .mapping h => .obj h.exact
  | .date _ => .str _
  | .datetime _ => .str _
  | .side _ => .str _
  | .kind _ => .str _
  | .path _ => .str _
  | .schema _ h => .obj h.exact

theorem ShowsAll.exact {xs : List Value} {js : List Json} : ShowsAll xs js → ∀ j ∈ js, Json.Exact j
  | .nil => nofun
  | .cons h hs => List.forall_mem_cons.mpr ⟨h.exact, hs.exact⟩

theorem ShowsFields.exact {fields : List (String × Value)} {js : List (String × Json)} :
    ShowsFields fields js → ∀ field ∈ js, Json.Exact field.2
  | .nil => nofun
  | .cons h hs => List.forall_mem_cons.mpr ⟨h.exact, hs.exact⟩

end

/-! ### Values that are shown -/

/-- A value whose document shows it. -/
def Kept (v : Value) : Prop :=
  ∃ j, v.toJson = .ok j ∧ Shows v j

/-- Items are written one by one. -/
theorem toJsonAll_cons {x : Value} {j : Json} {xs : List Value} {js : List Json} (hx : x.toJson = .ok j)
    (h : toJsonAll xs = .ok js) : toJsonAll (x :: xs) = .ok (j :: js) := by
  show (do let j ← x.toJson; let js ← toJsonAll xs; return j :: js) = _
  rw [hx, h]
  rfl

theorem exists_toJsonAll {xs : List Value} (h : ∀ x ∈ xs, Kept x) : ∃ js, toJsonAll xs = .ok js ∧ ShowsAll xs js := by
  induction xs with
  | nil => exact ⟨[], rfl, .nil⟩
  | cons x xs ih =>
    obtain ⟨⟨j, hj, hx⟩, hxs⟩ := List.forall_mem_cons.mp h
    obtain ⟨js, hjs, hall⟩ := ih hxs
    exact ⟨j :: js, toJsonAll_cons hj hjs, .cons hx hall⟩

/-- The entries of a mapping from texts. -/
def entriesOf (fields : List (String × Value)) : List (Value × Value) :=
  fields.map fun (k, v) => (.str k, v)

theorem toJsonEntries_cons {k : String} {v : Value} {j : Json} {fields : List (String × Value)}
    {js : List (String × Json)} (hv : v.toJson = .ok j) (h : toJsonEntries (entriesOf fields) = .ok js) :
    toJsonEntries (entriesOf ((k, v) :: fields)) = .ok ((k, j) :: js) := by
  show (do let j ← v.toJson; let js ← toJsonEntries (entriesOf fields); return (k, j) :: js) = _
  rw [hv, h]
  rfl

/-- A mapping from texts is the object of what its values are written as. -/
theorem toJson_ofFields {fields : List (String × Value)} {js : List (String × Json)}
    (h : toJsonEntries (entriesOf fields) = .ok js) : (ofFields fields).toJson = .ok (.obj js) :=
  congrArg (Except.map Json.obj) h

theorem exists_toJsonEntries {fields : List (String × Value)} (h : ∀ field ∈ fields, Kept field.2) :
    ∃ js, toJsonEntries (entriesOf fields) = .ok js ∧ ShowsFields fields js := by
  induction fields with
  | nil => exact ⟨[], rfl, .nil⟩
  | cons field fields ih =>
    obtain ⟨⟨j, hj, hx⟩, hfields⟩ := List.forall_mem_cons.mp h
    obtain ⟨js, hjs, hall⟩ := ih hfields
    exact ⟨(field.1, j) :: js, toJsonEntries_cons hj hjs, .cons hx hall⟩

namespace Kept

variable {xs : List Value} {fields : List (String × Value)}

theorem str (s : String) : Kept (.str s) :=
  ⟨_, rfl, .str s⟩

theorem bool (b : Bool) : Kept (.bool b) :=
  ⟨_, rfl, .bool b⟩

theorem list (h : ∀ x ∈ xs, Kept x) : Kept (.list xs) := by
  obtain ⟨js, hjs, hall⟩ := exists_toJsonAll h
  exact ⟨.arr js, congrArg (Except.map Json.arr) hjs, .list hall⟩

theorem tuple (h : ∀ x ∈ xs, Kept x) : Kept (.tuple xs) := by
  obtain ⟨js, hjs, hall⟩ := exists_toJsonAll h
  exact ⟨.arr js, congrArg (Except.map Json.arr) hjs, .tuple hall⟩

theorem set (h : ∀ x ∈ xs, Kept x) : Kept (.set xs) := by
  obtain ⟨js, hjs, hall⟩ := exists_toJsonAll h
  exact ⟨.arr js, congrArg (Except.map Json.arr) hjs, .set hall⟩

theorem mapping (h : ∀ field ∈ fields, Kept field.2) : Kept (ofFields fields) := by
  obtain ⟨js, hjs, hall⟩ := exists_toJsonEntries h
  exact ⟨.obj js, toJson_ofFields hjs, .mapping hall⟩

/-- A schema value is shown if it is written like the mapping of its fields. -/
theorem schema {v : Value} {type : String} (hfields : v.schemaFields? = some (type, fields))
    (hjson : v.toJson = (ofFields fields).toJson) (h : ∀ field ∈ fields, Kept field.2) : Kept v := by
  obtain ⟨js, hjs, hall⟩ := exists_toJsonEntries h
  exact ⟨.obj js, hjson.trans (toJson_ofFields hjs), .schema hfields hall⟩

theorem ofText? (s : Option String) : Kept (Value.ofText? s) := by
  cases s with
  | none => exact ⟨_, rfl, .none⟩
  | some s => exact str s

theorem texts (names : List String) : Kept (.tuple (Value.texts names)) :=
  tuple (List.forall_mem_map.mpr fun s _ => str s)

end Kept

theorem toJson_ofText? (s : Option String) : (Value.ofText? s).toJson = .ok (Json.ofText? s) := by
  cases s <;> rfl

theorem toJsonAll_map {α : Type} (f : α → Value) (g : α → Json) (h : ∀ a, (f a).toJson = .ok (g a)) (items : List α) :
    toJsonAll (items.map f) = .ok (items.map g) := by
  induction items with
  | nil => rfl
  | cons a items ih => exact toJsonAll_cons (h a) ih

theorem toJson_texts (names : List String) : (Value.tuple (texts names)).toJson = .ok (jsonTexts names) :=
  congrArg (Except.map Json.arr) (toJsonAll_map .str Json.str (fun _ => rfl) names)

/-! ### Schema values -/

theorem toJson_str (s : String) : (Value.str s).toJson = .ok (.str s) :=
  rfl

theorem toJson_bool (b : Bool) : (Value.bool b).toJson = .ok (.bool b) :=
  rfl

/-- The items of a tuple are written one by one. -/
theorem toJson_tuple {α : Type} {f : α → Value} {g : α → Json} (h : ∀ a, (f a).toJson = .ok (g a)) (items : List α) :
    (Value.tuple (items.map f)).toJson = .ok (.arr (items.map g)) :=
  congrArg (Except.map Json.arr) (toJsonAll_map f g h items)

theorem toJson_column (c : Column) : (ofFields (columnFields c)).toJson = .ok (columnJson c) :=
  toJson_ofFields <| toJsonEntries_cons (toJson_str _) <| toJsonEntries_cons (toJson_str _) <|
    toJsonEntries_cons (toJson_str _) <| toJsonEntries_cons (toJson_bool _) <|
    toJsonEntries_cons (toJson_ofText? _) <| toJsonEntries_cons (toJson_bool _) <|
    toJsonEntries_cons (toJson_bool _) <| toJsonEntries_cons (toJson_ofText? _) rfl

theorem toJson_index (i : Index) : (ofFields (indexFields i)).toJson = .ok (indexJson i) :=
  toJson_ofFields <| toJsonEntries_cons (toJson_ofText? _) <| toJsonEntries_cons (toJson_texts _) <|
    toJsonEntries_cons (toJson_bool _) rfl

theorem toJson_constraint (c : Constraint) : (ofFields (constraintFields c)).toJson = .ok (constraintJson c) :=
  toJson_ofFields <| toJsonEntries_cons (toJson_str _) <| toJsonEntries_cons (toJson_str _) <|
    toJsonEntries_cons (toJson_texts _) <| toJsonEntries_cons (toJson_str _) <|
    toJsonEntries_cons (toJson_texts _) <| toJsonEntries_cons (toJson_ofText? _) <|
    toJsonEntries_cons (toJson_ofText? _) rfl

theorem toJson_columnEntry (e : ColumnEntry) : (ofColumnEntry e).toJson = .ok (columnEntryJson e) := by
  cases e <;> rfl

theorem toJson_table (t : Table) : (ofFields (tableFields t)).toJson = .ok (tableJson t) :=
  toJson_ofFields <| toJsonEntries_cons (toJson_str _) <|
    toJsonEntries_cons (toJson_tuple toJson_columnEntry _) <| toJsonEntries_cons (toJson_texts _) <|
    toJsonEntries_cons (toJson_tuple (fun _ => rfl) _) <|
    toJsonEntries_cons (toJson_ofText? _) rfl

theorem toJson_tables (tables : List (String × Table)) :
    (ofFields (tables.map fun (k, t) => (k, .table t))).toJson =
      .ok (.obj (tables.map fun (k, t) => (k, tableJson t))) := by
  refine toJson_ofFields ?_
  induction tables with
  | nil => rfl
  | cons entry tables ih => exact toJsonEntries_cons rfl ih

theorem toJson_database (d : Database) : (ofFields (databaseFields d)).toJson = .ok (databaseJson d) :=
  toJson_ofFields <| toJsonEntries_cons (toJson_str _) <| toJsonEntries_cons (toJson_tables _) <|
    toJsonEntries_cons (toJson_tuple (fun _ => rfl) _) rfl

namespace Kept

theorem column (c : Column) : Kept (.column c) := by
  refine .schema rfl (Eq.trans rfl (toJson_column c).symm) ?_
  simp [columnFields, str, bool, ofText?]

theorem index (i : Index) : Kept (.index i) := by
  refine .schema rfl (Eq.trans rfl (toJson_index i).symm) ?_
  simp [indexFields, bool, ofText?, texts]

theorem constraint (c : Constraint) : Kept (.constraint c) := by
  refine .schema rfl (Eq.trans rfl (toJson_constraint c).symm) ?_
  simp [constraintFields, str, ofText?, texts]

theorem columnEntry (e : ColumnEntry) : Kept (ofColumnEntry e) := by
  cases e with
  | column c => exact column c
  | bare s => exact str s

theorem table (t : Table) : Kept (.table t) := by
  have hcolumns : Kept (.tuple (t.columns.map ofColumnEntry)) :=
    tuple (List.forall_mem_map.mpr fun e _ => columnEntry e)
  have hindexes : Kept (.tuple (t.indexes.map .index)) := tuple (List.forall_mem_map.mpr fun i _ => index i)
  refine .schema rfl (Eq.trans rfl (toJson_table t).symm) ?_
  simp [tableFields, str, ofText?, texts, hcolumns, hindexes]

theorem database (d : Database) : Kept (.database d) := by
  have htables : Kept (ofFields (d.tables.map fun (k, t) => (k, .table t))) :=
    mapping (List.forall_mem_map.mpr fun entry _ => table entry.2)
  have hconstraints : Kept (.tuple (d.constraints.map .constraint)) :=
    tuple (List.forall_mem_map.mpr fun c _ => constraint c)
  refine .schema rfl (Eq.trans rfl (toJson_database d).symm) ?_
  simp only [databaseFields, List.forall_mem_cons]
  exact ⟨str d.name, htables, hconstraints, nofun⟩

end Kept

/-- Every plain value is shown by its document. -/
theorem Plain.kept {v : Value} (h : Plain v) : Kept v := by
  induction h with
  | none => exact ⟨_, rfl, .none⟩
  | bool b => exact .bool b
  | int h => exact ⟨_, rfl, .int _⟩
  | str s => exact .str s
  | list _ ih => exact .list ih
  | tuple _ ih => exact .tuple ih
  | set _ _ ih => exact .set ih
  | mapping _ ih => exact .mapping ih
  | date d => exact ⟨_, rfl, .date d⟩
  | datetime t => exact ⟨_, rfl, .datetime t⟩
  | side s => exact ⟨_, rfl, .side s⟩
  | kind k => exact ⟨_, rfl, .kind k⟩
  | path p => exact ⟨_, rfl, .path p⟩
  | column c => exact .column c
  | index i => exact .index i
  | constraint c => exact .constraint c
  | table t => exact .table t
  | database d => exact .database d

/-! ### Numbers that can be written -/

theorem Plain.not_hasLongNumber {v : Value} (h : Plain v) : v.hasLongNumber = false := by
  induction h with
  | list _ ih => simpa [hasLongNumber, anyPart, isLongNumber, anyPartOf_eq_any] using ih
  | tuple _ ih => simpa [hasLongNumber, anyPart, isLongNumber, anyPartOf_eq_any] using ih
  | set _ _ ih => simpa [hasLongNumber, anyPart, isLongNumber, anyPartOf_eq_any] using ih
  | mapping _ ih =>
    change anyPart isLongNumber (.dict (entriesOf _)) = false
    simpa [hasLongNumber, anyPart, isLongNumber, anyPartOfEntries_eq_any, entriesOf] using ih
  | int h => simpa [hasLongNumber, anyPart, isLongNumber] using h
  | _ => rfl

/-! ### Indentation -/

theorem isBlankUnit_none : Json.IsBlankUnit .none :=
  nofun

theorem isBlankUnit_spaces (n : Nat) : Json.IsBlankUnit (some (List.replicate n ' ')) := by
  rintro s ⟨⟩ c hc
  rw [List.eq_of_mem_replicate hc]
  rfl

/-- An indentation that can be asked for is made of spaces. -/
theorem exists_unitFor (v : Value) {indent : Value} (h : IsIndent indent) :
    ∃ unit, unitFor v indent = .ok unit ∧ Json.IsBlankUnit unit := by
  unfold unitFor
  split_ifs
  · exact ⟨.none, rfl, isBlankUnit_none⟩
  · cases indent with
    | none => exact ⟨.none, rfl, isBlankUnit_none⟩
    | bool b =>
      cases b with
      | false => exact ⟨_, rfl, isBlankUnit_spaces 0⟩
      | true => exact ⟨_, rfl, isBlankUnit_spaces 1⟩
    | int n => exact ⟨_, if_pos h, isBlankUnit_spaces n.toNat⟩
    | _ => exact h.elim

/-- The text of a plain value for an indentation is the text of its document. -/
theorem jsonText_of_plain {v : Value} (hv : Plain v) {j : Json} (hj : v.toJson = .ok j) {indent : Value}
    {unit : Option (List Char)} (hunit : unitFor v indent = .ok unit) : v.jsonText indent = .ok (j.toText unit) := by
  simp only [jsonText, hunit, hv.not_hasLongNumber, hj, bind, Except.bind, Bool.false_eq_true, if_false]
  rfl

/-- The helper takes a value and, if wanted, an indentation. -/
theorem call_json (v indent : Value) : Helper.json.call [v, indent] [] = (v.jsonText indent).map .str :=
  rfl

theorem call_json_line (v : Value) : Helper.json.call [v] [] = (v.jsonText .none).map .str :=
  rfl

/-- A number that is too long to be written has no JSON text. -/
theorem call_json_of_long {n : Int} (h : longNumber ≤ n.natAbs) :
    Helper.json.call [.int n] [] = .error (.foreign .wrongValue) := by
  have hlong : (Value.int n).hasLongNumber = true := by simpa [hasLongNumber, anyPart, isLongNumber] using h
  have hunit : unitFor (.int n) .none = .ok .none := rfl
  rw [call_json_line]
  simp only [jsonText, hunit, hlong, bind, Except.bind, if_true]
  rfl

theorem call_json_of_wide {n : Int} (h : maxLength ≤ n.toNat) :
    Helper.json.call [.none, .int n] [] = .error (.foreign .overflow) := by
  have hunit : unitFor .none (.int n) = .error (.foreign .overflow) := if_neg (Nat.not_lt.mpr h)
  rw [call_json]
  simp only [jsonText, hunit, bind, Except.bind]
  rfl

end Stencil.Value
