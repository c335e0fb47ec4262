import Stencil.Fault
import Stencil.OrderedMap
import Stencil.Text.Pieces
import Stencil.Value.Compare

namespace Stencil

/-!
# Checked reading of documents

A document is read against a schema; all misfits are reported together, each with its place and its
kind.

* `Checked` — a value or the misfits found;
* readers for texts, truth values, lists and records.
-/

/-- A part of a document that does not fit: the keys that lead to it, and the kind of misfit. -/
structure Misfit where
  place : List String
  kind : String
  deriving Repr, BEq, DecidableEq

/-- The outcome of reading a part of a document. -/
inductive Checked (α : Type) where
  | ok (a : α)
  | misfits (ms : List Misfit)

namespace Checked

variable {α β : Type}

/-- Apply a function to what was read. -/
def map (f : α → β) : Checked α → Checked β
  | ok a => ok (f a)
  | misfits ms => misfits ms

/-- Combine two parts; the misfits of both are reported. -/
def both (f : Checked (α → β)) (x : Checked α) : Checked β :=
  match f, x with
  | ok f, ok a => ok (f a)
  | ok _, misfits ms => misfits ms
  | misfits ms, ok _ => misfits ms
  | misfits ms, misfits ns => misfits (ms ++ ns)

instance : Functor Checked := ⟨map, fun a x => map (fun _ => a) x⟩

instance : Applicative Checked where
  pure := ok
  seq f x := both f (x ())

/-- A single misfit at the current place. -/
def misfit (kind : String) : Checked α :=
  misfits [⟨[], kind⟩]

/-- What was read under a key. -/
def under (key : String) : Checked α → Checked α
  | ok a => ok a
  | misfits ms => misfits (ms.map fun m => { m with place := key :: m.place })

/-- Read the items of a list, each under its position. -/
def items (read : Value → Checked α) (start : Nat) : List Value → Checked (List α)
  | [] => pure []
  | v :: vs => List.cons <$> under (toString start) (read v) <*> items read (start + 1) vs

end Checked

/-! ### Readers -/

namespace Document

/-- The text of some bytes, if they are one. -/
def textOfBytes? (b : List UInt8) : Option String :=
  String.fromUTF8? ⟨b.toArray⟩

/-- A text; bytes in UTF-8 and named constants will do. -/
def text : Value → Checked String
  | .str s => .ok s
  | .markup s => .ok s
  | .side s => .ok s.name
  | .kind k => .ok k.name
  | .bytes b =>
    match textOfBytes? b with
    | some s => .ok s
    | none => .misfit "string_unicode"
  | _ => .misfit "string_type"

/-- A text or nothing. -/
def text? : Value → Checked (Option String)
  | .none => .ok none
  | v => some <$> text v

/-- The truth value of a word, the case of letters aside. -/
def wordTruth? (s : String) : Option Bool :=
  let w := s.toLower
  if ["0", "f", "n", "no", "off", "false"].contains w then some false
  else if ["1", "t", "y", "on", "yes", "true"].contains w then some true
  else none

/-- A truth value: itself, zero or one, or a word for it. -/
def truth (v : Value) : Checked Bool :=
  let ofOption (b : Option Bool) : Checked Bool :=
    match b with
    | some b => .ok b
    | none => .misfit "bool_parsing"
  match v with
  | .bool b => .ok b
  | .int n =>
    if n.natAbs < Nat.pow 2 63 || n = -Int.pow 2 63 then
      ofOption (if n = 0 then some false else if n = 1 then some true else none)
    else .misfit "bool_type"
  | .float x =>
    if x == 0 then .ok false
    else if x == 1 then .ok true
    else match Decimal.Binary.ofFloat? x with
      | some b =>
        -- A number without a fraction is read as an integer of bounded size, any other is of the wrong kind.
        if Decimal.compareExact b (.ofInt b.truncate) == .eq && b.truncate.natAbs < Nat.pow 2 63 then
          .misfit "bool_parsing"
        else .misfit "bool_type"
      | none => .misfit "bool_type"
  | .str s => ofOption (wordTruth? s)
  | .markup s => ofOption (wordTruth? s)
  | .bytes b => ofOption ((textOfBytes? b).bind wordTruth?)
  | _ => .misfit "bool_type"

/-- The items of a list, tuple or set. -/
def listItems? : Value → Option (List Value)
  | .list xs => some xs
  | .tuple xs => some xs
  | .set xs => some xs
  | _ => none

/-- A list of texts. -/
def texts (v : Value) : Checked (List String) :=
  match listItems? v with
  | some xs => Checked.items text 0 xs
  | none => .misfit "list_type"

/-- The entries of a mapping that is to be a record. -/
def record {α : Type} (v : Value) (read : List (Value × Value) → Checked α) : Checked α :=
  match v with
  | .dict entries => read entries
  | _ => .misfit "model_type"

/-- The field of a record under one of its names, the first that is there. -/
def fieldAt? (entries : List (Value × Value)) : List String → Option (String × Value)
  | [] => none
  | name :: names =>
    match Value.lookup? entries (.str name) with
    | some v => some (name, v)
    | none => fieldAt? entries names

/-- A field that may be absent. -/
def optional {α : Type} (entries : List (Value × Value)) (names : List String) (default : α)
    (read : Value → Checked α) : Checked α :=
  match fieldAt? entries names with
  | some (name, v) => (read v).under name
  | none => .ok default

/-- A field that must be there. -/
def required {α : Type} (entries : List (Value × Value)) (name : String) (read : Value → Checked α) :
    Checked α :=
  match fieldAt? entries [name] with
  | some (name, v) => (read v).under name
  | none => (Checked.misfit "missing").under name

/-- A key as it appears in a place. -/
def keyText : Value → String
  | .str s => s
  | .markup s => s
  | .bool b => if b then "1" else "0"
  | v => v.quoted

/-- The entries of a mapping with texts as keys. -/
def entries {α : Type} (read : Value → Checked α) :
    List (Value × Value) → Checked (List (String × α))
  | [] => pure []
  | (k, v) :: rest =>
    let key := ((text k).under "[key]").under (keyText k)
    let value := (read v).under (keyText k)
    (fun k v rest => (k, v) :: rest) <$> key <*> value <*> entries read rest

/-- A mapping with texts as keys. Of the entries whose keys read as the same text, the last one counts. -/
def mapping {α : Type} (read : Value → Checked α) (v : Value) : Checked (OrderedMap α) :=
  match v with
  | .dict es => (entries read es).map OrderedMap.ofEntries
  | _ => .misfit "dict_type"

end Document

end Stencil
