namespace Stencil

/-!
# JSON values

* `Json` — the tree of a JSON document; the fields of an object stay in order and may repeat.
-/

/-- A JSON document. -/
inductive Json where
  | null
  | bool (b : Bool)
  | int (n : Int)
  | float (x : Float)
  | str (s : String)
  | arr (items : List Json)
  | obj (fields : List (String × Json))
  deriving Inhabited

/-- A text that may be absent. -/
def Json.ofText? : Option String → Json
  | some s => .str s
  | none => .null

end Stencil
