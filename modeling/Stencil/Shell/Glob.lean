import Stencil.Shell.Syntax

namespace Stencil.Shell

/-!
# Patterns of file names

In a pattern a star stands for any bytes, a question mark for one byte and brackets for one of a set. Quoted bytes
stand for themselves.

* `Glyph` — a byte that may be quoted;
* `Glob.ofGlyphs` — the pattern that bytes stand for;
* `Glob.accepts` — whether a pattern describes a whole text.
-/

/-- A byte of a word, and whether it is quoted. -/
structure Glyph where
  c : Char
  isQuoted : Bool
  deriving Repr, BEq, DecidableEq, Inhabited

/-- Bytes that are all quoted. -/
def Glyph.quote (r : Raw) : List Glyph :=
  r.map fun c => ⟨c, true⟩

/-- Bytes that are not quoted. -/
def Glyph.bare (r : Raw) : List Glyph :=
  r.map fun c => ⟨c, false⟩

/-- The bytes alone. -/
def Glyph.text (gs : List Glyph) : Raw :=
  gs.map (·.c)

/-- A class of bytes by its name. -/
def classOf? (name : String) : Option (Char → Bool) :=
  let isPrintable (c : Char) : Bool := 32 < c.toNat && c.toNat < 127
  match name with
  | "alnum" => some Char.isAlphanum
  | "alpha" => some Char.isAlpha
  | "blank" => some fun c => c = ' ' || c = '\t'
  | "cntrl" => some fun c => c.toNat < 32 || c.toNat = 127
  | "digit" => some Char.isDigit
  | "graph" => some isPrintable
  | "lower" => some Char.isLower
  | "print" => some fun c => c = ' ' || isPrintable c
  | "punct" => some fun c => isPrintable c && !c.isAlphanum
  | "space" => some fun c => c = ' ' || (9 ≤ c.toNat && c.toNat ≤ 13)
  | "upper" => some Char.isUpper
  | "xdigit" => some fun c => c.isDigit || ('a' ≤ c && c ≤ 'f') || ('A' ≤ c && c ≤ 'F')
  | _ => none

/-- What a set between brackets holds. -/
inductive SetItem where
  | range (first last : Char)
  | named (name : String)
  deriving Repr, BEq, DecidableEq, Inhabited

/-- Whether a byte is one of those that an item stands for. -/
def SetItem.holds (c : Char) : SetItem → Bool
  | .range first last => first ≤ c && c ≤ last
  | .named name => ((classOf? name).map (· c)).getD false

namespace Glob

/-- A piece of a pattern. -/
inductive Item where
  | one (c : Char)
  | any
  | star
  | set (inverted : Bool) (items : List SetItem)
  deriving Repr, BEq, DecidableEq, Inhabited

/-- The name of a class after its opening bracket, and what follows its end. -/
def className? (gs : List Glyph) : Option (String × List Glyph) :=
  match gs with
  | ⟨':', false⟩ :: rest =>
    let name := (rest.takeWhile fun g => g.c.isLower).map (·.c)
    match rest.drop name.length with
    | ⟨':', _⟩ :: ⟨']', false⟩ :: after =>
      if (classOf? (.ofList name)).isSome then some (.ofList name, after) else none
    | _ => none
  | _ => none

/-- A byte that a backslash may stand before. -/
def unescape : List Glyph → Option (Char × List Glyph)
  | ⟨'\\', false⟩ :: g :: rest => some (g.c, rest)
  | g :: rest => some (g.c, rest)
  | [] => none

/-- The items of a set up to its closing bracket; `limit` bounds how many there are. -/
def setItems : Nat → Bool → List Glyph → Option (List SetItem × List Glyph)
  | 0, _, _ => none
  | _, _, [] => none
  | limit + 1, isFirst, g :: rest =>
    if g.c = ']' && !g.isQuoted && !isFirst then some ([], rest)
    else
      let named := if g.c = '[' && !g.isQuoted then className? rest else none
      match named with
      | some (name, after) =>
        (setItems limit false after).map fun (items, after) => (.named name :: items, after)
      | none =>
        match unescape (g :: rest) with
        | none => none
        | some (first, after) =>
          match after with
          | ⟨'-', false⟩ :: end_ :: more =>
            if end_.c = ']' && !end_.isQuoted then
              (setItems limit false after).map fun (items, after) => (.range first first :: items, after)
            else
              match unescape (end_ :: more) with
              | some (last, after) =>
                (setItems limit false after).map fun (items, after) => (.range first last :: items, after)
              | none => none
          | after =>
            (setItems limit false after).map fun (items, after) => (.range first first :: items, after)

/-- The set after an opening bracket, if it is closed. -/
def set? (gs : List Glyph) : Option (Item × List Glyph) :=
  let (inverted, inside) := match gs with
    | ⟨'!', false⟩ :: rest => (true, rest)
    | gs => (false, gs)
  (setItems (inside.length + 1) true inside).map fun (items, after) => (.set inverted items, after)

/-- The pieces of a pattern; `limit` bounds how many there are. -/
def itemsUpTo : Nat → List Glyph → List Item
  | 0, _ => []
  | _, [] => []
  | limit + 1, g :: rest =>
    if g.isQuoted then .one g.c :: itemsUpTo limit rest
    else match g.c with
      | '*' => .star :: itemsUpTo limit rest
      | '?' => .any :: itemsUpTo limit rest
      | '[' =>
        match set? rest with
        | some (item, after) => item :: itemsUpTo limit after
        | none => .one '[' :: itemsUpTo limit rest
      | '\\' =>
        match rest with
        | h :: more => .one h.c :: itemsUpTo limit more
        | [] => [.one '\\']
      | c => .one c :: itemsUpTo limit rest

/-- The pattern that bytes stand for. -/
def ofGlyphs (gs : List Glyph) : List Item :=
  itemsUpTo gs.length gs

/-- Whether a piece describes a byte. -/
def Item.holds (c : Char) : Item → Bool
  | .one d => c = d
  | .any => true
  | .star => true
  | .set inverted items => items.any (·.holds c) != inverted

/-- Whether a test holds of an end of a text. -/
def anyEnd (test : Raw → Bool) : Raw → Bool
  | [] => test []
  | c :: rest => test (c :: rest) || anyEnd test rest

/-- Whether a pattern describes a whole text. -/
def accepts : List Item → Raw → Bool
  | [], r => r.isEmpty
  | .star :: rest, r => anyEnd (accepts rest) r
  | _ :: _, [] => false
  | item :: rest, c :: r => item.holds c && accepts rest r

/-- Whether bytes hold a sign that makes them a pattern. -/
def isPattern (gs : List Glyph) : Bool :=
  (ofGlyphs gs).any fun
    | .one _ => false
    | _ => true

/-- The text that a pattern without any signs describes. -/
def plainText (gs : List Glyph) : Raw :=
  (ofGlyphs gs).filterMap fun
    | .one c => some c
    | _ => none

end Glob

/-! ### Cutting -/

/-- What is left of a value when a pattern has been cut from one of its ends. -/
def Trim.apply (t : Trim) (pattern : List Glob.Item) (value : Raw) : Raw :=
  let rising := List.range (value.length + 1)
  let atStart (n : Nat) : Bool := Glob.accepts pattern (value.take n)
  let atEnd (n : Nat) : Bool := Glob.accepts pattern (value.drop n)
  let kept := match t with
    | .shortestStart => (rising.find? atStart).map value.drop
    | .longestStart => (rising.reverse.find? atStart).map value.drop
    | .shortestEnd => (rising.reverse.find? atEnd).map value.take
    | .longestEnd => (rising.find? atEnd).map value.take
  kept.getD value

/-- What is left of values that stay apart. What is cut from the start comes from the first value alone; a cut
at the end takes everything after it away. -/
def Trim.applyToAll (t : Trim) (pattern : List Glob.Item) (values : List Raw) : List Raw :=
  match t, values with
  | _, [] => []
  | .shortestStart, v :: vs => t.apply pattern v :: vs
  | .longestStart, v :: vs =>
    if !vs.isEmpty && Glob.accepts pattern v then [[]] else t.apply pattern v :: vs
  | .longestEnd, v :: vs =>
    if (List.range (v.length + 1)).any fun n => Glob.accepts pattern (v.drop n) then [t.apply pattern v] else v :: vs
  | .shortestEnd, vs =>
    let cut (v : Raw) : Bool := (List.range (v.length + 1)).any fun n => Glob.accepts pattern (v.drop n)
    let (after, before) := vs.reverse.span (!cut ·)
    match before with
    | [] => after.reverse
    | v :: before => before.reverse ++ [t.apply pattern v]

end Stencil.Shell
