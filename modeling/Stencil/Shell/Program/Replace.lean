import Stencil.Shell.Program.Basic
import Stencil.Shell.Format
import Stencil.Shell.Regular

namespace Stencil.Shell.Program

/-!
# Replacing bytes

* `ByteSet` — a list of bytes as it is written in an argument;
* `tr` — replace, drop or squeeze bytes.
-/

open Exec

/-- A part of a list of bytes. -/
inductive ByteSet.Part where
  | bytes (r : Raw)
  | kind (k : LetterKind)
  /-- a byte that is repeated, as often as is needed if no number is given -/
  | repeated (c : Char) (count : Nat)

namespace ByteSet

/-- A byte at the start of a list, which may be written with a backslash, and what follows it. -/
def byte? : Raw → Option (Char × Raw)
  | [] => none
  | '\\' :: [] => some ('\\', [])
  | '\\' :: rest =>
    let (c, after) := escaped rest
    if c = '\\' && after = rest then
      match rest with
      | c :: rest => some (c, rest)
      | [] => some ('\\', [])
    else some (c, after)
  | c :: rest => some (c, rest)

/-- The parts of a list of bytes; `limit` bounds how many there are. -/
def parts : Nat → Raw → Except Raw (List Part)
  | 0, _ => .ok []
  | _, [] => .ok []
  | limit + 1, '[' :: ':' :: rest =>
    match Text.cutAtText [':', ']'] rest with
    | some (name, after) =>
      match LetterKind.all.lookup (.ofList name) with
      | some k => do return .kind k :: (← parts limit after)
      | none => .error ("invalid character class ".toList ++ shown name)
    | none => do return .bytes ['['] :: (← parts limit (':' :: rest))
  | limit + 1, '[' :: '=' :: c :: '=' :: ']' :: rest => do return .bytes [c] :: (← parts limit rest)
  | limit + 1, r =>
    let starred : Option (Part × Raw) := do
      match r with
      | '[' :: rest =>
        let (c, after) ← byte? rest
        match after with
        | '*' :: after =>
          let digits := after.takeWhile Char.isDigit
          let n := if digits.head? = some '0' then (octalDigits digits.length digits).1 else Raw.digitsValue digits
          match after.drop digits.length with
          | ']' :: after => return (.repeated c n, after)
          | _ => none
        | _ => none
      | _ => none
    match starred with
    | some (part, after) => do return part :: (← parts limit after)
    | none =>
      match byte? r with
      | none => .ok []
      | some (c, '-' :: after) =>
        match byte? after with
        | some (d, after) =>
          if d < c then
            .error ("range-endpoints of '".toList ++ [c, '-', d] ++
              "' are in reverse collating sequence order".toList)
          else do
            let span := (List.range (d.toNat - c.toNat + 1)).map fun i => Char.ofNat (c.toNat + i)
            return .bytes span :: (← parts limit after)
        | none => .ok [.bytes [c], .bytes ['-']]
      | some (c, after) => do return .bytes [c] :: (← parts limit after)

/-- All bytes. -/
def allBytes : Raw :=
  (List.range 256).map Char.ofNat

/-- The bytes of a kind. -/
def ofKind (k : LetterKind) : Raw :=
  allBytes.filter fun c => c.toNat < 128 && k.accepts c

/-- The bytes of parts; where a byte is repeated as often as needed, there are `needed` bytes in all. -/
def bytes (needed : Nat) (ps : List Part) : Raw :=
  let sizeOf : Part → Nat
    | .bytes r => r.length
    | .kind k => (ofKind k).length
    | .repeated _ n => n
  let known := (ps.map sizeOf).foldl (· + ·) 0
  ps.flatMap fun
    | .bytes r => r
    | .kind k => ofKind k
    | .repeated c 0 => List.replicate (needed - known) c
    | .repeated c n => List.replicate n c

end ByteSet

/-- Bytes without repetitions of those in a list. -/
def squeezed (set : Raw) : Option Char → Raw → Raw
  | _, [] => []
  | before, c :: rest =>
    if before = some c && set.contains c then squeezed set before rest else c :: squeezed set (some c) rest

/-- Replace, drop or squeeze bytes. -/
def tr : Program := fun _ args => do
  let o : Options := {
    name := "tr", plain := "cCdst", leads := true
    long := [("complement", 'c'), ("delete", 'd'), ("squeeze-repeats", 's'), ("truncate-set1", 't')] }
  let (found, sets) ← o.read args
  let inverts := has found 'c' || has found 'C'
  let drops := has found 'd'
  let squeezes := has found 's'
  let read (r : Raw) : Exec (List ByteSet.Part) := do
    match ByteSet.parts (r.length + 1) r with
    | .ok ps => return ps
    | .error reason => refuse "tr" reason
  let least := if drops == squeezes then 2 else 1
  let most := if drops && !squeezes then 1 else 2
  match sets with
  | [] => o.refuse "missing operand".toList
  | a :: rest =>
    if rest.length + 1 < least then
      complainAs "tr" ("missing operand after ".toList ++ shown a)
      complain (if squeezes then "Two strings must be given when both deleting and squeezing repeats.".toList
        else "Two strings must be given when translating.".toList)
      o.hint
    if most < rest.length + 1 then
      complainAs "tr" ("extra operand ".toList ++ shown (rest.getD (most - 1) []))
      if most = 1 then
        complain "Only one string may be given when deleting without squeezing repeats.".toList
      o.hint
    let partsA ← read a
    let plain := ByteSet.bytes 0 partsA
    let first := if inverts then ByteSet.allBytes.filter fun c => !plain.contains c else plain
    let partsB ← match rest with
      | b :: _ => pure (some (← read b))
      | [] => pure none
    let input ← readAll 0
    let r := input.toOption.getD []
    match partsB with
    | none =>
      if drops then put (r.filter fun c => !first.contains c)
      else put (squeezed first none r)
      return 0
    | some ps =>
      let second := ByteSet.bytes first.length ps
      if drops then
        put (squeezed second none (r.filter fun c => !first.contains c))
        return 0
      if second.isEmpty && !has found 't' then
        refuse "tr" "when not truncating set1, string2 must be non-empty".toList
      let onlyKinds := ps.any fun
        | .kind k => !(k = .upper || k = .lower)
        | _ => false
      if onlyKinds then
        refuse "tr" "when translating, the only character classes that may appear in\nstring2 are 'upper' and 'lower'".toList
      let filled := match second.getLast? with
        | some c => if has found 't' then second else second ++ List.replicate (first.length - second.length) c
        | none => []
      let pairs := (first.zip filled).reverse
      let replace (c : Char) : Char :=
        (pairs.lookup c).getD c
      let changed := r.map replace
      put (if squeezes then squeezed second none changed else changed)
      return 0

end Stencil.Shell.Program
