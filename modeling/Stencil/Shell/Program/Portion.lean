import Stencil.Shell.Program.Basic

namespace Stencil.Shell.Program

/-!
# Parts of files

* `head`, `tail` — the first and the last lines or bytes;
* `split` — files of equal length.
-/

open Exec

/-- What is counted, and how many. -/
structure Portion where
  ofBytes : Bool := false
  /-- whether the number says where the other end of the portion is -/
  isOther : Bool := false
  count : Nat := 10
  deriving Repr, BEq, DecidableEq, Inhabited

namespace Portion

/-- Lines with their ends. -/
def lines (r : Raw) : List Raw :=
  let ls := Text.splitAtChar '\n' r
  let ended := ls.dropLast.map (· ++ ['\n'])
  match ls.getLast? with
  | some [] => ended
  | some l => ended ++ [l]
  | none => ended

/-- The first portion of bytes. -/
def first (p : Portion) (r : Raw) : Raw :=
  if p.ofBytes then r.take (if p.isOther then r.length - p.count else p.count)
  else
    let ls := lines r
    (ls.take (if p.isOther then ls.length - p.count else p.count)).flatten

/-- The last portion of bytes. -/
def last (p : Portion) (r : Raw) : Raw :=
  if p.ofBytes then r.drop (if p.isOther then p.count - 1 else r.length - p.count)
  else
    let ls := lines r
    (ls.drop (if p.isOther then p.count - 1 else ls.length - p.count)).flatten

end Portion

/-- Arguments with a number right after the dash of the first one, written as the value of a letter. -/
def withCountLetter (args : List Raw) : List Raw :=
  match args with
  | ('-' :: c :: r) :: rest =>
    if c.isDigit then
      let digits := (c :: r).takeWhile Char.isDigit
      let letters := (c :: r).drop digits.length
      let kind := if letters.contains 'c' then 'c' else 'n'
      let others := letters.filter fun c => c != 'c' && c != 'l'
      (if others.isEmpty then [] else ['-' :: others]) ++ ('-' :: kind :: digits) :: rest
    else args
  | args => args

/-- Write portions of files; each has a heading if there are several. -/
def portions (name : String) (headings : Option Bool) (files : List Raw) (part : Raw → Raw) : Exec Nat := do
  let files := if files.isEmpty then [['-']] else files
  let showsHeadings := headings.getD (1 < files.length)
  let mut code := 0
  let mut out : List Raw := []
  for file in files do
    match ← contentOf file with
    | .ok r =>
      if showsHeadings then
        let shown := if file = ['-'] then "standard input".toList else file
        out := ((if out.isEmpty then [] else ['\n']) ++ "==> ".toList ++ shown ++ " <==\n".toList) :: out
      let found := part r
      if file = ['-'] && name = "head" then giveBack 0 (r.length - found.length)
      out := found :: out
    | .error problem =>
      if problem = Exec.problem .isDirectory then
        complainAs name ("error reading ".toList ++ shown file ++ ": ".toList ++ problem.toList)
      else
        complainAs name ("cannot open ".toList ++ shown file ++ " for reading: ".toList ++ problem.toList)
      code := 1
  put out.reverse.flatten
  return code

/-- Whether the options ask for headings. -/
def wantsHeadings (found : List (Char × Raw)) : Option Bool :=
  (found.reverse.find? fun (c, _) => c = 'q' || c = 'v').map fun (c, _) => c = 'v'

/-- Write the first lines of files. -/
def head : Program := fun _ args => do
  let o : Options := {
    name := "head", plain := "qvz", valued := "nc"
    long := [("lines", 'n'), ("bytes", 'c'), ("quiet", 'q'), ("silent", 'q'), ("verbose", 'v')] }
  let (found, files) ← o.read (withCountLetter args)
  let mut p : Portion := {}
  for (c, r) in found do
    if c = 'n' || c = 'c' then
      let (isOther, digits) := match r with
        | '-' :: digits => (true, digits)
        | '+' :: digits => (false, digits)
        | digits => (false, digits)
      match size? digits with
      | some count => p := { ofBytes := c = 'c', isOther, count }
      | none =>
        refuse "head" ("invalid number of ".toList ++ (if c = 'c' then "bytes" else "lines").toList ++
          ": ".toList ++ shown r)
  portions "head" (wantsHeadings found) files p.first

/-- Write the last lines of files. -/
def tail : Program := fun _ args => do
  let o : Options := {
    name := "tail", plain := "qvzfFr", valued := "ncs"
    long := [("lines", 'n'), ("bytes", 'c'), ("quiet", 'q'), ("silent", 'q'), ("verbose", 'v'), ("follow", 'f')] }
  let args := match args with
    | ('+' :: r) :: rest => if Raw.isNumber r then ('-' :: 'n' :: '+' :: r) :: rest else args
    | args => withCountLetter args
  let (found, files) ← o.read args
  let mut p : Portion := {}
  for (c, r) in found do
    if c = 'n' || c = 'c' then
      let (isOther, digits) := match r with
        | '-' :: digits => (false, digits)
        | '+' :: digits => (true, digits)
        | digits => (false, digits)
      match size? digits with
      | some count => p := { ofBytes := c = 'c', isOther, count }
      | none =>
        refuse "tail" ("invalid number of ".toList ++ (if c = 'c' then "bytes" else "lines").toList ++
          ": ".toList ++ shown r)
  portions "tail" (wantsHeadings found) files p.last

/-! ### Files of equal length -/

/-- Pieces of equal length; `limit` bounds how many there are. -/
def piecesOf {α : Type} (size : Nat) : Nat → List α → List (List α)
  | 0, _ => []
  | _, [] => []
  | limit + 1, xs => xs.take size :: piecesOf size limit (xs.drop size)

/-- The ending of the name of a piece: letters, or digits. -/
def pieceEnding (digits : Bool) (width n : Nat) : Raw :=
  match width with
  | 0 => []
  | width + 1 =>
    let base := if digits then 10 else 26
    pieceEnding digits width (n / base) ++ [Char.ofNat ((if digits then 48 else 97) + n % base)]

/-- Write files of equal length. -/
def split : Program := fun _ args => do
  let o : Options := {
    name := "split", plain := "dx", valued := "lbaCn"
    long := [("lines", 'l'), ("bytes", 'b'), ("suffix-length", 'a'), ("numeric-suffixes", 'd'), ("number", 'n')] }
  let (found, operands) ← o.read (match args with
    | ('-' :: c :: r) :: rest => if c.isDigit then ('-' :: 'l' :: c :: r) :: rest else args
    | args => args)
  let (file, start) := match operands with
    | file :: start :: _ => (file, start)
    | [file] => (file, ['x'])
    | [] => (['-'], ['x'])
  let width := ((valueOf? found 'a').bind Raw.nat?).getD 2
  match ← contentOf file with
  | .error problem =>
    refuse "split" ("cannot open ".toList ++ shown file ++ " for reading: ".toList ++ problem.toList)
  | .ok r =>
    let limit := r.length + 1
    let pieces ← match found.reverse.find? fun (c, _) => c = 'l' || c = 'b' || c = 'n' with
      | some ('b', value) =>
        match size? value with
        | some (n + 1) => pure (piecesOf (n + 1) limit r)
        | _ => refuse "split" ("invalid number of bytes: ".toList ++ shown value)
      | some ('n', value) =>
        match Raw.nat? value with
        | some (n + 1) =>
          let size := r.length / (n + 1)
          pure ((List.range (n + 1)).map fun i =>
            if i = n then r.drop (i * size) else (r.drop (i * size)).take size)
        | _ => refuse "split" ("invalid number of chunks: ".toList ++ shown value)
      | some (_, value) =>
        match size? value with
        | some (n + 1) => pure ((piecesOf (n + 1) limit (Portion.lines r)).map List.flatten)
        | _ => refuse "split" ("invalid number of lines: ".toList ++ shown value)
      | none => pure ((piecesOf 1000 limit (Portion.lines r)).map List.flatten)
    for (piece, i) in pieces.zipIdx do
      let _ ← writeFile (start ++ pieceEnding (has found 'd') width i) piece
    return 0

end Stencil.Shell.Program
