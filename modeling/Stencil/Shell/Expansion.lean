import Stencil.Shell.Arithmetic
import Stencil.Shell.Child
import Stencil.Shell.Glob

namespace Stencil.Shell

/-!
# From words to fields

What is replaced in a word may be split into several fields, and a field that is a pattern stands for the names of
files that it describes. What is quoted is neither split nor a pattern.

* `Piece` — the pieces that the parts of a word become;
* `Word.fields` — the fields that a word stands for;
* `Word.text` — the one text that a word stands for, where there is no splitting.
-/

/-- A piece of a word whose parts have been replaced. -/
inductive Piece where
  | text (gs : List Glyph)
  /-- quotes, which make a field even if nothing stands between them -/
  | quotes
  /-- a text that is split into fields -/
  | splittable (r : Raw)
  /-- the end of an argument and the start of the next one -/
  | boundary
  deriving Repr, BEq, DecidableEq, Inhabited

/-! ### Splitting -/

/-- A piece of a field. -/
inductive Mark where
  | glyph (g : Glyph)
  | quotes
  deriving Repr, BEq, DecidableEq, Inhabited

/-- Fields that are complete, the last one first, and the field that goes on, its last mark first. -/
structure Fields where
  complete : List (List Mark) := []
  current : List Mark := []
  deriving Inhabited

namespace Fields

/-- Complete the field that goes on. -/
def cut (f : Fields) : Fields :=
  { complete := f.current :: f.complete }

/-- Complete the field that goes on if there is anything in it. -/
def cutIfAny (f : Fields) : Fields :=
  if f.current.isEmpty then f else f.cut

/-- A blank among the separators. -/
def isBlankSeparator (c : Char) : Bool :=
  c = ' ' || c = '\t' || c = '\n'

/-- What follows a separator: blanks, and one other separator if the first one was a blank. -/
def skipSeparators (separators : Raw) : Bool → Raw → Raw
  | _, [] => []
  | mayTakeOne, c :: rest =>
    if !separators.contains c then c :: rest
    else if isBlankSeparator c then skipSeparators separators mayTakeOne rest
    else if mayTakeOne then skipSeparators separators false rest
    else c :: rest

/-- Add a text that is split at separators; `limit` bounds how many bytes there are. -/
def addSplit (separators : Raw) : Nat → Fields → Raw → Fields
  | 0, f, _ => f
  | _, f, [] => f
  | limit + 1, f, c :: rest =>
    if separators.contains c then
      if isBlankSeparator c then
        if f.current.isEmpty then addSplit separators limit f rest
        else addSplit separators limit f.cut (skipSeparators separators true rest)
      else addSplit separators limit f.cut (skipSeparators separators false rest)
    else addSplit separators limit { f with current := .glyph ⟨c, false⟩ :: f.current } rest

/-- Add a piece of a word. -/
def add (separators : Raw) (f : Fields) : Piece → Fields
  | .text gs => { f with current := gs.reverse.map .glyph ++ f.current }
  | .quotes => { f with current := .quotes :: f.current }
  | .splittable r => addSplit separators r.length f r
  | .boundary => f.cutIfAny

/-- The bytes of a field. -/
def glyphs (marks : List Mark) : List Glyph :=
  marks.reverse.filterMap fun
    | .glyph g => some g
    | .quotes => none

/-- The fields that pieces make. -/
def ofPieces (separators : Raw) (ps : List Piece) : List (List Glyph) :=
  ((ps.foldl (add separators) {}).cutIfAny.complete.reverse).map glyphs

end Fields

/-- The bytes of pieces that are not split; arguments are joined by a separator. -/
def Piece.joined (separator : Raw) (ps : List Piece) : List Glyph :=
  ps.flatMap fun
    | .text gs => gs
    | .quotes => []
    | .splittable r => Glyph.bare r
    | .boundary => Glyph.bare separator

/-! ### Values -/

namespace Exec

/-- The value of a parameter: of one of the shell itself, an argument or a variable. -/
def parameter? (name : Raw) : Exec (Option Raw) := do
  let p ← process
  match name with
  | ['?'] => return some (Raw.ofNat p.status)
  | ['$'] => return some (Raw.ofNat p.shell)
  | ['#'] => return some (Raw.ofNat p.arguments.length)
  | ['-'] => return some ("pubaCEVvxsnmiIfe".toList.filter p.settings.contains)
  | ['!'] => return p.lastJob.map Raw.ofNat
  | ['0'] => return some p.name
  | ['@'] =>
    let between ← joiner
    return if p.arguments.isEmpty then none else some (Text.join between p.arguments)
  | ['*'] =>
    let between ← joiner
    return if p.arguments.isEmpty then none else some (Text.join between p.arguments)
  | name =>
    match Raw.nat? name with
    | some n => return p.arguments[n - 1]?
    | none =>
      match ← value? name with
      | some r => return some r
      | none =>
        if name = "LINENO".toList then return some (Raw.ofNat (p.line - (p.functionLine - 1)))
        if name = "PPID".toList then return some (Raw.ofNat p.parent)
        return none

/-- The home directory of a user. -/
def homeOf? (user : Raw) : Exec (Option Raw) := do
  match String.ofList user with
  | "" => value? "HOME".toList
  | "root" => return some "/root".toList
  | "daemon" => return some "/usr/sbin".toList
  | "bin" => return some "/bin".toList
  | "nobody" => return some "/nonexistent".toList
  | _ => return none

/-! ### Replacing -/

/-- How the parts of a word stand: between quotes, or inside the braces of a parameter, where also what is written
there is split. -/
structure Manner where
  isQuoted : Bool := false
  isInside : Bool := false
  /-- whether the word is split, so that arguments are kept apart -/
  splits : Bool := false
  deriving Repr, BEq, DecidableEq, Inhabited

/-- A value that has replaced a part of a word. -/
def pieceOf (m : Manner) (r : Raw) : Piece :=
  if m.isQuoted then .text (Glyph.quote r) else .splittable r

/-- The pieces of the arguments. -/
def argumentPieces (m : Manner) (keepsEmpty : Bool) (args : List Raw) : List Piece :=
  let one (r : Raw) : List Piece := if keepsEmpty then [.quotes, pieceOf m r] else [pieceOf m r]
  match args with
  | [] => []
  | a :: rest => one a ++ rest.flatMap fun r => .boundary :: one r

/-- The pieces of the value of a parameter. -/
def valuePieces (m : Manner) (name : Raw) (r : Raw) : Exec (List Piece) := do
  let args := (← process).arguments
  if m.splits && name = ['@'] then return argumentPieces m m.isQuoted args
  if m.splits && name = ['*'] && !m.isQuoted then return argumentPieces m false args
  return [pieceOf m r]

/-- Where a tilde at the start of a word stands for a home directory. -/
inductive Tildes where
  | none
  | atStart
  /-- at the start, and after colons -/
  | inList
  /-- after colons -/
  | afterColons
  deriving Repr, BEq, DecidableEq, Inhabited

/-- Where a tilde after a part stands for a home directory. -/
def Tildes.after (part : Part) : Tildes → Tildes
  | .none => .none
  | .atStart => .none
  | _ =>
    match part with
    | .char ':' => .inList
    | _ => .afterColons

/-- The user that a tilde in front of parts names, and the parts after the name. -/
def userOf? (inList : Bool) (parts : List Part) : Option (Raw × List Part) :=
  let user := (Word.start parts).takeWhile fun c => c != '/' && !(inList && c = ':')
  match parts.drop user.length with
  | [] => some (user, [])
  | .char c :: rest => if c = '/' || (inList && c = ':') then some (user, .char c :: rest) else none
  | _ => none

/-- The value of an expression. -/
def arithmetic (r : Raw) : Exec Raw := fun s =>
  match Arithmetic.evaluate setVariable r s with
  | (.ok n, s) => (.ok (Raw.ofInt n), s)
  | (.error (.stop stop), s) => (.error stop, s)
  | (.error (.noNumber value), s) => (illegalNumber value).run s
  | (.error (.expecting what), s) =>
    (fail ("arithmetic expression: ".toList ++ what.toList ++ ": \"".toList ++ r ++ ['"'])).run s
  | (.error .zeroDivision, s) =>
    (fail ("arithmetic expression: division by zero: \"".toList ++ r ++ ['"'])).run s

/-- Whether parts are just all arguments, which between quotes stay apart. -/
def areArguments : List Part → Bool
  | [.parameter ['@'] .value] => true
  | _ => false

/-- Join the pieces of parts, in the order in which they are replaced. -/
def concat (act : Part → Exec (List Piece)) (parts : List Part) : Exec (List Piece) := do
  return (← parts.mapM act).flatten

mutual

/-- The pieces of parts; a number bounds how deep they are nested and how many there are. -/
def pieces (ev : Evaluator) : Nat → Manner → Tildes → List Part → Exec (List Piece)
  | 0, _, _, _ => return []
  | _, _, _, [] => return []
  | n + 1, m, tildes, part :: rest => do
    let user := match part, tildes with
      | .char '~', .atStart => userOf? false rest
      | .char '~', .inList => userOf? true rest
      | _, _ => none
    let home ← match user with
      | some (user, after) => pure ((← homeOf? user).map fun home => (home, after))
      | none => pure none
    match home with
    | some (home, after) =>
      return .text (Glyph.quote home) :: (← pieces ev n m (tildes.after part) after)
    | none =>
      let first ← partPieces ev n m part
      return first ++ (← pieces ev n m (tildes.after part) rest)

/-- The pieces of a part. -/
def partPieces (ev : Evaluator) : Nat → Manner → Part → Exec (List Piece)
  | 0, _, _ => return []
  | n + 1, m, part => do
    match part with
    | .char c =>
      if m.isQuoted then return [.text [⟨c, true⟩]]
      else if m.isInside then return [.splittable [c]]
      else return [.text [⟨c, false⟩]]
    | .literal s => return [.quotes, .text (Glyph.quote s)]
    | .quoted parts =>
      let inside ← pieces ev n { m with isQuoted := true } .none parts
      -- All arguments in quotes can be no field at all; other quotes give at least an empty one.
      if areArguments parts && m.splits then return inside
      return .quotes :: inside
    | .output body =>
      let r ← match body with
        | some c => outputOf ev (ev.command { isLast := true } c)
        | none => do
          update fun p => { p with outputStatus := 0 }
          pure []
      return [pieceOf m (Text.trimRightOf (· = '\n') r)]
    | .arithmetic expression =>
      let ps ← pieces ev n { isQuoted := true } .none expression
      return [pieceOf m (← arithmetic (Glyph.text (Piece.joined [] ps)))]
    | .parameter name use => usePieces ev n m name use

/-- The pieces of a use of a parameter. -/
def usePieces (ev : Evaluator) : Nat → Manner → Raw → Use → Exec (List Piece)
  | 0, _, _, _ => return []
  | n + 1, m, name, use => do
    let value ← parameter? name
    let isGiven (orEmpty : Bool) : Bool := value.any fun r => !(orEmpty && r.isEmpty)
    let known : Exec Raw := do
      match value with
      | some r => return r
      | none =>
        if (← process).settings.contains 'u' && name != ['@'] && name != ['*'] then
          fail (name ++ ": parameter not set".toList)
        return []
    let textOf (w : List Part) : Exec (List Glyph) := do
      let ps ← pieces ev n { isQuoted := m.isQuoted } (if m.isQuoted then .none else .atStart) w
      return Piece.joined (← joiner) ps
    match use with
    | .value => valuePieces m name (← known)
    | .length => return [pieceOf m (Raw.ofNat (← known).length)]
    | .default orEmpty w =>
      if isGiven orEmpty then valuePieces m name (value.getD [])
      else pieces ev n { m with isInside := true } (if m.isQuoted then .none else .atStart) w
    | .alternative orEmpty w =>
      if isGiven orEmpty then
        pieces ev n { m with isInside := true } (if m.isQuoted then .none else .atStart) w
      else return []
    | .assign orEmpty w =>
      if isGiven orEmpty then valuePieces m name (value.getD [])
      else
        let r := Glyph.text (← textOf w)
        setNamed name r
        valuePieces m name r
    | .demand orEmpty w =>
      if isGiven orEmpty then valuePieces m name (value.getD [])
      else
        let reason := Glyph.text (← textOf w)
        let standard := if orEmpty then "parameter not set or null" else "parameter not set"
        fail (name ++ ": ".toList ++ (if reason.isEmpty then standard.toList else reason))
    | .trim t w =>
      let r ← known
      -- Quotes around the parameter do not quote the pattern.
      let ps ← pieces ev n {} .none w
      let pattern := Glob.ofGlyphs (Piece.joined (← joiner) ps)
      if m.splits && m.isQuoted && name = ['@'] then
        return argumentPieces m true (t.applyToAll pattern (← process).arguments)
      return [pieceOf m (t.apply pattern r)]
    | .malformed => fail "Bad substitution".toList

end

/-! ### Names of files -/

/-- The parts of a path pattern between slashes; each but the last one with the slashes after it. -/
def pathParts : List Glyph → List (List Glyph × Raw)
  | [] => [([], [])]
  | g :: rest =>
    match pathParts rest with
    | [] => [([g], [])]
    | (part, slashes) :: more =>
      if g.c = '/' then
        if part.isEmpty && !slashes.isEmpty then ([], '/' :: slashes) :: more
        else ([], ['/']) :: (part, slashes) :: more
      else (g :: part, slashes) :: more

/-- The names in a directory, those of the directory itself and the one above it, too. -/
def allNames (directory : Raw) : Exec (List Raw) := do
  match ← locate (if directory.isEmpty then ['.'] else directory) with
  | .ok l =>
    match ← entryAt l with
    | some .directory => return ['.'] :: ['.', '.'] :: (← namesIn l)
    | _ => return []
  | .error _ => return []

/-- The names of files that the parts of a pattern describe below a path. -/
def matchesBelow (path : Raw) : List (List Glyph × Raw) → Exec (List Raw)
  | [] => return []
  | (part, slashes) :: rest => do
    let isLast := rest.isEmpty
    if Glob.isPattern part then
      let pattern := Glob.ofGlyphs part
      let wantsDot := part.head?.any (·.c = '.')
      let names := (← allNames path).filter fun name =>
        (wantsDot || name.head? != some '.') && Glob.accepts pattern name
      if isLast then return names.map (path ++ ·)
      let found ← names.mapM fun name => matchesBelow (path ++ name ++ slashes) rest
      return found.flatten
    else
      let path := path ++ Glob.plainText part
      if isLast then
        match ← entry path with
        | .ok _ => return [path]
        | .error _ => return []
      matchesBelow (path ++ slashes) rest

/-- The texts that a field stands for: the names of files that it describes, or else itself. -/
def namesOf (gs : List Glyph) : Exec (List Raw) := do
  if (← process).settings.contains 'f' || !Glob.isPattern gs then return [Glyph.text gs]
  let parts := pathParts gs
  if !parts.any fun (part, _) => Glob.isPattern part then return [Glyph.text gs]
  match ← matchesBelow [] parts with
  | [] => return [Glyph.text gs]
  | names => return names.mergeSort Raw.before

end Exec

/-! ### Words -/

/-- How deep words may be nested, and how many parts they may have. -/
def maxParts : Nat := 100000

open Exec

/-- The fields that a word stands for. -/
def Word.fields (ev : Evaluator) (w : Word) : Exec (List Raw) := do
  let ps ← pieces ev maxParts { splits := true } .atStart w
  let fields := Fields.ofPieces (← separators) ps
  return (← fields.mapM namesOf).flatten

/-- The bytes that a word stands for where there is no splitting. -/
def Word.glyphs (ev : Evaluator) (tildes : Tildes) (w : Word) : Exec (List Glyph) := do
  return Piece.joined (← joiner) (← pieces ev maxParts {} tildes w)

/-- The text that a word stands for where there is no splitting. -/
def Word.text (ev : Evaluator) (w : Word) : Exec Raw := do
  return Glyph.text (← glyphs ev .atStart w)

/-- The name and the value of an assignment. -/
def Word.assignment (ev : Evaluator) (w : Word) : Exec (Raw × Raw) := do
  let name := (Word.assigned? w).getD []
  let value ← Word.glyphs ev .inList (w.drop (name.length + 1))
  return (name, Glyph.text value)

end Stencil.Shell
