import Stencil.Fault
import Stencil.OrderedMap
import Stencil.Text.Case
import Stencil.Text.Pieces

namespace Stencil.EnvFile

/-!
# Files of variables

A file of variables has lines `NAME=value`, perhaps after `export`. A value may stand in quotes, and then span
lines; without quotes it ends at the line or at a comment. `${NAME}` and `${NAME:-default}` in a value stand for
variables. A line that does not read so is left out.

* `EnvFile.entries` — the names of a text with their values as written;
* `EnvFile.expand` — a value with its variables replaced;
* `EnvFile.load` — set the variables of a file in the environment; those that are set stay as they are;
* `EnvFile.isDisabled` — whether the environment asks for no such files.
-/

/-! ### Lines -/

/-- A blank inside a line. -/
def isInlineBlank (c : Char) : Bool :=
  Text.isBlank c && c != '\n'

/-- What follows the blanks of a line. -/
def skipBlanks (s : List Char) : List Char :=
  s.dropWhile isInlineBlank

/-- What follows a line. -/
def skipLine (s : List Char) : List Char :=
  (s.dropWhile (· != '\n')).drop 1

/-- What follows the word for an export. -/
def skipExport (s : List Char) : List Char :=
  match Text.stripPrefix? "export".toList s with
  | some (c :: rest) => if isInlineBlank c then skipBlanks rest else s
  | _ => s

/-- What follows the end of a line, perhaps after a comment. -/
def lineEnd? (s : List Char) : Option (List Char) :=
  match skipBlanks s with
  | [] => some []
  | '\n' :: rest => some rest
  | '#' :: rest => some (skipLine rest)
  | _ => none

/-! ### Names and values -/

/-- A name, and what follows it. -/
def name? (s : List Char) : Option (List Char × List Char) :=
  let found := match s with
    | '\'' :: rest =>
      match Text.cut '\'' rest with
      | (name, some rest) => (name, rest)
      | (_, none) => ([], rest)
    | _ =>
      let isPart (c : Char) : Bool := c != '=' && c != '#' && !Text.isBlank c
      (s.takeWhile isPart, s.dropWhile isPart)
  if found.1.isEmpty then none else some found

/-- The text before the first mark that does not follow a backslash, and what follows it. -/
def cutAtBare? (mark : Char) : Bool → List Char → Option (List Char × List Char)
  | _, [] => none
  | afterBackslash, c :: rest =>
    if c = mark && !afterBackslash then some ([], rest)
    else (cutAtBare? mark (c = '\\') rest).map fun (before, after) => (c :: before, after)

/-- The text before a closing mark, and what follows it. If all marks follow a backslash, the last one closes. -/
def closed? (mark : Char) (s : List Char) : Option (List Char × List Char) :=
  (cutAtBare? mark false s).or (Text.cutAtLast? mark s)

/-- A text in which some characters have a meaning after a backslash. -/
def unescapeFrom (meaning : Char → Option Char) : Bool → List Char → List Char
  | false, [] => []
  | true, [] => ['\\']
  | false, c :: rest =>
    if c = '\\' then unescapeFrom meaning true rest else c :: unescapeFrom meaning false rest
  | true, c :: rest =>
    match meaning c with
    | some m => m :: unescapeFrom meaning false rest
    | none => '\\' :: c :: unescapeFrom meaning false rest

/-- A text in which some characters have a meaning after a backslash. -/
def unescape (meaning : Char → Option Char) (s : List Char) : List Char :=
  unescapeFrom meaning false s

/-- What a character after a backslash means between single quotes. -/
def singleEscape (c : Char) : Option Char :=
  if c = '\\' || c = '\'' then some c else none

/-- What a character after a backslash means between double quotes. -/
def doubleEscape (c : Char) : Option Char :=
  match c with
  | 'a' => some '\x07'
  | 'b' => some '\x08'
  | 'f' => some '\x0c'
  | 'n' => some '\n'
  | 'r' => some '\r'
  | 't' => some '\t'
  | 'v' => some '\x0b'
  | _ => if c = '\\' || c = '\'' || c = '"' then some c else none

/-- The part of a line before a comment: a number sign after a blank. -/
def beforeComment (afterBlank : Bool) : List Char → List Char
  | [] => []
  | c :: rest => if afterBlank && c = '#' then [] else c :: beforeComment (Text.isBlank c) rest

/-- A value after an equals sign, and what follows it. -/
def value? (s : List Char) : Option (List Char × List Char) :=
  match skipBlanks s with
  | '\'' :: rest => (closed? '\'' rest).map fun (v, r) => (unescape singleEscape v, r)
  | '"' :: rest => (closed? '"' rest).map fun (v, r) => (unescape doubleEscape v, r)
  | _ =>
    let line := s.takeWhile (· != '\n')
    some (Text.trim (beforeComment false line), s.dropWhile (· != '\n'))

/-- The end of an entry: what follows its line, which holds nothing else but perhaps a comment. -/
def finish (e : String × Option String) (s : List Char) : Option (String × Option String) × List Char :=
  match lineEnd? s with
  | some rest => (some e, rest)
  | none => (none, skipLine s)

/-- The entry of a line, if it reads as one, and what follows it. -/
def readEntry (s : List Char) : Option (String × Option String) × List Char :=
  match name? s with
  | none => (none, skipLine s)
  | some (name, rest) =>
    match skipBlanks rest with
    | '=' :: rest =>
      match value? rest with
      | none => (none, skipLine rest)
      | some (value, rest) => finish (.ofList name, some (.ofList value)) rest
    | _ => finish (.ofList name, none) rest

/-- The entries of at most `limit` lines. -/
def entriesUpTo : Nat → List Char → List (String × Option String)
  | 0, _ => []
  | limit + 1, s =>
    match Text.trimLeft s with
    | [] => []
    | '#' :: rest => entriesUpTo limit (skipLine rest)
    | c :: rest =>
      match readEntry (skipExport (c :: rest)) with
      | (some e, rest) => e :: entriesUpTo limit rest
      | (none, rest) => entriesUpTo limit rest

/-- The entries of a text: names with their values, if they have one. -/
def entries (s : List Char) : List (String × Option String) :=
  entriesUpTo s.length s

/-! ### Variables -/

/-- The name and the default of a variable after `$` and an opening brace, and what follows it. -/
def reference? (s : List Char) : Option (List Char × List Char × List Char) :=
  let isName (c : Char) : Bool := c != '\x7d' && c != ':'
  let name := s.takeWhile isName
  match s.dropWhile isName with
  | '\x7d' :: rest => some (name, [], rest)
  | ':' :: '-' :: rest =>
    match Text.cut '\x7d' rest with
    | (default, some rest) => some (name, default, rest)
    | (_, none) => none
  | _ => none

/-- A value with its variables replaced by what they stand for; `limit` bounds the steps. -/
def expandUpTo (meaning : String → Option String) : Nat → List Char → List Char
  | 0, s => s
  | _ + 1, [] => []
  | limit + 1, c :: rest =>
    let found := match c, rest with
      | '$', '\x7b' :: rest => reference? rest
      | _, _ => none
    match found with
    | some (name, default, rest) =>
      let value := ((meaning (.ofList name)).map String.toList).getD default
      value ++ expandUpTo meaning limit rest
    | none => c :: expandUpTo meaning limit rest

/-- A value with its variables replaced by what they stand for. -/
def expand (meaning : String → Option String) (value : String) : String :=
  .ofList (expandUpTo meaning value.length value.toList)

/-- What a variable stands for: its value in the environment, or else the one earlier in the file. -/
def meaning (environment : OrderedMap String) (before : OrderedMap (Option String)) (name : String) :
    Option String :=
  (environment.get? name).or ((before.get? name).map (·.getD ""))

/-- The values of the entries of a file, variables replaced; of two entries with one name the later one
counts. -/
def resolve (environment : OrderedMap String) (es : List (String × Option String)) :
    OrderedMap (Option String) :=
  es.foldl (fun m (name, value) => m.put name (value.map (expand (meaning environment m)))) []

/-- Set a variable of the environment. A name with an equals sign, and text with a zero character, cannot be
kept there. -/
def setVariable (name value : String) : Action (OrderedMap String) Unit := do
  if name.contains '=' || name.contains '\x00' || value.contains '\x00' then throw (.foreign .wrongValue)
  modify (·.put name value)

/-- Load a file of variables into the environment; variables that are set stay as they are. A byte order mark
before the first line is no part of it. -/
def load (s : List Char) : Action (OrderedMap String) Unit := do
  let environment ← get
  for (name, value) in resolve environment (entries ((Text.stripPrefix? ['\uFEFF'] s).getD s)) do
    match value with
    | some v => if !environment.contains name then setVariable name v
    | none => pure ()

/-- Whether the environment asks for no files of variables. -/
def isDisabled (environment : OrderedMap String) : Bool :=
  match environment.get? "PYTHON_DOTENV_DISABLED" with
  | some v => ["1", "true", "t", "yes", "y"].contains (String.ofList (Text.foldCase v.toList))
  | none => false

end Stencil.EnvFile
