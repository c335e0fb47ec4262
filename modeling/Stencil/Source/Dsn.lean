import Stencil.Decimal.Reader
import Stencil.OrderedMap
import Stencil.Text.Encoding
import Stencil.Text.Letters

namespace Stencil

/-!
# Data source names

A data source name is a URL: a driver, perhaps a user with a password, a host with a port, a database and
parameters.

* `Dsn` — its parts;
* `Dsn.parse` — the parts of a text;
* `Dsn.shown` — the text with its password hidden;
* `Dsn.withDatabase` — the same server with another database.
-/

/-- The parts of a data source name. -/
structure Dsn where
  driver : String
  user : Option String := none
  password : Option String := none
  host : Option String := none
  port : Option Int := none
  database : Option String := none
  parameters : OrderedMap (List String) := []
  deriving Repr, BEq, DecidableEq, Inhabited

namespace Dsn

/-- Why a text is no data source name. -/
inductive Problem where
  /-- no driver -/
  | malformed
  /-- a port that is no number -/
  | badPort
  deriving Repr, BEq, DecidableEq, Inhabited

/-! ### Reading -/

/-- The leading characters of a class, and what follows them. -/
def spanOf (p : Char → Bool) (s : List Char) : List Char × List Char :=
  (s.takeWhile p, s.dropWhile p)

/-- The driver, and what follows it and `://`. -/
def driver? (s : List Char) : Option (List Char × List Char) :=
  let (name, rest) := spanOf (fun c => Text.isWordChar c || c = '+') s
  if name.isEmpty then none
  else (Text.stripPrefix? "://".toList rest).map fun rest => (name, rest)

/-- The user and the password before an at sign, and what follows it. A password ends at the first at sign
after it; a user without a password at the last one before a colon or slash. -/
def credentials (s : List Char) : Option (List Char) × Option (List Char) × List Char :=
  let (user, rest) := spanOf (fun c => c != ':' && c != '/') s
  let withPassword := match rest with
    | ':' :: rest =>
      match Text.cut '@' rest with
      | (password, some rest) => some (some user, some password, rest)
      | (_, none) => none
    | _ => none
  match withPassword, Text.cutAtLast? '@' user with
  | some found, _ => found
  | none, some (user, after) => (some user, none, after ++ rest)
  | none, none => (none, none, s)

/-- The host, which may stand in brackets, and what follows it. -/
def hostOf (s : List Char) : Option (List Char) × List Char :=
  let bracketed := match s with
    | '[' :: rest =>
      let (inside, rest) := spanOf (fun c => c != '/' && c != '?') rest
      match Text.cutAtLast? ']' inside with
      | some (host, after) => if host.isEmpty then none else some (host, after ++ rest)
      | none => none
    | _ => none
  match bracketed with
  | some (host, rest) => (some host, rest)
  | none =>
    let (host, rest) := spanOf (fun c => c != '/' && c != ':' && c != '?') s
    (if host.isEmpty then none else some host, rest)

/-- What stands after a mark up to a character of a class, and what follows it. -/
def after? (mark : Char) (ends : Char → Bool) (s : List Char) : Option (List Char) × List Char :=
  match s with
  | c :: rest =>
    if c = mark then
      let (part, rest) := spanOf (fun c => !ends c) rest
      (some part, rest)
    else (none, s)
  | [] => (none, [])

/-- The text of a parameter: plus signs are blanks. -/
def parameterText (s : List Char) : String :=
  .ofList (Text.percentDecode (s.map fun c => if c = '+' then ' ' else c))

/-- The parameters of a query; those without a value are left out. -/
def parametersOf (s : List Char) : OrderedMap (List String) :=
  (Text.splitAtChar '&' s).foldl (fun m piece =>
    match Text.cut '=' piece with
    | (name, some (c :: value)) =>
      let name := parameterText name
      m.put name (((OrderedMap.get? m name).getD []) ++ [parameterText (c :: value)])
    | _ => m) ([] : OrderedMap (List String))

/-- The parts of a text; what cannot be read at its end is left out. -/
def parse (text : String) : Except Problem Dsn := do
  let some (driver, s) := driver? text.toList | throw .malformed
  let (user, password, s) := credentials s
  let (host, s) := hostOf s
  let (port, s) := after? ':' (fun c => c = '/' || c = '?') s
  let (database, s) := after? '/' (· = '?') s
  let (query, _) := after? '?' (· = '\n') s
  -- Driver and host are taken as they are written.
  let decoded (part : List Char) : String := .ofList (Text.percentDecode part)
  let port ← match port with
    | none => pure none
    | some digits =>
      match Decimal.readBounded? digits with
      | some n => pure (some n)
      | none => throw .badPort
  return {
    driver := .ofList driver, user := user.map decoded, password := password.map decoded
    host := host.map String.ofList, port, database := database.map decoded
    parameters := (query.map parametersOf).getD [] }

/-! ### Writing -/

/-- A part as it is written. -/
def encoded (safe : String) (part : String) : String :=
  .ofList (Text.percentEncode safe.toList part.toList)

/-- A name or value of a parameter as it is written: blanks are plus signs. -/
def encodedParameter (part : String) : String :=
  .ofList ((Text.percentEncode [' '] part.toList).map fun c => if c = ' ' then '+' else c)

/-- The parameters as they are written, in the order of their names. -/
def shownParameters (parameters : OrderedMap (List String)) : String :=
  let sorted := parameters.mergeSort fun a b => compare a.1 b.1 != .gt
  let pairs := sorted.flatMap fun (name, values) =>
    values.map fun value => encodedParameter name ++ "=" ++ encodedParameter value
  if pairs.isEmpty then "" else "?" ++ Text.joined "&" pairs

/-- The user as it is written, with stars for the password. -/
def shownUser (d : Dsn) : String :=
  match d.user with
  | none => ""
  | some user => encoded " +" user ++ (if d.password.isSome then ":***" else "") ++ "@"

/-- The host as it is written: in brackets if it has a colon. -/
def shownHost (host : String) : String :=
  if host.toList.contains ':' then "[" ++ host ++ "]" else host

/-- The text of a data source name with its password hidden. -/
def shown (d : Dsn) : String :=
  d.driver ++ "://" ++ d.shownUser ++ (d.host.map shownHost).getD "" ++
    (d.port.map fun n => ":" ++ toString n).getD "" ++
    (d.database.map fun name => "/" ++ encoded " +/" name).getD "" ++ shownParameters d.parameters

/-! ### Parts -/

/-- The kind of server: the driver up to a plus sign. -/
def backend (d : Dsn) : String :=
  .ofList (Text.cut '+' d.driver.toList).1

/-- The same server with another database. -/
def withDatabase (d : Dsn) (name : String) : Dsn :=
  { d with database := some name }

end Dsn

end Stencil
