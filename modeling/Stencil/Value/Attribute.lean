import Stencil.Calendar.Pattern
import Stencil.Value.Item

namespace Stencil.Value

/-!
# Attributes of values

* `typeName` — the name of the type of a value;
* `fieldsOf` — the attributes of a value that are plain values;
* `methodsOf` — the names of the operations of a value;
* `attribute?` — the attribute of a value with a name.
-/

/-- The name of the type of a value; dates and paths are named with the library that they belong to. -/
def typeName : Value → String
  | .none => "NoneType"
  | .bool _ => "bool"
  | .int _ => "int"
  | .float _ => "float"
  | .complex _ _ => "complex"
  | .str _ => "str"
  | .list _ => "list"
  | .tuple _ => "tuple"
  | .set _ => "set"
  | .dict _ => "dict"
  | .date _ => "datetime.date"
  | .datetime _ => "datetime.datetime"
  | .duration _ => "datetime.timedelta"
  | .side _ => "ConstraintSide"
  | .kind _ => "PromptKind"
  | .path _ => "pathlib.PosixPath"
  | .column _ => "Column"
  | .index _ => "Index"
  | .constraint _ => "Constraint"
  | .table _ => "Table"
  | .database _ => "Database"
  | .bytes _ => "bytes"
  | .range .. => "range"
  | .view part _ => "dict_" ++ part.name
  | .ref _ .list => "list"
  | .ref _ .dict => "dict"
  | .ref _ .set => "set"
  | .undefined => "jinja2.runtime.Undefined"
  | .markup _ => "markupsafe.Markup"
  | .object (.type _) => "type"
  | .object (.global _) => "type"
  | .object _ => "function"
  | .method _ _ => "builtin_function_or_method"

/-- The last part of the name of a type. -/
def shortTypeName (name : String) : String :=
  (Text.piecesAt '.' name).getLast?.getD name

/-! ### Fields -/

/-- The fields of a path. -/
def pathFields (p : Path) : List (String × Value) :=
  let parents := (List.range p.parts.length).map fun i =>
    Value.path { p with parts := p.parts.take (p.parts.length - 1 - i) }
  [("name", .str p.name), ("stem", .str p.stem), ("suffix", .str p.extension),
   ("suffixes", .list (texts p.extensions)), ("parent", .path p.parent), ("parents", .tuple parents),
   ("parts", .tuple (texts ((if p.root == "" then [] else [p.root]) ++ p.parts))),
   ("root", .str p.root), ("drive", .str ""), ("anchor", .str p.root)]

/-- The fields of a day. -/
def dateFields (d : Date) : List (String × Value) :=
  [("year", .int d.year), ("month", .int d.month), ("day", .int d.day)]

/-- The fields of a whole number. -/
def intFields (n : Int) : List (String × Value) :=
  [("real", .int n), ("imag", .int 0), ("numerator", .int n), ("denominator", .int 1)]

/-- The name of a side in the list of sides. -/
def sideName : Side → String
  | .localSide => "LOCAL"
  | .foreignSide => "FOREIGN"

/-- The fields of a value that are no methods. -/
def fieldsOf (v : Value) : List (String × Value) :=
  match v with
  | .bool b => intFields (if b then 1 else 0)
  | .int n => intFields n
  | .float x => [("real", .float x), ("imag", .float 0)]
  | .complex re im => [("real", .float re), ("imag", .float im)]
  | .side s => [("value", .str s.name), ("name", .str (sideName s))]
  | .kind k => [("value", .str k.name), ("name", .str (Text.uppercase k.name))]
  | .path p => pathFields p
  | .date d => dateFields d
  | .datetime t =>
    dateFields t.date ++
      [("hour", .int t.hour), ("minute", .int t.minute), ("second", .int t.second),
       ("microsecond", .int t.microsecond), ("fold", .int 0)]
  | .duration n =>
    let (days, seconds, rest) := durationParts n
    [("days", .int days), ("seconds", .int seconds), ("microseconds", .int rest)]
  | .range start stop step => [("start", .int start), ("stop", .int stop), ("step", .int step)]
  | .object (.type name) => [("__name__", .str (shortTypeName name))]
  | v => (v.schemaFields?.map (·.2)).getD []

/-! ### Methods -/

/-- The methods of texts. -/
def textMethods : List String :=
  ["upper", "lower", "casefold", "capitalize", "title", "swapcase", "strip", "lstrip", "rstrip", "split",
   "rsplit", "splitlines", "replace", "startswith", "endswith", "find", "rfind", "index", "rindex",
   "count", "join", "center", "ljust", "rjust", "zfill", "isdigit", "isdecimal", "isnumeric", "isalpha",
   "isalnum", "isupper", "islower", "isspace", "istitle", "isidentifier", "isascii", "isprintable",
   "partition", "rpartition", "removeprefix", "removesuffix", "format", "expandtabs", "encode",
   "translate", "maketrans", "format_map"]

/-- The methods of lists. -/
def listMethods : List String :=
  ["index", "count", "copy", "append", "extend", "insert", "pop", "remove", "clear", "sort", "reverse"]

/-- The methods of mappings. -/
def dictMethods : List String :=
  ["items", "keys", "values", "get", "copy", "pop", "popitem", "update", "setdefault", "clear", "fromkeys"]

/-- The methods of sets. -/
def setMethods : List String :=
  ["add", "clear", "copy", "difference", "difference_update", "discard", "intersection", "isdisjoint",
   "issubset", "issuperset", "pop", "remove", "symmetric_difference", "union", "update"]

/-- The methods of days. -/
def dateMethods : List String :=
  ["isoformat", "weekday", "isoweekday", "isocalendar", "strftime", "replace", "toordinal", "ctime"]

/-- The names of the methods of a value. -/
def methodsOf : Value → List String
  | .str _ => textMethods
  | .markup _ => textMethods ++ ["unescape", "striptags", "escape"]
  | .bytes _ => ["decode", "hex"]
  | .bool _ | .int _ => ["bit_length", "bit_count", "conjugate", "as_integer_ratio"]
  | .float _ => ["is_integer", "as_integer_ratio", "conjugate", "hex"]
  | .complex _ _ => ["conjugate"]
  | .list _ | .ref _ .list => listMethods
  | .tuple _ => ["index", "count"]
  | .range .. => ["index", "count"]
  | .dict _ | .ref _ .dict => dictMethods
  | .set _ | .ref _ .set => setMethods
  | .view _ _ => ["isdisjoint"]
  | .table _ => ["column", "column_names"]
  | .database _ => ["table", "table_names", "constraints_by_table"]
  | .date _ => dateMethods
  | .datetime _ => dateMethods ++ ["date", "timestamp", "utcoffset", "tzname"]
  | .duration _ => ["total_seconds"]
  | .path _ =>
    ["as_posix", "is_absolute", "joinpath", "with_name", "with_stem", "with_suffix", "relative_to",
     "is_relative_to"]
  | .object (.global .dict) => ["fromkeys"]
  | _ => []

/-- Whether a value has a length. -/
def hasLength : Value → Bool
  | .ref _ _ | .view _ _ => true
  | v => v.length?.isSome

/-- The operations of values that have names between underscores. -/
def specialMethods (v : Value) : List String :=
  ["__str__", "__repr__", "__eq__", "__ne__"] ++
    (if v.hasLength then ["__len__"] else []) ++
    (match v with
     | .str _ | .markup _ | .list _ | .tuple _ | .ref _ _ | .dict _ | .range .. => ["__contains__", "__getitem__"]
     | .set _ | .view .. => ["__contains__"]
     | _ => [])

/-- The attribute of a value, if it has one: a field or a method. -/
def attribute? (v : Value) (name : String) : Option Value :=
  match v.fieldsOf.lookup name with
  | some f => some f
  | .none =>
    if v.methodsOf.contains name then some (.method v name)
    else if !name.startsWith "__" || (v matches .undefined) then .none
    else if name = "__class__" then some (.object (.type v.typeName))
    else if v.specialMethods.contains name then some (.method v name)
    else .none

end Stencil.Value
