import Stencil.Template.Filter.Basic

namespace Stencil.Template.Filter

/-!
# Filters of templates

* `Filter.names` — the filters there are besides the helpers;
* `Filter.usesContext` — the filters that need a running template;
* `Filter.apply` — the result of a filter.

A filter that gives items one by one gives a stream. What a filter does to the items may be another filter or
a test, which are handed to it as `Callbacks`.
-/

open Value Arguments

/-- The filters there are besides the helpers. -/
def names : List String :=
  ["abs", "attr", "batch", "capitalize", "center", "count", "d", "default", "dictsort", "e", "escape",
   "filesizeformat", "first", "float", "forceescape", "format", "groupby", "indent", "int", "items", "join",
   "last", "length", "list", "lower", "map", "max", "min", "pprint", "random", "reject", "rejectattr",
   "replace", "reverse", "round", "safe", "select", "selectattr", "slice", "sort", "string", "striptags",
   "sum", "title", "tojson", "trim", "truncate", "unique", "upper", "urlencode", "urlize", "wordcount",
   "wordwrap", "xmlattr"]

/-- The filters that need a running template. -/
def usesContext (name : String) : Bool :=
  ["map", "select", "reject", "selectattr", "rejectattr", "random"].contains name

/-- The filters that give their items one by one. -/
def givesStream (name : String) : Bool :=
  ["map", "select", "reject", "selectattr", "rejectattr", "batch", "slice", "unique", "items"].contains name

/-- The parameters of a filter besides its subject. -/
def params (parameters : List String) (args : List Value) (named : List (String × Value)) :
    Run (List (Option Value)) :=
  Run.ofExcept (bind parameters args named)

/-- Whether arguments fit the parameters of a filter that gives a stream. -/
def checkStream (name : String) (args : List Value) (named : List (String × Value)) : Run Unit := do
  let fits (parameters : List String) (least : Nat) : Run Unit := do
    let values ← params parameters args named
    if (values.take least).any Option.isNone then Run.wrongType
  match name with
  | "batch" => fits ["linecount", "fill_with"] 1
  | "slice" => fits ["slices", "fill_with"] 1
  | "unique" => fits ["case_sensitive", "attribute"] 0
  | "items" => fits [] 0
  | _ => return ()

/-- The text of a value: a text is its own, even if it counts as escaped. -/
def soft (v : Value) : Run Value := do
  match v with
  | .str s => return .str s
  | .markup s => return .markup s
  | v => return .str (← Run.textOf v)

/-- A truth value that a filter may be given. -/
def flag (v : Option Value) : Run Bool :=
  match v with
  | Option.none => return false
  | some v => Run.isTrue v

/-- The keys by which an item is sorted: one for each of several attributes. -/
def sortKey (cb : Callbacks) (isSensitive : Bool) (part : Value) (v : Value) : Run Value := do
  let attributes : List Value := match part.asText? with
    | some s => (Text.piecesAt ',' s).map .str
    | Option.none => [part]
  return .list (← attributes.mapM fun a => cb.keyOf isSensitive a v)

/-- The least or greatest item of a value by a key. -/
def extreme (cb : Callbacks) (better : Ordering → Bool) (v : Value) (args : List Value)
    (named : List (String × Value)) : Run Value := do
  match ← params ["case_sensitive", "attribute"] args named with
  | [isSensitive, part] =>
    let isSensitive ← flag isSensitive
    let key := cb.keyOf isSensitive (part.getD .none)
    match ← cb.items v with
    | [] => return .undefined
    | x :: xs =>
      let step (best : Value × Value) (x : Value) : Run (Value × Value) := do
        let k ← key x
        return if ← Run.ofExcept (ordered better k best.1) then (k, x) else best
      return (← xs.foldlM step (← key x, x)).2
  | _ => Run.wrongType

/-- The first item of a value; undefined if there is none. -/
def first (cb : Callbacks) (v : Value) : Run Value := do
  match ← (← Cursor.start v).next cb with
  | some (x, _) => return x
  | Option.none => return .undefined

/-- The items of a value from the last to the first, one by one or as a list. A value without an order is
listed. -/
def reversed (cb : Callbacks) (v : Value) : Run Value := do
  match v with
  | .str s => return .str (.ofList s.toList.reverse)
  | .markup s => return .markup (.ofList s.toList.reverse)
  | .ref i .list =>
    match ← Run.cell i with
    | .list items => Run.stream (.plain (.backwards i items.size))
    | _ => Run.wrongType
  | .ref _ .set => Run.newList (← cb.items v).reverse
  | .object _ => Run.newList (← cb.items v).reverse
  | v => Run.stream (.plain (.fixed (← cb.items v).reverse))

/-- The last item of a value that has an order; undefined if there is none. -/
def last (cb : Callbacks) (v : Value) : Run Value := do
  match v with
  | .ref _ .set | .object _ => Run.wrongType
  | v => return (← cb.items v).getLast?.getD .undefined

/-- The sum of the items of a value from a start on. -/
def sum (cb : Callbacks) (v : Value) (part start : Value) : Run Value := do
  match start with
  | .str _ | .markup _ | .bytes _ => Run.wrongType
  | start =>
    let steps ← stepsTo part
    (← cb.items v).foldlM
      (fun total x => do
        let x ← Run.opened (← cb.follow steps .none x)
        Run.ofPlain ((← Run.opened total).add x))
      start

/-- The texts of the items of a value with a separator between them; where texts are escaped, the result counts as
escaped if some part does. -/
def join (cb : Callbacks) (v separator part : Value) : Run Value := do
  let steps ← stepsTo part
  let xs ← (← cb.items v).mapM (cb.follow steps .none)
  if !cb.escapes then return .str (Text.joined (← Run.textOf separator) (← xs.mapM Run.textOf))
  let isEscaped (v : Value) : Bool := v matches .markup _
  if isEscaped separator || xs.any isEscaped then
    return .markup (Text.joined (← Run.escapedText separator) (← xs.mapM Run.escapedText))
  return .str (Text.joined (← Run.textOf separator) (← xs.mapM Run.textOf))

/-- A text with parts replaced. -/
def replace (cb : Callbacks) (v old new count : Value) : Run Value := do
  let count := match count with
    | .none => .int (-1)
    | n => n
  if !cb.escapes then
    Run.ofExcept (callText (← Run.textOf v) "replace" [.str (← Run.textOf old), .str (← Run.textOf new), count] [])
  else
    let isEscaped (v : Value) : Bool := v matches .markup _
    let subject ← if isEscaped old || (isEscaped new && !isEscaped v) then
        pure (Value.markup (← Run.escapedText v))
      else soft v
    Run.ofExcept (subject.callMethod "replace" [← soft old, ← soft new, count] [])

/-- The entries of a mapping sorted by their keys or values. -/
def sortedEntries (v : Value) (isSensitive : Bool) (by_ : Value) (descending : Bool) : Run Value := do
  let entries ← match v with
    | .ref i .dict =>
      match ← Run.cell i with
      | .dict entries => pure entries.toList
      | _ => Run.wrongType
    | _ => Run.wrongType
  let byKey ← match by_.asText? with
    | some "key" => pure true
    | some "value" => pure false
    | _ => Run.wrongType
  let keyed ← entries.mapM fun e => do
    let k ← Run.whole (if byKey then e.1 else e.2)
    return (if isSensitive then k else foldCase k, e)
  let sorted ← Run.ofExcept (sortBy (·.1) descending keyed)
  Run.newList (sorted.map fun (_, k, v) => .tuple [k, v])

/-- The items of a value sorted by keys. -/
def sorted (cb : Callbacks) (v : Value) (descending isSensitive : Bool) (part : Value) : Run Value := do
  let keyed ← (← cb.items v).mapM fun x => do return (← sortKey cb isSensitive part x, x)
  let isMissing (k : Value) : Bool := (k.items?.getD []).any fun p => p matches .undefined
  if keyed.length > 1 && keyed.any fun (k, _) => isMissing k then Run.missing
  let sorted ← Run.ofExcept (sortBy (·.1) descending keyed)
  Run.newList (sorted.map (·.2))

/-- The number of items of a value. -/
def length (v : Value) : Run Value := do
  match (← Run.opened v).length? with
  | some n => return .int n
  | Option.none => Run.wrongType

/-- The result of a filter. -/
def apply (cb : Callbacks) (name : String) (v : Value) (args : List Value)
    (named : List (String × Value)) : Run Value := do
  let noParams : Run Unit := do
    let _ ← Run.ofExcept (positional 0 0 args named)
  let ex {α : Type} (x : Except Fault α) : Run α := Run.ofExcept x
  let textMethod (method : String) : Run Value := do
    noParams
    ex ((← soft v).callMethod method [] [])
  if givesStream name then
    checkStream name args named
    return ← Run.stream (.waiting name v args named)
  match name with
  | "abs" =>
    noParams
    match v.num? with
    | some (.int n) => return .int n.natAbs
    | some (.float x) => return .float x.abs
    | .none =>
      match v with
      | .complex re im => return .float (re * re + im * im).sqrt
      | .duration n => return .duration n.natAbs
      | _ => Run.wrongType
  | "attr" =>
    match ← params ["name"] args named with
    | [some n] => cb.getAttribute v (.str (← Run.textOf n))
    | _ => Run.wrongType
  | "capitalize" => textMethod "capitalize"
  | "lower" => textMethod "lower"
  | "upper" => textMethod "upper"
  | "title" =>
    noParams
    return .str (.ofList (titleText (← Run.textOf v).toList))
  | "center" =>
    match ← params ["width"] args named with
    | [w] => ex ((← soft v).callMethod "center" [w.getD (.int 80)] [])
    | _ => Run.wrongType
  | "count" | "length" =>
    noParams
    length v
  | "d" | "default" =>
    match ← params ["default_value", "boolean"] args named with
    | [default, boolean] =>
      if v matches .undefined then return default.getD (.str "")
      if (← flag boolean) && !(← Run.isTrue v) then return default.getD (.str "")
      return v
    | _ => Run.wrongType
  | "dictsort" =>
    match ← params ["case_sensitive", "by", "reverse"] args named with
    | [isSensitive, by_, reverse] =>
      sortedEntries v (← flag isSensitive) (by_.getD (.str "key")) (← flag reverse)
    | _ => Run.wrongType
  | "e" | "escape" =>
    noParams
    return .markup (← Run.escapedText v)
  | "forceescape" =>
    noParams
    return .markup (escapeMarkup (← Run.textOf v))
  | "safe" =>
    noParams
    return .markup (← Run.textOf v)
  | "first" =>
    noParams
    first cb v
  | "last" =>
    noParams
    last cb v
  | "float" =>
    match ← params ["default"] args named with
    | [default] => ex (toFloat v (default.getD (.float 0)))
    | _ => Run.wrongType
  | "int" =>
    match ← params ["default", "base"] args named with
    | [default, base] => ex (toInt v (default.getD (.int 0)) (base.getD (.int 10)))
    | _ => Run.wrongType
  | "format" =>
    if !args.isEmpty && !named.isEmpty then Run.wrongType
    let args ← Run.wholeAll args
    let named ← Run.wholeNamed named
    ex (mod (← soft v) (if named.isEmpty then .tuple args else ofFields named))
  | "indent" =>
    match ← params ["width", "first", "blank"] args named with
    | [width, first, blank] =>
      let indention ← ex (indentionOf (width.getD (.int 4)))
      let moved (s : String) : Run String := do
        return .ofList (indentText s.toList indention (← flag first) (← flag blank))
      match v with
      | .str s => return .str (← moved s)
      | .markup s => return .markup (← moved s)
      | _ => Run.wrongType
    | _ => Run.wrongType
  | "join" =>
    match ← params ["d", "attribute"] args named with
    | [d, part] => join cb v (d.getD (.str "")) (part.getD .none)
    | _ => Run.wrongType
  | "list" =>
    noParams
    Run.newList (← cb.items v)
  | "max" => extreme cb (· == .gt) v args named
  | "min" => extreme cb (· == .lt) v args named
  | "replace" =>
    match ← params ["old", "new", "count"] args named with
    | [some old, some new, count] => replace cb v old new (count.getD .none)
    | _ => Run.wrongType
  | "reverse" =>
    noParams
    reversed cb v
  | "round" =>
    match ← params ["precision", "method"] args named with
    | [precision, how] =>
      match (how.getD (.str "common")).asText? with
      | some how => ex (round v (precision.getD (.int 0)) how)
      | Option.none => Run.wrongType
    | _ => Run.wrongType
  | "sort" =>
    match ← params ["reverse", "case_sensitive", "attribute"] args named with
    | [reverse, isSensitive, part] =>
      sorted cb v (← flag reverse) (← flag isSensitive) (part.getD .none)
    | _ => Run.wrongType
  | "string" =>
    noParams
    soft v
  | "sum" =>
    match ← params ["attribute", "start"] args named with
    | [part, start] => sum cb v (part.getD .none) (start.getD (.int 0))
    | _ => Run.wrongType
  | "tojson" =>
    match ← params ["indent"] args named with
    | [indent] => return .markup (← ex (safeJson (← Run.whole v) (indent.getD .none)))
    | _ => Run.wrongType
  | "trim" =>
    match ← params ["chars"] args named with
    | [chars] => ex ((← soft v).callMethod "strip" [chars.getD .none] [])
    | _ => Run.wrongType
  | "truncate" =>
    match ← params ["length", "killwords", "end", "leeway"] args named with
    | [length, killsWords, ending, leeway] =>
      let opened ← Run.opened v
      let cut ← ex (truncateText opened (length.getD (.int 255)) (← flag killsWords)
        (ending.getD (.str "...")) (leeway.getD .none))
      -- What is short enough is the value itself.
      if cut.asText?.isSome then return cut else return v
    | _ => Run.wrongType
  | "wordcount" =>
    noParams
    return .int (wordCount (← Run.textOf v).toList)
  | _ => Run.wrongType

end Stencil.Template.Filter
