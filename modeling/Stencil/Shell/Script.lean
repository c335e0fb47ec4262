import Stencil.Shell.Token

namespace Stencil.Shell

/-!
# Reading scripts

A script is read line by line: a command that has been read is run before the rest is looked at.

* `Reader.commands` — the commands up to where they cannot go on;
* `Cursor.line?` — the commands of the next line of a script.
-/

namespace Reader

/-- A token that cannot stand at its place. -/
def unexpected {α : Type} (t : Token) : Reader α :=
  fail (t.title ++ " unexpected")

/-- A token that stands in the place of another. -/
def expecting {α : Type} (t : Token) (wanted : String) : Reader α :=
  fail (t.title ++ " unexpected (expecting \"" ++ wanted ++ "\")")

/-- The word of a redirection. -/
def redirectTarget (cs : Commands) (t : Token) : Reader Redirect := do
  match t with
  | .redirect stream kind =>
    match ← token cs {} with
    | .word w => return .to stream kind w
    | t => unexpected t
  | .here stream stripsTabs =>
    let wanted : Wanted := { isMark := true }
    match ← token cs wanted with
    | .word w =>
      let number := (← get).documents.size
      let a : Awaited :=
        { number, mark := markText w, stripsTabs, expands := (Word.plain? w).isSome }
      modify fun c => { c with awaited := c.awaited ++ [a], documents := c.documents.push [] }
      return .here stream number
    | t => unexpected t
  | t => unexpected t

/-- Redirections after a command. -/
def redirects (cs : Commands) : Nat → Reader (List Redirect)
  | 0 => return []
  | n + 1 => do
    match ← token cs { keywords := true } with
    | .redirect stream kind =>
      let r ← redirectTarget cs (.redirect stream kind)
      return r :: (← redirects cs n)
    | .here stream stripsTabs =>
      let r ← redirectTarget cs (.here stream stripsTabs)
      return r :: (← redirects cs n)
    | t =>
      keep t
      return []

/-- The words that cannot name functions, since they change the shell itself. -/
def reservedNames : List String :=
  [".", ":", "break", "continue", "eval", "exec", "exit", "export", "local", "readonly", "return", "set",
   "shift", "times", "trap", "unset"]

/-- What has been read of a simple command. -/
structure Simple where
  assignments : List Word := []
  words : List Word := []
  redirects : List Redirect := []

/-- A simple command: assignments, words and redirections. A word before a pair of brackets is the name of a
function. -/
def simple (cs : Commands) (body : Reader Command) (line : Nat) : Nat → Simple → Reader Command
  | 0, s => return .simple line s.assignments s.words s.redirects
  | n + 1, s => do
    match ← token cs { aliases := s.words.isEmpty } with
    | .word w =>
      -- Behind the first word, what looks like an assignment is a word.
      if s.words.isEmpty && w.assigned?.isSome then
        simple cs body line n { s with assignments := s.assignments ++ [w] }
      else simple cs body line n { s with words := s.words ++ [w] }
    | .redirect stream kind =>
      let r ← redirectTarget cs (.redirect stream kind)
      simple cs body line n { s with redirects := s.redirects ++ [r] }
    | .here stream stripsTabs =>
      let r ← redirectTarget cs (.here stream stripsTabs)
      simple cs body line n { s with redirects := s.redirects ++ [r] }
    | .sign "(" =>
      match s with
      | ⟨[], [w], []⟩ =>
        match ← token cs {} with
        | .sign ")" =>
          let name := (Word.plain? w).getD []
          if !Raw.isName name || reservedNames.contains (.ofList name) then fail "Bad function name"
          let c ← get
          keep (← token cs { skipsLineEnds := true, keywords := true })
          return .define name c.line (← body)
        | t => expecting t ")"
      | s =>
        keep (.sign "(")
        return .simple line s.assignments s.words s.redirects
    | t =>
      keep t
      return .simple line s.assignments s.words s.redirects

/-- The words of a loop up to the end of its head. -/
def loopWords (cs : Commands) : Nat → Reader (List Word)
  | 0 => return []
  | n + 1 => do
    match ← token cs {} with
    | .word w => return w :: (← loopWords cs n)
    | .lineEnd => return []
    | .sign ";" => return []
    | t => unexpected t

/-- The word that a token stands for. -/
def tokenWord : Token → Word
  | .word w => w
  | .keyword s => s.toList.map .char
  | _ => []

/-- The patterns of a branch after the first one. -/
def patterns (cs : Commands) : Nat → Token → Reader (List Word)
  | 0, _ => return []
  | n + 1, t => do
    let w := tokenWord t
    match ← token cs {} with
    | .sign "|" => return w :: (← patterns cs n (← token cs {}))
    | .sign ")" => return [w]
    | t => expecting t ")"

/-- Whether a token ends the commands in front of it. -/
def endsCommands : Token → Bool
  | .endOfScript => true
  | .sign s => s = ")" || s = ";;"
  | .keyword s => ["do", "done", "elif", "else", "esac", "fi", "then", "\x7d"].contains s
  | _ => false

/-- How many commands are looked for. -/
inductive Extent where
  /-- those of one line -/
  | line
  /-- at least one, over any number of lines -/
  | some
  /-- any number -/
  | any
  deriving Repr, BEq, DecidableEq, Inhabited

/-- The command that commands one after the other make. -/
def inSequence : List Command → Option Command
  | [] => none
  | [c] => .some c
  | cs => .some (.sequence cs)

/-- Expect a keyword. -/
def expect (cs : Commands) (wanted : Wanted) (text : String) : Reader Unit := do
  match ← token cs wanted with
  | .keyword s => if s = text then return else expecting (.keyword s) text
  | t => expecting t text

mutual

/-- How words are read. -/
def commandsAt : Nat → Commands
  | 0 => { inBrackets := return none, whole := fun _ => return none }
  | n + 1 =>
    { inBrackets := do
        let outer := (← get).awaited
        modify fun c => { c with awaited := [] }
        let body ← list n .any []
        match ← token (commandsAt n) {} with
        | .sign ")" =>
          modify fun c => { c with awaited := outer }
          return body
        | t => expecting t ")"
      whole := fun source => do
        let outer ← get
        set { outer with rest := source, line := 1, kept := none, awaited := [] }
        let body ← list n .any []
        modify fun c => { outer with documents := c.documents }
        return body }

/-- Commands one after the other; `before` holds those that have been read, the last one first. -/
def list : Nat → Extent → List Command → Reader (Option Command)
  | 0, _, before => return inSequence before.reverse
  | n + 1, extent, before => do
    let cs := commandsAt n
    let t ← token cs { skipsLineEnds := extent != .line, keywords := true }
    match t with
    | .lineEnd =>
      documents cs
      return inSequence before.reverse
    | .endOfScript =>
      documents cs
      keep t
      return inSequence before.reverse
    | t =>
      keep t
      if endsCommands t && (extent = .any || (extent = .some && !before.isEmpty)) then
        return inSequence before.reverse
      let line := (← get).line
      let c ← chain n
      let t ← token cs {}
      let c := match t with
        | .sign "&" => Command.background line c
        | _ => c
      let goesOn := match t with
        | .lineEnd => true
        | .endOfScript => true
        | .sign s => s = ";" || s = "&"
        | _ => false
      if goesOn then
        match t with
        | .sign _ => pure ()
        | t => keep t
        list n extent (c :: before)
      else
        if extent = .line then unexpected t
        keep t
        return inSequence (c :: before).reverse

/-- Commands joined by operators that look at success. -/
def chain : Nat → Reader Command
  | 0 => fail "Stack overflow"
  | n + 1 => do joined n (← pipeline n)

/-- What is joined to a command. -/
def joined : Nat → Command → Reader Command
  | 0, c => return c
  | n + 1, c => do
    let cs := commandsAt n
    match ← token cs {} with
    | .sign "&&" =>
      keep (← token cs { skipsLineEnds := true, keywords := true })
      joined n (.both c (← pipeline n))
    | .sign "||" =>
      keep (← token cs { skipsLineEnds := true, keywords := true })
      joined n (.either c (← pipeline n))
    | t =>
      keep t
      return c

/-- Commands of which each reads what the one before writes. -/
def pipeline : Nat → Reader Command
  | 0 => fail "Stack overflow"
  | n + 1 => do
    let cs := commandsAt n
    match ← token cs {} with
    | .keyword "!" =>
      keep (← token cs { keywords := true })
      return .negated (← piped n)
    | t =>
      keep t
      piped n

/-- Commands of which each reads what the one before writes, success as it is. -/
def piped : Nat → Reader Command
  | 0 => fail "Stack overflow"
  | n + 1 => do
    let c ← command n
    match ← stages n with
    | [] => return c
    | more => return .pipeline (c :: more)

/-- The further commands of a pipeline. -/
def stages : Nat → Reader (List Command)
  | 0 => return []
  | n + 1 => do
    let cs := commandsAt n
    match ← token cs {} with
    | .sign "|" =>
      keep (← token cs { skipsLineEnds := true, keywords := true })
      let c ← command n
      return c :: (← stages n)
    | t =>
      keep t
      return []

/-- At least one command. -/
def block : Nat → Reader Command
  | 0 => fail "Stack overflow"
  | n + 1 => do return ((← list n .some []).getD (.sequence []))

/-- A command with the redirections after it. -/
def finish : Nat → Nat → Command → Reader Command
  | 0, _, c => return c
  | n + 1, line, c => do
    match ← redirects (commandsAt n) ((← get).rest.length + 1), c with
    | [], c => return c
    | rs, .subshell line body _ => return .subshell line body rs
    | rs, c => return .redirected line c rs

/-- One command. -/
def command : Nat → Reader Command
  | 0 => fail "Stack overflow"
  | n + 1 => do
    let cs := commandsAt n
    let line := (← get).line
    match ← token cs {} with
    | .keyword "if" =>
      let c ← choice n
      expect cs { keywords := true } "fi"
      finish n line c
    | .keyword "while" =>
      let c ← loop n true
      finish n line c
    | .keyword "until" =>
      let c ← loop n false
      finish n line c
    | .keyword "for" =>
      let c ← forEach n line
      finish n line c
    | .keyword "case" =>
      let subject ← match ← token cs {} with
        | .word w => pure w
        | t => fail (t.title ++ " unexpected (expecting word)")
      expect cs { skipsLineEnds := true, keywords := true } "in"
      let bs ← branches n
      finish n line (.select line subject bs)
    | .sign "(" =>
      let body ← block n
      match ← token cs {} with
      | .sign ")" => finish n line (.subshell line body [])
      | t => expecting t ")"
    | .keyword "\x7b" =>
      let body ← block n
      expect cs { keywords := true } "\x7d"
      finish n line body
    | .word w =>
      keep (.word w)
      simple cs (command n) line ((← get).rest.length + 2) {}
    | .redirect stream kind =>
      keep (.redirect stream kind)
      simple cs (command n) line ((← get).rest.length + 2) {}
    | .here stream stripsTabs =>
      keep (.here stream stripsTabs)
      simple cs (command n) line ((← get).rest.length + 2) {}
    | t => unexpected t

/-- The condition and the branches of a choice. -/
def choice : Nat → Reader Command
  | 0 => fail "Stack overflow"
  | n + 1 => do
    let cs := commandsAt n
    let condition ← block n
    expect cs { keywords := true } "then"
    let yes ← block n
    match ← token cs { keywords := true } with
    | .keyword "elif" => return .choice condition yes (some (← choice n))
    | .keyword "else" => return .choice condition yes (some (← block n))
    | t =>
      keep t
      return .choice condition yes none

/-- The condition and the body of a loop. -/
def loop : Nat → Bool → Reader Command
  | 0, _ => fail "Stack overflow"
  | n + 1, wanted => do
    let cs := commandsAt n
    let condition ← block n
    expect cs { keywords := true } "do"
    let body ← block n
    expect cs { keywords := true } "done"
    return .loop wanted condition body

/-- The name, the words and the body of a loop over words. -/
def forEach : Nat → Nat → Reader Command
  | 0, _ => fail "Stack overflow"
  | n + 1, line => do
    let cs := commandsAt n
    let name ← match ← token cs {} with
      | .word w =>
        match Word.plain? w with
        | some name => if Raw.isName name then pure name else fail "Bad for loop variable"
        | none => fail "Bad for loop variable"
      | _ => fail "Bad for loop variable"
    let words ← match ← token cs { skipsLineEnds := true, keywords := true } with
      | .keyword "in" => loopWords cs ((← get).rest.length + 1)
      | .sign ";" => pure [[.quoted [.parameter ['@'] .value]]]
      | t => do
        keep t
        pure [[.quoted [.parameter ['@'] .value]]]
    expect cs { skipsLineEnds := true, keywords := true } "do"
    let body ← block n
    expect cs { keywords := true } "done"
    return .forEach line name words body

/-- The branches of a selection up to its end. -/
def branches : Nat → Reader (List (List Word × Option Command))
  | 0 => return []
  | n + 1 => do
    let cs := commandsAt n
    match ← token cs { skipsLineEnds := true, keywords := true } with
    | .keyword "esac" => return []
    | t =>
      let t ← match t with
        | .sign "(" => token cs {}
        | t => pure t
      let ps ← patterns cs ((← get).rest.length + 1) t
      let body ← list n .any []
      match ← token cs { skipsLineEnds := true, keywords := true } with
      | .keyword "esac" => return [(ps, body)]
      | .sign ";;" => return (ps, body) :: (← branches n)
      | t => expecting t ";;"

end

end Reader

/-- The commands of the next line of a script, and the place after it; nothing at the end of the script.
`documents` are the texts that are known already. -/
def Cursor.line? (c : Cursor) (documents : Array Word) (aliases : OrderedMap Raw) :
    Except Misread (Option (Option Command × Cursor)) := do
  let limit := 12 * c.rest.length + 24
  if c.rest.isEmpty && c.kept.isNone then return none
  let (body, after) ← (Reader.list limit .line []).run { c with awaited := [], documents, aliases }
  match after.kept with
  | some .endOfScript => return some (body, { after with kept := none, rest := [] })
  | _ => return some (body, after)

end Stencil.Shell
