import Stencil.Shell.Program.File
import Stencil.Shell.Program.Sort

namespace Stencil.Shell.Program

/-!
# Looking at directories

* `ls` — the names in directories;
* `realpath`, `readlink` — full paths;
* `stat`, `du` — what is known of files.
-/

open Exec

/-! ### Listings -/

/-- A file in a listing: its name, its place and what it is. -/
structure Listed where
  name : Raw
  place : Location
  entry : Entry

namespace Listed

/-- The size of a file in bytes. -/
def size (x : Listed) : Nat :=
  match x.entry with
  | .file bytes => bytes.size
  | .directory => 4096

/-- Whether a file is a directory. -/
def isDirectory (x : Listed) : Bool :=
  x.entry == .directory

end Listed

/-- The permissions of a file, as they are shown. -/
def permissions (x : Listed) : Exec Raw := do
  let runnable := (← get).machine.files.isRunnable x.place
  return (if x.isDirectory then "drwxr-xr-x" else if runnable then "-rwxr-xr-x" else "-rw-r--r--").toList

/-- The number of blocks of a thousand bytes that a file takes. -/
def blocks (x : Listed) : Nat :=
  if x.isDirectory then 4 else (x.size + 4095) / 4096 * 4

/-- What is shown behind the name of a file. -/
def indicator (found : List (Char × Raw)) (x : Listed) : Exec Raw := do
  if x.isDirectory && (has found 'F' || has found 'p') then return ['/']
  if has found 'F' && (← get).machine.files.isRunnable x.place then return ['*']
  return []

/-- Files in the order of a listing. -/
def inOrder (found : List (Char × Raw)) (xs : List Listed) : List Listed :=
  let sorted := if has found 'U' || has found 'f' then xs
    else if has found 'S' then xs.mergeSort fun a b => b.size < a.size || (a.size = b.size && Raw.before a.name b.name)
    else if has found 'v' then xs.mergeSort fun a b =>
      (versionOrder a.name b.name).then (compare a.name b.name) != .gt
    else if has found 'X' then
      let ending (x : Listed) : Raw := ((Text.cutAtLast? '.' x.name).map (·.2)).getD []
      xs.mergeSort fun a b => (compare (ending a) (ending b)).then (compare a.name b.name) != .gt
    else xs.mergeSort fun a b => Raw.before a.name b.name
  if has found 'r' then sorted.reverse else sorted

/-- The lines of a listing. -/
def listing (found : List (Char × Raw)) (xs : List Listed) : Exec Raw := do
  let shownName (x : Listed) : Exec Raw := do
    return (if has found 'Q' then '"' :: x.name ++ ['"'] else x.name) ++ (← indicator found x)
  let names ← xs.mapM shownName
  if has found 'l' || has found 'n' || has found 'g' || has found 'o' then
    let width := xs.foldl (fun n x => max n (Raw.ofNat x.size).length) 1
    let lines ← xs.mapM fun x => do
      let links := if x.isDirectory then ['2'] else ['1']
      let owner := if has found 'g' then [] else if has found 'n' then " 0".toList else " root".toList
      let group := if has found 'o' then [] else if has found 'n' then " 0".toList else " root".toList
      return (← permissions x) ++ ' ' :: links ++ owner ++ group ++ ' ' :: padLeft width (Raw.ofNat x.size) ++
        " Jan  1 00:00 ".toList ++ (← shownName x) ++ ['\n']
    return lines.flatten
  if has found 's' then
    let width := xs.foldl (fun n x => max n (Raw.ofNat (blocks x)).length) 1
    return ((xs.zip names).flatMap fun (x, name) =>
      padLeft width (Raw.ofNat (blocks x)) ++ ' ' :: name ++ ['\n'])
  if has found 'm' then return if names.isEmpty then [] else Text.join [',', ' '] names ++ ['\n']
  if (has found 'x' || has found 'C') && !has found '1' then
    return if names.isEmpty then [] else Text.join [' ', ' '] names ++ ['\n']
  return names.flatMap (· ++ ['\n'])

/-- The files in a directory that a listing shows. -/
def shownIn (found : List (Char × Raw)) (l : Location) : Exec (List Listed) := do
  let all := has found 'a' || has found 'f'
  let files := (← get).machine.files
  let names := (← namesIn l).filter fun name => all || has found 'A' || name.head? != some '.'
  let own := names.filterMap fun name =>
    let place := l ++ [Raw.toString name]
    (files.get? place).map fun entry => { name, place, entry : Listed }
  let dots : List Listed := if all then
    [⟨['.'], l, .directory⟩, ⟨['.', '.'], l.dropLast, .directory⟩] else []
  return inOrder found (dots ++ own)

/-- The listing of a directory and, if asked for, of those inside it; a number bounds how deep they are. -/
def directoryListing (found : List (Char × Raw)) (hasHeading : Bool) : Nat → Raw → Location → Exec (List Raw)
  | 0, _, _ => return []
  | depth + 1, path, l => do
    let xs ← shownIn found l
    let heading := if hasHeading then path ++ [':', '\n'] else []
    let total := if "lngso".toList.any (has found) then
      "total ".toList ++ Raw.ofNat ((xs.map blocks).foldl (· + ·) 0) ++ ['\n'] else []
    let own := heading ++ total ++ (← listing found xs)
    if !has found 'R' then return [own]
    let below ← (xs.filter fun x => x.isDirectory && x.name != ['.'] && x.name != ['.', '.']).mapM fun x =>
      directoryListing found hasHeading depth (inside path x.name) x.place
    return own :: below.flatten

/-- How deep directories are followed. -/
def maxDirectories : Nat := 1000

/-- Write the names in directories. -/
def ls : Program := fun _ args => do
  let o : Options := {
    name := "ls", plain := "1aAdFrRlphmxCSUQgnoitscuvXfNGLHkqbZB", valued := "wIT", code := 2
    long := [("all", 'a'), ("almost-all", 'A'), ("directory", 'd'), ("classify", 'F'), ("reverse", 'r'),
      ("recursive", 'R'), ("human-readable", 'h'), ("size", 's'), ("color", 'N'), ("quote-name", 'Q'),
      ("group-directories-first", 'N'), ("full-time", 'l')] }
  let (found, given) ← o.read args
  let names := if given.isEmpty then [['.']] else given
  let mut code := 0
  let mut files : List Listed := []
  let mut directories : List (Raw × Location) := []
  for name in names do
    match ← placeOf name with
    | .error f =>
      complainAs "ls" (failure "cannot access" name f)
      code := 2
    | .ok (place, entry) =>
      if entry = .directory && !has found 'd' then directories := (name, place) :: directories
      else files := { name, place, entry } :: files
  let first ← if files.isEmpty then pure [] else do pure [← listing found (inOrder found files.reverse)]
  let sorted := (inOrder found (directories.map fun (name, place) => ⟨name, place, .directory⟩))
  let hasHeading := 1 < names.length || has found 'R'
  let rest ← sorted.mapM fun x => directoryListing found hasHeading maxDirectories x.name x.place
  put (Text.join ['\n'] (first ++ rest.flatten))
  return code

/-! ### Paths -/

/-- The full path of a place. -/
def pathOf (l : Location) : Raw :=
  Raw.ofString (Path.toString ⟨"/", l⟩)

/-- Write full paths. -/
def realpath : Program := fun _ args => do
  let o : Options := {
    name := "realpath", plain := "emsqLPz", valued := "rb"
    long := [("canonicalize-existing", 'e'), ("canonicalize-missing", 'm'), ("no-symlinks", 's'),
      ("strip", 's'), ("relative-to", 'r'), ("relative-base", 'b'), ("quiet", 'q')] }
  let (found, names) ← o.read args
  if names.isEmpty then o.refuse "missing operand".toList
  let base ← match valueOf? found 'r' with
    | some r =>
      match ← locate r with
      | .ok l => pure (some l)
      | .error f => refuse "realpath" (shownIfNeeded r ++ ": ".toList ++ (Exec.problem f).toList)
    | none => pure none
  let mut code := 0
  for name in names do
    let place ← if has found 'm' then
        match ← locate name with
        | .ok l => pure (.ok l)
        | .error .missing =>
          let d ← disk
          pure (.ok (d.resolve (Path.ofString (Raw.toString name))).parts)
        | .error f => pure (.error f)
      else if has found 'e' then do pure ((← placeOf name).map (·.1))
      else newPlace name
    match place with
    | .ok l =>
      match base with
      | none => putLine (pathOf l)
      | some b =>
        let common := ((l.zip b).takeWhile fun (x, y) => x = y).length
        let parts := List.replicate (b.length - common) ".." ++ l.drop common
        putLine (if parts.isEmpty then ['.'] else Raw.ofString (String.intercalate "/" parts))
    | .error f =>
      if !has found 'q' then complainOf "realpath" name (Exec.problem f)
      code := 1
  return code

/-- Write where links lead to; without options nothing is a link. -/
def readlink : Program := fun _ args => do
  let o : Options := {
    name := "readlink", plain := "femnqsvz", long := [("canonicalize", 'f'), ("canonicalize-existing", 'e'),
      ("canonicalize-missing", 'm'), ("no-newline", 'n')] }
  let (found, names) ← o.read args
  if names.isEmpty then o.refuse "missing operand".toList
  let mut code := 0
  for name in names do
    let place ← if has found 'f' || has found 'm' then newPlace name
      else if has found 'e' then do pure ((← placeOf name).map (·.1))
      else pure (.error FileFault.missing)
    match place with
    | .ok l => put (pathOf l ++ (if has found 'n' then [] else ['\n']))
    | .error _ => code := 1
  return code

/-! ### What is known of files -/

/-- The text of a format for a file; `limit` bounds its length. -/
def statText (x : Listed) (mode : Raw) : Nat → Raw → Raw
  | 0, _ => []
  | _, [] => []
  | limit + 1, '%' :: c :: rest =>
    let number (r : Raw) : Raw := if r.getLast? = some 'x' then "755".toList else "644".toList
    (match c with
      | 'n' => x.name
      | 's' => Raw.ofNat x.size
      | 'F' =>
        if x.isDirectory then "directory".toList
        else if x.size = 0 then "regular empty file".toList else "regular file".toList
      | 'a' => number mode
      | 'A' => mode
      | 'U' => "root".toList
      | 'G' => "root".toList
      | 'u' => ['0']
      | 'g' => ['0']
      | 'h' => if x.isDirectory then ['2'] else ['1']
      | 'N' => quoted x.name
      | '%' => ['%']
      | c => ['%', c]) ++ statText x mode limit rest
  | limit + 1, c :: rest => c :: statText x mode limit rest

/-- Write what is known of files. -/
def stat : Program := fun _ args => do
  let o : Options := {
    name := "stat", plain := "Lft", valued := "cP", long := [("format", 'c'), ("printf", 'P'), ("terse", 't')] }
  let (found, names) ← o.read args
  if names.isEmpty then o.refuse "missing operand".toList
  let mut code := 0
  for name in names do
    match ← placeOf name with
    | .error f =>
      complainAs "stat" (failure "cannot statx" name f)
      code := 1
    | .ok (place, entry) =>
      let x : Listed := { name, place, entry }
      let mode ← permissions x
      match valueOf? found 'c', valueOf? found 'P' with
      | some format, _ => putLine (statText x mode (format.length + 1) format)
      | none, some format => put (unescaped (statText x mode (format.length + 1) format)).1
      | none, none =>
        putLine ("  File: ".toList ++ name)
        putLine ("  Size: ".toList ++ Raw.ofNat x.size)
  return code

/-- Write how much room files take. -/
def du : Program := fun _ args => do
  let o : Options := {
    name := "du", plain := "sabhkcxmL", valued := "d"
    long := [("summarize", 's'), ("all", 'a'), ("bytes", 'b'), ("human-readable", 'h'), ("max-depth", 'd')] }
  let (found, given) ← o.read args
  let names := if given.isEmpty then [['.']] else given
  let mut code := 0
  for name in names do
    match ← placeOf name with
    | .error f =>
      complainAs "du" (failure "cannot access" name f)
      code := 1
    | .ok (place, entry) =>
      let files := (← get).machine.files
      let all := (place, entry) :: files.below place
      let sizeBelow (l : Location) : Nat :=
        let xs := (all.filter fun (k, _) => l.isPrefixOf k).map fun (k, e) => ({ name := [], place := k, entry := e } : Listed)
        (xs.map fun x => if has found 'b' then x.size else blocks x).foldl (· + ·) 0
      let shown := all.filter fun (k, e) => k = place || (!has found 's' && (e = .directory || has found 'a'))
      let sorted := shown.mergeSort fun a b =>
        if a.1.isPrefixOf b.1 then a.1 = b.1 else b.1.isPrefixOf a.1 || compare a.1 b.1 != .gt
      for (k, _) in sorted do
        let path := k.drop place.length
        let shownName := if path.isEmpty then name else inside name (Raw.ofString (String.intercalate "/" path))
        putLine (Raw.ofNat (sizeBelow k) ++ '\t' :: shownName)
  return code

end Stencil.Shell.Program
