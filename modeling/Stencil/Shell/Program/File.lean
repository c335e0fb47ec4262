import Stencil.Shell.Program.Output

namespace Stencil.Shell.Program

/-!
# Files and directories

* `mkdir`, `rmdir`, `touch`, `truncate` — create them, or remove empty ones;
* `rm` — remove them;
* `cp`, `mv`, `ln`, `install` — copy and move them;
* `chmod` — say whether they may be run.
-/

open Exec

/-! ### Places -/

/-- The place of an entry with a name, and the entry. -/
def placeOf (name : Raw) : Exec (Except FileFault (Location × Entry)) := do
  match ← locate name with
  | .error f => return .error f
  | .ok l =>
    match ← entryAt l with
    | some e => return .ok (l, e)
    | none => return .error .missing

/-- The place of a new entry. All directories that lead to it exist. -/
def newPlace (name : Raw) : Exec (Except FileFault Location) := do
  match ← locate name with
  | .error f => return .error f
  | .ok l =>
    match ← entryAt l.dropLast with
    | some .directory => return .ok l
    | some (.file _) => return .error .notDirectory
    | none => return .error .missing

/-- Remove the entry at a place and everything below it. -/
def eraseAll (l : Location) : Exec Unit := do
  for (k, _) in (← get).machine.files.below l do eraseAt k
  eraseAt l

/-- Copy the entry at a place and everything below it to another place. -/
def copyAll (source target : Location) : Exec Unit := do
  let files := (← get).machine.files
  let own := (files.get? source).toList.map fun e => (source, e)
  let all := (own ++ files.below source).mergeSort fun a b => a.1.length ≤ b.1.length
  for (k, e) in all do
    let place := target ++ k.drop source.length
    match e, ← entryAt place with
    | .directory, some .directory => pure ()
    | _, _ => putAt place e
    if files.isRunnable k then updateMachine fun m => { m with files := m.files.setRunnable place true }

/-- A name inside a directory. -/
def inside (directory name : Raw) : Raw :=
  if directory.getLast? = some '/' then directory ++ name else directory ++ '/' :: name

/-- The words for a failure of a program, with the name of a file between quotes. -/
def failure (before : String) (name : Raw) (f : FileFault) : Raw :=
  before.toList ++ ' ' :: quoted name ++ ": ".toList ++ (Exec.problem f).toList

/-! ### Creating -/

/-- The directories that lead to a path, the path itself last. -/
def leading (name : Raw) : List Raw :=
  let pieces := Text.splitAtChar '/' name
  let starts := (List.range pieces.length).map fun i => Text.join ['/'] (pieces.take (i + 1))
  starts.filter fun r => !r.isEmpty && r.getLast? != some '/'

/-- Create directories. -/
def mkdir : Program := fun _ args => do
  let o : Options := {
    name := "mkdir", plain := "pv", valued := "m", long := [("parents", 'p'), ("verbose", 'v'), ("mode", 'm')] }
  let (found, names) ← o.read args
  if names.isEmpty then o.refuse "missing operand".toList
  let mut code := 0
  for name in names do
    let steps := if has found 'p' then leading (withoutSlashes name) else [name]
    let mut fault : Option FileFault := none
    for (step, i) in steps.zipIdx do
      if fault.isNone then
        match ← newPlace step with
        | .error f => fault := some f
        | .ok l =>
          match ← entryAt l with
          | some .directory => if !has found 'p' then fault := some .alreadyExists
          | some (.file _) => fault := some (if i + 1 < steps.length then .notDirectory else .alreadyExists)
          | none =>
            putAt l .directory
            if has found 'v' then putLine ("mkdir: created directory ".toList ++ quoted step)
        if let some f := fault then
          let blamed := if has found 'p' then step else name
          complainAs "mkdir" ("cannot create directory ".toList ++ shown blamed ++ ": ".toList ++
            (Exec.problem f).toList)
    if fault.isSome then code := 1
  return code

/-- Remove empty directories. -/
def rmdir : Program := fun _ args => do
  let o : Options := {
    name := "rmdir", plain := "pv"
    long := [("parents", 'p'), ("verbose", 'v'), ("ignore-fail-on-non-empty", 'v')] }
  let (found, names) ← o.read args
  if names.isEmpty then o.refuse "missing operand".toList
  let mut code := 0
  for name in names do
    let steps := if has found 'p' then (leading (withoutSlashes name)).reverse else [name]
    let mut goesOn := true
    for step in steps do
      if goesOn then
        if has found 'v' then putLine ("rmdir: removing directory, ".toList ++ quoted step)
        let fault ← match ← placeOf step with
          | .error f => pure (some f)
          | .ok (l, .directory) =>
            if ((← get).machine.files.below l).isEmpty then
              eraseAt l
              pure none
            else pure (some FileFault.notEmpty)
          | .ok _ => pure (some FileFault.notDirectory)
        if let some f := fault then
          complainAs "rmdir" (failure "failed to remove" step f)
          code := 1
          goesOn := false
  return code

/-- Create files that are missing. -/
def touch : Program := fun _ args => do
  let o : Options := {
    name := "touch", plain := "acmfh", valued := "drt"
    long := [("no-create", 'c'), ("date", 'd'), ("reference", 'r'), ("time", 't')] }
  let (found, names) ← o.read args
  if names.isEmpty then o.refuse "missing file operand".toList
  let mut code := 0
  for name in names do
    if !has found 'c' then
      match ← placeOf name with
      | .ok _ => pure ()
      | .error _ =>
        match ← openFile name true false { channel := .nowhere } with
        | .ok _ => pure ()
        | .error f =>
          if name.getLast? = some '/' then complainAs "touch" (failure "setting times of" name .missing)
          else complainAs "touch" (failure "cannot touch" name f)
          code := 1
  return code

/-- Cut or fill files so that they have a size. -/
def truncate : Program := fun _ args => do
  let o : Options := {
    name := "truncate", plain := "co", valued := "sr"
    long := [("size", 's'), ("no-create", 'c'), ("reference", 'r')] }
  let (found, names) ← o.read args
  match valueOf? found 's' with
  | none => o.refuse (Raw.ofString "you must specify either \u2018--size\u2019 or \u2018--reference\u2019")
  | some r =>
    if names.isEmpty then o.refuse "missing file operand".toList
    let (sign, digits) := match r with
      | '+' :: digits => ('+', digits)
      | '-' :: digits => ('-', digits)
      | digits => ('=', digits)
    match size? digits with
    | none => refuse "truncate" ("Invalid number: ".toList ++ shown r)
    | some n =>
      for name in names do
        let old := (← readFile name).toOption.getD []
        let size := if sign = '+' then old.length + n else if sign = '-' then old.length - n else n
        let _ ← writeFile name (old.take size ++ List.replicate (size - old.length) '\x00')
      return 0

/-! ### Removing -/

/-- Remove files and directories. -/
def rm : Program := fun _ args => do
  let o : Options := {
    name := "rm", plain := "rRfdviI"
    long := [("recursive", 'r'), ("force", 'f'), ("dir", 'd'), ("verbose", 'v'), ("interactive", 'i')] }
  let (found, names) ← o.read args
  let recursive := has found 'r' || has found 'R'
  let say (what : String) (name : Raw) : Exec Unit := do
    if has found 'v' then putLine (what.toList ++ quoted name)
  if names.isEmpty then
    if has found 'f' then return 0
    o.refuse "missing operand".toList
  let mut code := 0
  for name in names do
    let last := baseName name
    let isDots := last = ['.'] || last = ['.', '.']
    match ← placeOf name with
    | .error f =>
      if !(has found 'f' && (f = .missing || f = .notDirectory)) then
        complainAs "rm" (failure "cannot remove" name f)
        code := 1
    | .ok (l, .file _) =>
      eraseAt l
      say "removed " name
    | .ok (l, .directory) =>
      let below := (← get).machine.files.below l
      if isDots && recursive then
        complainAs "rm" ("refusing to remove '.' or '..' directory: skipping ".toList ++ quoted name)
        code := 1
      else if recursive then
        for (k, e) in below.mergeSort fun a b => b.1.length ≤ a.1.length do
          let path := inside (withoutSlashes name) (Raw.ofString (String.intercalate "/" (k.drop l.length)))
          match e with
          | .directory => say "removed directory " path
          | .file _ => say "removed " path
        eraseAll l
        say "removed directory " (withoutSlashes name)
      else if has found 'd' && below.isEmpty then
        eraseAt l
        say "removed directory " name
      else
        complainAs "rm" (failure "cannot remove" name (if has found 'd' then .notEmpty else .isDirectory))
        code := 1
  return code

/-! ### Copying and moving -/

/-- The sources and the target among operands. With `together` the target is a directory. -/
structure Transfer where
  sources : List Raw
  target : Raw
  /-- whether the sources go into the target -/
  intoTarget : Bool

/-- What is copied or moved to where. -/
def transfer (o : Options) (found : List (Char × Raw)) (names : List Raw) : Exec Transfer := do
  let isDirectory (name : Raw) : Exec Bool := do
    return (← placeOf name) matches .ok (_, .directory)
  match valueOf? found 't' with
  | some target =>
    if names.isEmpty then o.refuse "missing file operand".toList
    match ← placeOf target with
    | .ok (_, .directory) => return { sources := names, target, intoTarget := true }
    | .ok _ => Program.refuse o.name ("target directory ".toList ++ quoted target ++ ": Not a directory".toList)
    | .error f =>
      Program.refuse o.name ("target directory ".toList ++ quoted target ++ ": ".toList ++ (Exec.problem f).toList)
  | none =>
    match names with
    | [] => o.refuse "missing file operand".toList
    | [a] => o.refuse ("missing destination file operand after ".toList ++ quoted a)
    | names =>
      let target := names.getLast?.getD []
      let sources := names.dropLast
      if has found 'T' then return { sources, target, intoTarget := false }
      if ← isDirectory target then return { sources, target, intoTarget := true }
      if 1 < sources.length then
        let f := match ← placeOf target with
          | .ok _ => FileFault.notDirectory
          | .error f => f
        Program.refuse o.name ("target ".toList ++ quoted target ++ ": ".toList ++ (Exec.problem f).toList)
      return { sources, target, intoTarget := false }

/-- Copy files and directories. -/
def cp : Program := fun _ args => do
  let o : Options := {
    name := "cp", plain := "rRafnvpdiTuPLHlsx", valued := "tS"
    long := [("recursive", 'r'), ("archive", 'a'), ("force", 'f'), ("no-clobber", 'n'), ("verbose", 'v'),
      ("preserve", 'p'), ("target-directory", 't'), ("no-target-directory", 'T'), ("parents", 'p'),
      ("update", 'u')] }
  let (found, names) ← o.read args
  let t ← transfer o found names
  let recursive := "rRa".toList.any (has found)
  let mut code := 0
  for source in t.sources do
    let target := if t.intoTarget then inside t.target (baseName source) else t.target
    match ← placeOf source with
    | .error f =>
      complainAs "cp" (failure "cannot stat" source f)
      code := 1
    | .ok (from_, e) =>
      if e = .directory && !recursive then
        complainAs "cp" ("-r not specified; omitting directory ".toList ++ quoted source)
        code := 1
      else
        let isOpen := target.getLast? = some '/'
        match ← newPlace target with
        | .error f =>
          complainAs "cp" (failure (if e = .directory then "cannot create directory" else
            "cannot create regular file") target f)
          code := 1
        | .ok dest =>
          let old ← entryAt dest
          if dest = from_ then
            complainAs "cp" (quoted source ++ " and ".toList ++ quoted target ++ " are the same file".toList)
            code := 1
          else if e = .directory && from_.isPrefixOf dest then
            complainAs "cp" ("cannot copy a directory, ".toList ++ quoted source ++ ", into itself, ".toList ++
              quoted target)
            if old.isNone then putAt dest .directory
            code := 1
          else match e, old with
            | .directory, some (.file _) =>
              complainAs "cp" ("cannot overwrite non-directory ".toList ++ quoted target ++ " with directory ".toList ++
                quoted source)
              code := 1
            | .file _, some .directory =>
              complainAs "cp" ("cannot overwrite directory ".toList ++ quoted target ++ " with non-directory".toList)
              code := 1
            | .file _, none =>
              if isOpen then
                complainAs "cp" (failure "cannot create regular file" target .notDirectory)
                code := 1
              else
                copyAll from_ dest
                if has found 'v' then putLine (quoted source ++ " -> ".toList ++ quoted target)
            | .file bytes, some (.file _) =>
              if !has found 'n' then
                putAt dest (.file bytes)
                if has found 'v' then putLine (quoted source ++ " -> ".toList ++ quoted target)
            | .directory, _ =>
              copyAll from_ dest
              if has found 'v' then putLine (quoted source ++ " -> ".toList ++ quoted target)
  return code

/-- Move files and directories. -/
def mv : Program := fun _ args => do
  let o : Options := {
    name := "mv", plain := "fnvTiub", valued := "tS"
    long := [("force", 'f'), ("no-clobber", 'n'), ("verbose", 'v'), ("target-directory", 't'),
      ("no-target-directory", 'T'), ("update", 'u')] }
  let (found, names) ← o.read args
  let t ← transfer o found names
  let mut code := 0
  for source in t.sources do
    let target := if t.intoTarget then inside t.target (baseName source) else t.target
    let complaint (r : Raw) : Exec Unit := complainAs "mv" r
    match ← placeOf source with
    | .error f =>
      complaint (failure "cannot stat" source f)
      code := 1
    | .ok (from_, e) =>
      match ← newPlace target with
      | .error f =>
        complaint ("cannot move ".toList ++ quoted source ++ " to ".toList ++ quoted target ++ ": ".toList ++
          (Exec.problem f).toList)
        code := 1
      | .ok dest =>
        let old ← entryAt dest
        let isFull := !((← get).machine.files.below dest).isEmpty
        if dest = from_ then
          complaint (quoted source ++ " and ".toList ++ quoted target ++ " are the same file".toList)
          code := 1
        else if e = .directory && from_.isPrefixOf dest then
          complaint ("cannot move ".toList ++ quoted source ++ " to a subdirectory of itself, ".toList ++ quoted target)
          code := 1
        else match e, old with
          | .directory, some (.file _) =>
            complaint ("cannot overwrite non-directory ".toList ++ quoted target ++ " with directory ".toList ++
              quoted source)
            code := 1
          | .file _, some .directory =>
            complaint ("cannot overwrite directory ".toList ++ quoted target ++ " with non-directory ".toList ++
              quoted source)
            code := 1
          | .directory, some .directory =>
            if isFull then
              complaint ("cannot overwrite ".toList ++ quoted target ++ ": Directory not empty".toList)
              code := 1
            else
              copyAll from_ dest
              eraseAll from_
          | .file _, none =>
            if target.getLast? = some '/' then
              complaint ("cannot move ".toList ++ quoted source ++ " to ".toList ++ quoted target ++
                ": Not a directory".toList)
              code := 1
            else
              copyAll from_ dest
              eraseAll from_
              if has found 'v' then putLine ("renamed ".toList ++ quoted source ++ " -> ".toList ++ quoted target)
          | _, _ =>
            if !(has found 'n' && old.isSome) then
              copyAll from_ dest
              eraseAll from_
              if has found 'v' then putLine ("renamed ".toList ++ quoted source ++ " -> ".toList ++ quoted target)
  return code

/-- Give files another name. Later changes of one name are not seen under the other one. -/
def ln : Program := fun _ args => do
  let o : Options := {
    name := "ln", plain := "sfnvTrLP", valued := "t"
    long := [("symbolic", 's'), ("force", 'f'), ("verbose", 'v'), ("no-dereference", 'n')] }
  let (found, names) ← o.read args
  let names := match names with
    | [a] => [a, ['.']]
    | names => names
  let t ← transfer o found names
  let mut code := 0
  for source in t.sources do
    let target := if t.intoTarget then inside t.target (baseName source) else t.target
    let kind := if has found 's' then "symbolic" else "hard"
    let origin :=
      if has found 's' && source.head? != some '/' then inside (directoryName target) source else source
    match ← placeOf origin, ← newPlace target with
    | .error f, _ =>
      if !has found 's' then
        complainAs "ln" (failure "failed to access" source f)
        code := 1
    | .ok _, .error f =>
      complainAs "ln" (failure ("failed to create " ++ kind ++ " link") target f)
      code := 1
    | .ok (from_, e), .ok dest =>
      if e = .directory && !has found 's' then
        complainAs "ln" (source ++ ": hard link not allowed for directory".toList)
        code := 1
      else if (← entryAt dest).isSome && !has found 'f' then
        complainAs "ln" (failure ("failed to create " ++ kind ++ " link") target .alreadyExists)
        code := 1
      else if from_ != dest then copyAll from_ dest
  return code

/-! ### Permissions -/

/-- Whether a file may be run after its permissions are changed as an argument says, if it says something that can
be understood. -/
def runnableAfter (mode : Raw) (before : Bool) : Option Bool :=
  if mode.all Char.isDigit then
    let digits := mode.map fun c => c.toNat - 48
    if mode.isEmpty || 4 < (mode.dropWhile (· = '0')).length || digits.any (7 < ·) then none
    else some ((digits.reverse.take 3).any fun n => n % 2 = 1)
  else
    (Text.splitAtChar ',' mode).foldlM (fun may clause =>
      let rest := clause.dropWhile "ugoa".toList.contains
      match rest with
      | op :: letters =>
        if !"+-=".toList.contains op || !letters.all "rwxXst".toList.contains then none
        else
          let names := letters.contains 'x' || letters.contains 'X' && may
          some (if op = '+' then may || names else if op = '-' then may && !names else names)
      | [] => none) before

/-- Change the permissions of files. -/
def chmod : Program := fun _ args => do
  let o : Options := {
    name := "chmod", plain := "Rvcf", long := [("recursive", 'R'), ("verbose", 'v'), ("quiet", 'f')] }
  let isMode (r : Raw) : Bool := r.head? = some '-' && (r.tail.all "rwxXst,+-=ugoa".toList.contains) && 1 < r.length
  let options := args.filter fun r => r.head? = some '-' && !isMode r
  let others := args.filter fun r => r.head? != some '-' || isMode r
  let (found, _) ← o.read options
  match others with
  | [] => o.refuse "missing operand".toList
  | [mode] => o.refuse ("missing operand after ".toList ++ shown mode)
  | mode :: names =>
    if (runnableAfter mode false).isNone then o.refuse ("invalid mode: ".toList ++ shown mode)
    let mut code := 0
    for name in names do
      match ← placeOf name with
      | .error f =>
        complainAs "chmod" (failure "cannot access" name f)
        code := 1
      | .ok (l, _) =>
        let files := (← get).machine.files
        let below := if has found 'R' then (files.below l).map (·.1) else []
        for k in l :: below do
          updateMachine fun m =>
            let may := (runnableAfter mode (m.files.isRunnable k)).getD false
            { m with files := m.files.setRunnable k may }
    return code

end Stencil.Shell.Program
