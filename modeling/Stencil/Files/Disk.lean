import Stencil.Fault
import Stencil.Path
import Stencil.Text.Pieces

namespace Stencil

/-!
# Files and directories

A file system is a finite map from locations to directories and files. A location is the list of the
names that lead to it from the root; the root itself is always a directory.

A disk is a file system seen from a current directory. Paths are followed name by name: every name
before the last must be a directory, and two dots lead to the directory above.

* `Entry`, `FileSystem` — the data;
* `FileSystem.get?`, `FileSystem.set`, `FileSystem.erase` — look-up and change of one location;
* `FileSystem.get?_set_self`, `FileSystem.get?_set_of_ne` — what a change does to look-ups;
* `Disk.locate` — the location that a path leads to;
* `Disk.read`, `Disk.readText` — the content of a file;
* `Disk.write`, `Disk.makeDirectories` — the changes;
* `Disk.filesBelow` — the files inside a directory, in order.
-/

/-! ### File systems -/

/-- What stands at a location. -/
inductive Entry where
  | directory
  | file (bytes : ByteArray)
  deriving BEq, Inhabited

instance : DecidableEq Entry
  | .directory, .directory => isTrue rfl
  | .directory, .file _ => isFalse fun h => by cases h
  | .file _, .directory => isFalse fun h => by cases h
  | .file a, .file b =>
    match ByteArray.instDecidableEq a b with
    | isTrue h => isTrue (congrArg Entry.file h)
    | isFalse h => isFalse fun he => h (Entry.file.inj he)

/-- The names that lead to a place from the root. -/
abbrev Location := List String

/-- A finite map from locations to entries. -/
structure FileSystem where
  entries : List (Location × Entry) := []
  /-- the files that may be run as programs -/
  runnable : List Location := []
  deriving BEq, DecidableEq, Inhabited

namespace FileSystem

/-- The entry at a location. -/
def get? (fs : FileSystem) (l : Location) : Option Entry :=
  if l = [] then some .directory else fs.entries.lookup l

/-- Put an entry at a location. -/
def set (fs : FileSystem) (l : Location) (e : Entry) : FileSystem :=
  { fs with entries := (l, e) :: fs.entries.filter fun (k, _) => k != l }

/-- Remove the entry at a location. -/
def erase (fs : FileSystem) (l : Location) : FileSystem :=
  { entries := fs.entries.filter fun (k, _) => k != l
    runnable := fs.runnable.filter (· != l) }

/-- Whether a file may be run as a program. -/
def isRunnable (fs : FileSystem) (l : Location) : Bool :=
  fs.runnable.contains l

/-- Say whether a file may be run as a program. -/
def setRunnable (fs : FileSystem) (l : Location) (may : Bool) : FileSystem :=
  let others := fs.runnable.filter (· != l)
  { fs with runnable := if may then l :: others else others }

/-- Whether there is a directory at a location. -/
def isDirectory (fs : FileSystem) (l : Location) : Bool :=
  fs.get? l == some .directory

/-- The bytes of the file at a location. -/
def bytes? (fs : FileSystem) (l : Location) : Option ByteArray :=
  match fs.get? l with
  | some (.file b) => some b
  | _ => none

/-- The locations inside a directory, at any depth. -/
def below (fs : FileSystem) (l : Location) : List (Location × Entry) :=
  fs.entries.filter fun (k, _) => l.isPrefixOf k && k != l

theorem get?_set_self (fs : FileSystem) {l : Location} (e : Entry) (h : l ≠ []) :
    (fs.set l e).get? l = some e := by
  simp [get?, set, h]

theorem lookup_filter_ne {l other : Location} (h : other ≠ l) (es : List (Location × Entry)) :
    (es.filter fun (k, _) => k != l).lookup other = es.lookup other := by
  have hb : (other == l) = false := beq_eq_false_iff_ne.mpr h
  induction es with
  | nil => rfl
  | cons entry es ih =>
    obtain ⟨k, v⟩ := entry
    by_cases hk : k = l
    · subst hk
      simp [List.lookup_cons, hb, ih]
    · simp [List.lookup_cons, hk, ih]

theorem get?_set_of_ne (fs : FileSystem) {l other : Location} (e : Entry) (h : other ≠ l) :
    (fs.set l e).get? other = fs.get? other := by
  have hb : (other == l) = false := beq_eq_false_iff_ne.mpr h
  simp [get?, set, List.lookup_cons, hb, lookup_filter_ne h]

end FileSystem

/-! ### Disks -/

/-- A file system and the current directory. -/
structure Disk where
  files : FileSystem := {}
  current : Location := []
  deriving Inhabited

namespace Disk

/-- The longest name that a directory takes, in bytes. -/
def maxNameLength : Nat := 255

/-- The longest path that is followed, in bytes. -/
def maxPathLength : Nat := 4095

/-- Follow names from a location. All but the last place must exist. -/
def walk (fs : FileSystem) (from_ : Location) : List String → Except FileFault Location
  | [] => .ok from_
  | name :: rest =>
    match fs.get? from_ with
    | none => .error .missing
    | some (.file _) => .error .notDirectory
    | some .directory =>
      if name = ".." then walk fs from_.dropLast rest
      else if name.utf8ByteSize > maxNameLength then .error .nameTooLong
      else walk fs (from_ ++ [name]) rest

/-- The location that a path leads to; a path with a null character leads nowhere, nor does one that is too
long. -/
def locate (d : Disk) (p : Path) : Except Foreign Location :=
  if p.parts.any fun name => name.toList.contains '\x00' then .error .wrongValue
  else if p.toString.utf8ByteSize > maxPathLength then .error (.file .nameTooLong)
  else (walk d.files (if p.isAbsolute then [] else d.current) p.parts).mapError .file

/-- What stands at the end of a path. -/
def entry (d : Disk) (p : Path) : Except Foreign Entry := do
  match d.files.get? (← d.locate p) with
  | some e => .ok e
  | none => .error (.file .missing)

/-- Whether a path leads to a directory. -/
def isDirectory (d : Disk) (p : Path) : Bool :=
  match d.entry p with
  | .ok .directory => true
  | _ => false

/-- Whether a path leads to a file. -/
def isFile (d : Disk) (p : Path) : Bool :=
  match d.entry p with
  | .ok (.file _) => true
  | _ => false

/-- Whether a path leads to anything. -/
def isEntry (d : Disk) (p : Path) : Bool :=
  (d.entry p).isOk

/-- The absolute path of a path, dots resolved. -/
def resolve (d : Disk) (p : Path) : Path :=
  { (Path.mk "/" d.current / p).normalize with root := "/" }

/-- The current directory as a path. -/
def currentPath (d : Disk) : Path :=
  ⟨"/", d.current⟩

/-- The bytes of a file. -/
def read (d : Disk) (p : Path) : Except Foreign ByteArray := do
  match ← d.entry p with
  | .file b => .ok b
  | .directory => .error (.file .isDirectory)

/-- The text of a file in UTF-8, with unified line ends. -/
def readText (d : Disk) (p : Path) : Except Foreign (List Char) := do
  match String.fromUTF8? (← d.read p) with
  | some s => .ok (Text.unifyLineEnds s.toList)
  | none => .error .notUnicode

/-- The disk after the whole content of a file is replaced; the file is created if its directory
exists. -/
def write (d : Disk) (p : Path) (bytes : ByteArray) : Except Foreign Disk := do
  let l ← d.locate p
  match d.files.get? l with
  | some .directory => .error (.file .isDirectory)
  | some (.file _) => .ok { d with files := d.files.set l (.file bytes) }
  | none =>
    if d.files.isDirectory l.dropLast then .ok { d with files := d.files.set l (.file bytes) }
    else .error (.file .missing)

/-- The disk after a directory is created in an existing one. -/
def makeDirectory (d : Disk) (p : Path) : Except Foreign Disk := do
  let l ← d.locate p
  match d.files.get? l with
  | some _ => .error (.file .alreadyExists)
  | none => .ok { d with files := d.files.set l .directory }

/-- Create a directory unless it is there. -/
def ensureDirectory (d : Disk) (p : Path) : Except Foreign Disk :=
  match d.makeDirectory p with
  | .ok d' => .ok d'
  | .error (.file f) =>
    if f != .missing && d.isDirectory p then .ok d else .error (.file f)
  | .error f => .error f

/-- How many directories can be created at once. -/
def maxNewDirectories : Nat := 970

/-- Create a directory unless it is there; or do something else, where the one that leads to it is missing. -/
def ensureOr (p : Path) (otherwise : ExceptT Foreign (StateM Disk) Unit) : ExceptT Foreign (StateM Disk) Unit := do
  match (← get).ensureDirectory p with
  | .ok d' => set d'
  | .error (.file .missing) => otherwise
  | .error f => throw f

/-- Create a directory and the directories that lead to it; `depth` bounds how many. The disk that is
left after a failure may have some of them. -/
def makeDirectoriesUpTo : Nat → Path → ExceptT Foreign (StateM Disk) Unit
  | 0, p => ensureOr p (throw .tooDeep)
  | depth + 1, p =>
    ensureOr p
      (if p.parts.isEmpty then throw (.file .missing)
      else do
        makeDirectoriesUpTo depth p.parent
        ensureOr p (throw (.file .missing)))

/-- Create a directory and the directories that lead to it. -/
def makeDirectories (p : Path) : ExceptT Foreign (StateM Disk) Unit :=
  makeDirectoriesUpTo maxNewDirectories p

/-- The files inside the directory at a location, with the names that lead to them from there, in the
order of these names. -/
def filesBelow (d : Disk) (l : Location) : List (List String) :=
  let names := (d.files.below l).filterMap fun (k, e) =>
    match e with
    | .file _ => some (k.drop l.length)
    | .directory => none
  names.mergeSort fun a b => compare a b != .gt

end Disk

end Stencil
