import Stencil.Calendar
import Stencil.Files.Disk
import Stencil.Log
import Stencil.OrderedMap

namespace Stencil

/-!
# Workspaces

All that a run shares with its surroundings: the files, the environment variables, the clock and the
log.

* `Workspace` — the surroundings;
* `Workspace.expandHome` — a path that starts with a tilde;
* `Work` — computations that change the surroundings and may fail.
-/

/-- The surroundings of a run. -/
structure Workspace where
  disk : Disk := {}
  environment : OrderedMap String := []
  clock : DateTime := ⟨⟨1970, 1, 1⟩, 0, 0, 0, 0, some 0⟩
  log : List LogRecord := []
  deriving Inhabited

/-- Computations in a workspace; what they did before a failure stays done. -/
abbrev Work (α : Type) : Type := Action Workspace α

namespace Workspace

/-- The home directory: what the variable for it says, without slashes at the end. -/
def home (w : Workspace) : Path :=
  match Text.trimRightOf (· == '/') ((w.environment.get? "HOME").getD "/root").toList with
  | [] => Path.ofString "/"
  | text => Path.ofString (.ofList text)

/-- A path whose first name is a tilde starts in the home directory; other users have no known home. -/
def expandHome (w : Workspace) (p : Path) : Except Fault Path :=
  match p.isAbsolute, p.parts with
  | false, first :: rest =>
    if first = "~" then
      .ok { w.home with parts := w.home.parts ++ rest }
    else if first.startsWith "~" then .error (.foreign .unknownHome)
    else .ok p
  | _, _ => .ok p

/-- Add a record to the log. -/
def report (w : Workspace) (r : LogRecord) : Workspace :=
  { w with log := w.log ++ [r] }

end Workspace

end Stencil
