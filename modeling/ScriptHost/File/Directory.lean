import ScriptHost.File.Access
import ScriptHost.Path.Basic

/-!
# Making directories
-/

namespace ScriptHost.FileAccess

variable {m : Type → Type} [Monad m]

/-- Makes one directory, unless there is one. -/
def ensureDirectory (files : FileAccess m) (path : String) : m (Except FileFault Unit) := do
  match ← files.makeDirectory path with
  | .ok () => return .ok ()
  | .error fault => if ← files.isDirectory path then return .ok () else return .error fault

/-- Makes a directory and those above it that are missing.  Each step up shortens the path, which
bounds their number. -/
def makeDirectoriesUpTo (files : FileAccess m) : Nat → String → m (Except FileFault Unit)
  | 0, _ => return .ok ()
  | steps + 1, path => do
    if path.isEmpty then return .ok ()
    else
      match ← files.makeDirectory path with
      | .ok () => return .ok ()
      | .error .notFound =>
        match Path.parent? path with
        | none => return .error (.other "failed to create whole tree")
        | some parent =>
          match ← makeDirectoriesUpTo files steps parent with
          | .error fault => return .error fault
          | .ok () => files.ensureDirectory path
      | .error fault => if ← files.isDirectory path then return .ok () else return .error fault

/-- Makes a directory and those above it that are missing. -/
def makeDirectories (files : FileAccess m) (path : String) : m (Except FileFault Unit) :=
  files.makeDirectoriesUpTo (path.length + 1) path

end ScriptHost.FileAccess
