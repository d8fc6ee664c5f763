import ScriptHost.File.Directory
import ScriptHost.Listing
import ScriptHost.Notice

/-!
# Writing a listing to a file
-/

namespace ScriptHost.Listing

variable {m : Type → Type} [Monad m]

/-- Writes the listing into a directory, which is made if need be.  Gives the path of the file and
what is logged. -/
def writeTo (files : FileAccess m) (listing : Listing) (directory time : String) :
    m (Except FileFault String × List Notice) := do
  match ← files.makeDirectories directory with
  | .error fault => return (.error fault, [])
  | .ok () =>
    let path := Path.join directory listing.fileName
    match ← files.writeText path (listing.render time) with
    | .error fault => return (.error fault, [])
    | .ok () => return (.ok path, [.docsWritten path])

end ScriptHost.Listing
