import ScriptHost.File.Fault

/-!
# Access to files

The file operations that the library needs, over any monad: a tree in memory, or the files of the
system.
-/

namespace ScriptHost

/-- File operations in a monad.  Paths are texts and are seen from a current directory. -/
structure FileAccess (m : Type → Type) where
  /-- Whether the path leads to anything. -/
  isPresent : String → m Bool
  isDirectory : String → m Bool
  /-- The number of bytes in a file. -/
  size : String → m (Except FileFault Nat)
  readBytes : String → m (Except FileFault (List UInt8))
  /-- Makes one directory. -/
  makeDirectory : String → m (Except FileFault Unit)
  /-- Replaces the content of a file, which is made if need be. -/
  writeBytes : String → List UInt8 → m (Except FileFault Unit)
  /-- Adds to the end of a file, which is made if need be. -/
  appendBytes : String → List UInt8 → m (Except FileFault Unit)

namespace FileAccess

variable {m : Type → Type} [Monad m]

/-- The text in a file. -/
def readText (files : FileAccess m) (path : String) : m (Except FileFault String) := do
  match ← files.readBytes path with
  | .error fault => return .error fault
  | .ok bytes =>
    match String.fromUTF8? ⟨bytes.toArray⟩ with
    | some text => return .ok text
    | none => return .error .notUtf8

/-- Replaces the content of a file by a text. -/
def writeText (files : FileAccess m) (path text : String) : m (Except FileFault Unit) :=
  files.writeBytes path text.toUTF8.toList

/-- Adds a text to the end of a file. -/
def appendText (files : FileAccess m) (path text : String) : m (Except FileFault Unit) :=
  files.appendBytes path text.toUTF8.toList

end FileAccess

end ScriptHost
