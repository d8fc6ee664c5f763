import ScriptHost.Package.Basic

/-!
# Packages in memory

A package whose files are written down by hand, for rehearsing how a resource deals with packages
that misbehave: a file may report another size than it has, deliver less than it is asked for, and
claim to have delivered more than it did.
-/

namespace ScriptHost.Rehearsal

/-- A file and its manners. -/
structure MemoryFile where
  content : List UInt8
  /-- The size that is reported, unless it is the true one. -/
  size : Option Nat := none
  /-- The most that one read delivers. -/
  chunk : Option Nat := none
  /-- By how much a read claims more than it delivers. -/
  extra : Nat := 0
deriving Repr

/-- Files by path, and the open ones by their number, with the bytes not read yet. -/
structure MemoryPackage where
  files : List (String × MemoryFile) := []
  openFiles : List (UInt32 × MemoryFile × List UInt8) := []
  nextId : UInt32 := 1
deriving Repr

namespace MemoryPackage

def file? (package : MemoryPackage) (path : String) : Option MemoryFile :=
  (package.files.find? fun (name, _) => name = path).map (·.2)

/-- Adds a file, or replaces the one with the same path. -/
def setFile (package : MemoryPackage) (path : String) (file : MemoryFile) : MemoryPackage :=
  if (package.file? path).isSome then
    { package with
      files := package.files.map fun (name, old) => (name, if name = path then file else old) }
  else { package with files := package.files ++ [(path, file)] }

def openFile? (package : MemoryPackage) (file : FileHandle) : Option (MemoryFile × List UInt8) :=
  (package.openFiles.find? fun (id, _) => id = file.id).map (·.2)

/-- Opens a file under its exact path. -/
def openFile (package : MemoryPackage) (path : String) : Option FileHandle × MemoryPackage :=
  match package.file? path with
  | none => (none, package)
  | some file =>
    let id := package.nextId
    (some ⟨id⟩,
      { package with
        openFiles := (id, file, file.content) :: package.openFiles
        nextId := id + 1 })

def fileSize (package : MemoryPackage) (file : FileHandle) : Nat :=
  match package.openFile? file with
  | some (opened, _) => opened.size.getD opened.content.length
  | none => 0

/-- Delivers the next bytes, in the manner of the file. -/
def readChunk (package : MemoryPackage) (file : FileHandle) (room : Nat) :
    (List UInt8 × Nat) × MemoryPackage :=
  match package.openFile? file with
  | none => (([], 0), package)
  | some (opened, unread) =>
    let count := min room (opened.chunk.getD room)
    let bytes := unread.take count
    let rest := unread.drop count
    ((bytes, bytes.length + opened.extra),
      { package with
        openFiles := package.openFiles.map fun (id, state) =>
          (id, if id = file.id then (opened, rest) else state) })

def closeFile (package : MemoryPackage) (file : FileHandle) : MemoryPackage :=
  { package with openFiles := package.openFiles.filter fun (id, _) => id != file.id }

/-- The operations of a package in memory. -/
def operations : Package MemoryPackage where
  fileExists package path := (package.file? path).isSome
  openFile := openFile
  fileSize := fileSize
  readChunk := readChunk
  closeFile := closeFile

end MemoryPackage

end ScriptHost.Rehearsal
