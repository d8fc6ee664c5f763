import ScriptHost.File.Tree
import ScriptHost.Package.Basic

/-!
# Packages in a directory

A package whose files are those below a directory.  A path that is absolute or has a step up is
refused, so that no file outside is ever opened.
-/

namespace ScriptHost

/-- A file or a directory that is open, with the bytes not read yet. -/
structure OpenNode where
  size : Nat
  unread : List UInt8
deriving DecidableEq, Repr

/-- A directory in a file tree, with the files open in it. -/
structure DirectoryPackage where
  root : String
  tree : FileTree
  openNodes : List (UInt32 × OpenNode) := []
  nextId : UInt32 := 1

namespace DirectoryPackage

/-- The size that a directory itself has. -/
def directorySize : Nat := 4096

/-- The path of a file below the root, unless the path could leave it. -/
def fullPath? (package : DirectoryPackage) (path : String) : Option String :=
  let inside : Path.Component → Bool
    | .name _ | .here => true
    | .root | .up => false
  if (Path.components path).all inside then some (Path.join package.root path) else none

def openNode? (package : DirectoryPackage) (file : FileHandle) : Option OpenNode :=
  (package.openNodes.find? fun (id, _) => id = file.id).map (·.2)

/-- Whether the path leads to a file. -/
def fileExists (package : DirectoryPackage) (path : String) : Bool :=
  match package.fullPath? path with
  | some full => package.tree.isFile full
  | none => false

/-- Opens a file, or a directory, from which nothing can be read. -/
def openFile (package : DirectoryPackage) (path : String) :
    Option FileHandle × DirectoryPackage :=
  match package.fullPath? path with
  | none => (none, package)
  | some full =>
    match package.tree.find full with
    | .error _ => (none, package)
    | .ok node =>
      let opened : OpenNode :=
        match node with
        | .file content => ⟨content.length, content⟩
        | .directory => ⟨directorySize, []⟩
      let id := package.nextId
      (some ⟨id⟩,
        { package with openNodes := (id, opened) :: package.openNodes, nextId := id + 1 })

def fileSize (package : DirectoryPackage) (file : FileHandle) : Nat :=
  match package.openNode? file with
  | some opened => opened.size
  | none => 0

/-- Delivers the next bytes, as many as there is room for. -/
def readChunk (package : DirectoryPackage) (file : FileHandle) (room : Nat) :
    (List UInt8 × Nat) × DirectoryPackage :=
  match package.openNode? file with
  | none => (([], 0), package)
  | some opened =>
    let bytes := opened.unread.take room
    let rest : OpenNode := { opened with unread := opened.unread.drop room }
    ((bytes, bytes.length),
      { package with
        openNodes := package.openNodes.map fun (id, node) =>
          (id, if id = file.id then rest else node) })

def closeFile (package : DirectoryPackage) (file : FileHandle) : DirectoryPackage :=
  { package with openNodes := package.openNodes.filter fun (id, _) => id != file.id }

/-- The operations of a directory package. -/
def operations : Package DirectoryPackage where
  fileExists := fileExists
  openFile := openFile
  fileSize := fileSize
  readChunk := readChunk
  closeFile := closeFile

end DirectoryPackage

end ScriptHost
