import ScriptHost.File.Access
import ScriptHost.Path.Basic

/-!
# File trees

Directories and files in memory, with the rules that a system has for paths: a name is followed only
from a directory, has at most 255 bytes, and a path fewer than 4096.
-/

namespace ScriptHost

/-- A directory, or a file with its content. -/
inductive FileNode where
  | directory
  | file (content : List UInt8)
deriving DecidableEq, Repr

/-- Everything below the root, by the names that lead to it. -/
structure FileTree where
  nodes : List (List String × FileNode)
  /-- The names that lead to the current directory. -/
  current : List String
deriving Repr

namespace FileTree

/-- The tree with nothing but the root, which is also the current directory. -/
def empty : FileTree := ⟨[], []⟩

/-- What the names lead to from the root. -/
def node? (tree : FileTree) (names : List String) : Option FileNode :=
  if names.isEmpty then some .directory
  else (tree.nodes.find? fun (key, _) => key = names).map (·.2)

/-- Puts a node where the names lead to, in place of what is there. -/
def setNode (tree : FileTree) (names : List String) (node : FileNode) : FileTree :=
  if (tree.node? names).isSome then
    { tree with nodes := tree.nodes.map fun (key, old) => (key, if key = names then node else old) }
  else { tree with nodes := tree.nodes ++ [(names, node)] }

/-- Where a path leads: to a node, or to a free name in a directory, perhaps with slashes after
it. -/
inductive Place where
  | taken (names : List String) (node : FileNode)
  | free (names : List String) (trailingSlash : Bool)
deriving Repr

/-- Follows pieces of a path from a node. -/
def walk (tree : FileTree) (names : List String) (node : FileNode) :
    List (List Char) → Except FileFault Place
  | [] => .ok (.taken names node)
  | piece :: rest =>
    match node with
    | .file _ => .error .notADirectory
    | .directory =>
      if Path.isFiller piece then walk tree names .directory rest
      else if piece = ['.', '.'] then walk tree names.dropLast .directory rest
      else
        let name := String.ofList piece
        if 255 < name.utf8ByteSize then .error .nameTooLong
        else
          let below := names ++ [name]
          match tree.node? below with
          | some next => walk tree below next rest
          | none =>
            if rest.all List.isEmpty then .ok (.free below (!rest.isEmpty)) else .error .notFound

/-- Where some of the pieces of a path lead. -/
def follow (tree : FileTree) (path : String) (pieces : List (List Char)) :
    Except FileFault Place :=
  if path.toList.contains '\x00' then .error .nulInPath
  else if 4096 ≤ path.utf8ByteSize then .error .nameTooLong
  else if path.isEmpty then .error .notFound
  else walk tree (if Path.isAbsolute path then [] else tree.current) .directory pieces

/-- Where a path leads. -/
def locate (tree : FileTree) (path : String) : Except FileFault Place :=
  tree.follow path (Path.split path.toList)

/-- Where a path leads apart from the slashes at its end. -/
def locateName (tree : FileTree) (path : String) : Except FileFault Place :=
  tree.follow path (Path.withoutFinalSlashes (Path.split path.toList))

/-- The node that a path leads to. -/
def find (tree : FileTree) (path : String) : Except FileFault FileNode :=
  match tree.locate path with
  | .ok (.taken _ node) => .ok node
  | .ok (.free ..) => .error .notFound
  | .error fault => .error fault

def isFile (tree : FileTree) (path : String) : Bool :=
  match tree.find path with
  | .ok (.file _) => true
  | _ => false

def isDirectory (tree : FileTree) (path : String) : Bool :=
  match tree.find path with
  | .ok .directory => true
  | _ => false

def readBytes (tree : FileTree) (path : String) : Except FileFault (List UInt8) :=
  match tree.find path with
  | .ok (.file content) => .ok content
  | .ok .directory => .error .isADirectory
  | .error fault => .error fault

/-- Makes a directory.  Slashes at the end of the path do not ask for one that is already there. -/
def makeDirectory (tree : FileTree) (path : String) : Except FileFault Unit × FileTree :=
  match tree.locateName path with
  | .ok (.taken ..) => (.error .alreadyExists, tree)
  | .ok (.free names _) => (.ok (), tree.setNode names .directory)
  | .error fault => (.error fault, tree)

/-- Sets the content of a file to what `change` makes of the content so far. -/
def changeFile (tree : FileTree) (path : String) (change : List UInt8 → List UInt8) :
    Except FileFault Unit × FileTree :=
  match tree.locate path with
  | .ok (.taken _ .directory) => (.error .isADirectory, tree)
  | .ok (.taken names (.file content)) => (.ok (), tree.setNode names (.file (change content)))
  | .ok (.free _ true) => (.error .isADirectory, tree)
  | .ok (.free names false) => (.ok (), tree.setNode names (.file (change [])))
  | .error fault => (.error fault, tree)

def writeBytes (tree : FileTree) (path : String) (content : List UInt8) :
    Except FileFault Unit × FileTree :=
  tree.changeFile path fun _ => content

def appendBytes (tree : FileTree) (path : String) (more : List UInt8) :
    Except FileFault Unit × FileTree :=
  tree.changeFile path (· ++ more)

/-- A tree in memory as file access. -/
def access : FileAccess (StateM FileTree) where
  isPresent path := return (← get).find path |>.isOk
  isDirectory path := return (← get).isDirectory path
  size path := return ((← get).readBytes path).map List.length
  readBytes path := return (← get).readBytes path
  makeDirectory path := fun tree => tree.makeDirectory path
  writeBytes path content := fun tree => tree.writeBytes path content
  appendBytes path more := fun tree => tree.appendBytes path more

end FileTree

end ScriptHost
