/-!
# Paths

Slash-separated paths as texts.  `Path.components` gives the meaning of a text: empty pieces and
single dots do not count, except that a relative path may begin with a dot.
-/

namespace ScriptHost.Path

/-- A part of a path. -/
inductive Component where
  | root
  | here
  | up
  | name (text : String)
deriving DecidableEq, Repr

/-- The pieces between slashes, one more than there are slashes. -/
def split : List Char → List (List Char)
  | [] => [[]]
  | c :: rest =>
    if c = '/' then [] :: split rest
    else
      match split rest with
      | piece :: pieces => (c :: piece) :: pieces
      | [] => [[c]]

/-- The component that a piece stands for, unless it does not count. -/
def componentOf? : List Char → Option Component
  | [] => none
  | ['.'] => none
  | ['.', '.'] => some .up
  | piece => some (.name (String.ofList piece))

/-- What the first piece stands for; `more` says whether a slash follows it. -/
def leading (more : Bool) : List Char → List Component
  | [] => if more then [.root] else []
  | ['.'] => [.here]
  | piece => (componentOf? piece).toList

/-- The components of a path, in order. -/
def components (path : String) : List Component :=
  match split path.toList with
  | [] => []
  | first :: rest => leading (!rest.isEmpty) first ++ rest.filterMap componentOf?

def isAbsolute (path : String) : Bool :=
  path.toList.head? = some '/'

/-- The path `path` as seen from `base`: itself when it is absolute, else below `base`. -/
def join (base path : String) : String :=
  if isAbsolute path || base.isEmpty then path
  else if base.toList.getLast? = some '/' then base ++ path
  else base ++ "/" ++ path

/-- Whether a piece stands for nothing by itself. -/
def isFiller (piece : List Char) : Bool :=
  piece = [] || piece = ['.']

/-- Drops the empty pieces at the end. -/
def withoutFinalSlashes (pieces : List (List Char)) : List (List Char) :=
  (pieces.reverse.dropWhile List.isEmpty).reverse

/-- Drops the pieces at the end that stand for nothing. -/
def trimFillers (pieces : List (List Char)) : List (List Char) :=
  (pieces.reverse.dropWhile isFiller).reverse

/-- The path without its last component; the root and the empty path have none. -/
def parent? (path : String) : Option String :=
  match split path.toList with
  | [] => none
  | first :: rest =>
    let text (pieces : List (List Char)) : String :=
      String.intercalate "/" (pieces.map String.ofList)
    match trimFillers rest with
    | [] =>
      -- only the first piece counts
      if first.isEmpty then none else some ""
    | pieces =>
      let kept := trimFillers pieces.dropLast
      if kept.isEmpty && first.isEmpty then some "/" else some (text (first :: kept))

end ScriptHost.Path
