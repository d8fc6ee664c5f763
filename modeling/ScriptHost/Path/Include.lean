import ScriptHost.Path.Basic

/-!
# Include paths

An include that begins with a slash is looked up from the root of the package and any other from the
directory of the section that includes it.  The result is canonical: names joined by single slashes.
A step up from the root stays there.
-/

namespace ScriptHost.Path

/-- The place reached from a place by one component; a place is the stack of names, innermost
first. -/
def enter (place : List String) : Component → List String
  | .root => place
  | .here => place
  | .up => place.tail
  | .name text => text :: place

/-- The place reached by following components. -/
def follow (place : List String) (components : List Component) : List String :=
  components.foldl enter place

/-- The canonical path of a place. -/
def render (place : List String) : String :=
  String.intercalate "/" place.reverse

/-- The place of the directory that holds a section. -/
def directoryOf (sectionName : String) : List String :=
  follow [] (components sectionName).dropLast

/-- The path of the file that an include directive in a section means. -/
def includePath (path sectionName : String) : String :=
  match path.toList with
  | '/' :: rest => render (follow [] (components (String.ofList rest)))
  | _ => render (follow (directoryOf sectionName) (components path))

end ScriptHost.Path
