/-!
# Interface listings

The declarations that scripts compile against, rendered as a text for the people who write them.
The sections come in a fixed order and an empty one is left out.
-/

namespace ScriptHost

/-- The declarations exposed so far, in the order of their exposure. -/
structure Listing where
  /-- The namespace of the listing. -/
  namespaceName : String
  callbackTypes : List String := []
  functions : List String := []
  events : List String := []
deriving DecidableEq, Repr

namespace Listing

def new (namespaceName : String) : Listing := { namespaceName }

/-- Adds a callback type, listed as a definition. -/
def addCallbackType (listing : Listing) (declaration : String) : Listing :=
  { listing with callbackTypes := listing.callbackTypes ++ ["funcdef " ++ declaration] }

def addFunction (listing : Listing) (declaration : String) : Listing :=
  { listing with functions := listing.functions ++ [declaration] }

/-- Adds a function that subscribes to an event. -/
def addEvent (listing : Listing) (declaration : String) : Listing :=
  { listing with events := listing.events ++ [declaration] }

/-- What a line inside the namespace begins with. -/
def indent : String := "    "

/-- A section with its heading, or nothing if it has no entries. -/
def renderSection? (title : String) (entries : List String) : Option String :=
  if entries.isEmpty then none
  else
    some (indent ++ "// ********** " ++ title ++ " **********\n"
      ++ String.join (entries.map fun entry => indent ++ entry ++ ";\n"))

/-- The text of the listing without its first line. -/
def renderBody (listing : Listing) : String :=
  let sections :=
    [("Funcdefs", listing.callbackTypes), ("Functions", listing.functions),
      ("Events", listing.events)]
  "\nnamespace " ++ listing.namespaceName ++ "\n\x7b\n"
    ++ String.intercalate "\n" (sections.filterMap fun (title, entries) =>
        renderSection? title entries)
    ++ "\x7d\n"

/-- The text of the listing; the first line says when it was made. -/
def render (listing : Listing) (time : String) : String :=
  "// Generated on " ++ time ++ "\n" ++ listing.renderBody

/-- The name of the file that holds the listing. -/
def fileName (listing : Listing) : String :=
  listing.namespaceName ++ "Docs.as"

end Listing

end ScriptHost
