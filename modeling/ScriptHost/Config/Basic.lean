/-!
# Configuration
-/

namespace ScriptHost

/-- What can be configured. -/
structure Config where
  /-- Exception reports include the call stack. -/
  debug : Bool := false
  /-- The interface listing is written when a host is installed. -/
  generateDocs : Bool := false
  /-- Where the listing is written. -/
  docsDir : Option String := none
  /-- The namespace of the listing and the first part of its file name. -/
  docsModule : String := "alt"
deriving DecidableEq, Repr

end ScriptHost
