/-!
# File faults

Why an operation on a file or a directory fails.
-/

namespace ScriptHost

inductive FileFault where
  | notFound
  | alreadyExists
  | notADirectory
  | isADirectory
  | nameTooLong
  | nulInPath
  | notUtf8
  | other (text : String)
deriving DecidableEq, Repr

namespace FileFault

/-- The kind of the fault in one word. -/
def kind : FileFault → String
  | notFound => "NotFound"
  | alreadyExists => "AlreadyExists"
  | notADirectory => "NotADirectory"
  | isADirectory => "IsADirectory"
  | nameTooLong => "InvalidFilename"
  | nulInPath => "InvalidInput"
  | notUtf8 => "InvalidData"
  | other _ => "Other"

/-- The fault as the system words it, with its number there. -/
def message : FileFault → String
  | notFound => "No such file or directory (os error 2)"
  | alreadyExists => "File exists (os error 17)"
  | notADirectory => "Not a directory (os error 20)"
  | isADirectory => "Is a directory (os error 21)"
  | nameTooLong => "File name too long (os error 36)"
  | nulInPath => "file name contained an unexpected NUL byte"
  | notUtf8 => "stream did not contain valid UTF-8"
  | other text => text

end FileFault

end ScriptHost
