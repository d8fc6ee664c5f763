import ScriptHost.Command.Arguments
import ScriptHost.Config.Store
import ScriptHost.Host
import ScriptHost.Log.Record

/-!
# Running a command

A run gives what it emits, in order, and how it ends.  Its lines and its log records go to the same
output, so `Emission` keeps them together.
-/

namespace ScriptHost

/-- One thing that a run emits. -/
inductive Emission where
  | line (text : String)
  | log (record : LogRecord)
deriving DecidableEq, Repr

/-- Why a run fails. -/
inductive CommandFault where
  | usage (fault : UsageFault)
  | noProjectRoot
  | notCollected (error : EngineError)
  | notWritten (directory : String) (fault : FileFault)
deriving DecidableEq, Repr

namespace CommandFault

def message : CommandFault → String
  | usage fault => fault.message
  | noProjectRoot => "Could not determine project root"
  | notCollected error => "Failed to collect script declarations: " ++ error.message
  | notWritten directory fault => "Failed to write docs to " ++ directory ++ ": " ++ fault.message

/-- The exit code of a run that fails. -/
def exitCode : CommandFault → UInt32
  | usage _ => 2
  | _ => 1

end CommandFault

namespace Command

/-- The exit code of a run. -/
def exitCode : Except CommandFault Unit → UInt32
  | .ok () => 0
  | .error fault => fault.exitCode

/-- The project's root: two levels above the directory of the program's manifest if that is known,
else the current directory. -/
def projectRoot (env : Environment) : Except CommandFault String :=
  match env.value? "CARGO_MANIFEST_DIR" with
  | some manifest =>
    match (Path.parent? manifest).bind Path.parent? with
    | some root => .ok root
    | none => .error .noProjectRoot
  | none => .ok env.currentDirectory

/-- The directory for the listing: the one asked for, the configured one, or one below the project's
root. -/
def listingDirectory (env : Environment) (config : Config) (asked : Option String) :
    Except CommandFault String :=
  match asked <|> config.docsDir with
  | some directory => .ok directory
  | none => (projectRoot env).map fun root => Path.join root "docs"

/-- The line for an event: its number in a column of four and the type of its callbacks. -/
def eventLine (descriptor : EventDescriptor) : String :=
  let number := toString descriptor.type.discriminant.toNat
  let margin := String.ofList (List.replicate (4 - number.length) ' ')
  margin ++ number ++ "  " ++ descriptor.callbackDeclaration

/-- The record of a listing that was written. -/
def writtenRecord (listing : Listing) (path : String) : LogRecord where
  level := .info
  target := programName
  message := "Wrote " ++ toString listing.callbackTypes.length ++ " funcdefs, "
    ++ toString listing.functions.length ++ " functions and " ++ toString listing.events.length
    ++ " events to " ++ path

def emitNotices (notices : List Notice) : List Emission :=
  notices.map fun notice => .log (.ofNotice notice)

/-- What a journal has for the log. -/
def loggedNotices (journal : Journal) : List Notice :=
  journal.toList.filterMap fun
    | .logged notice => some notice
    | _ => none

variable {m : Type → Type} [Monad m]

/-- Writes the listing at a time. -/
def writeListing (files : FileAccess m) (env : Environment) (time : String)
    (module directory : Option String) : m (List Emission × Except CommandFault Unit) := do
  let (config, notices) ← Config.loadOrDefault files env
  let start := emitNotices notices
  match listingDirectory env config directory with
  | .error fault => return (start, .error fault)
  | .ok directory =>
    let (collected, journal) := collectListing (module.getD config.docsModule)
    let start := start ++ emitNotices (loggedNotices journal)
    match collected with
    | .error error => return (start, .error (.notCollected error))
    | .ok listing =>
      match ← listing.writeTo files directory time with
      | (.error fault, notices) =>
        return (start ++ emitNotices notices, .error (.notWritten directory fault))
      | (.ok path, notices) =>
        return (start ++ emitNotices notices ++ [.log (writtenRecord listing path)], .ok ())

/-- Runs a command at a time. -/
def run (files : FileAccess m) (env : Environment) (time : String) :
    Command → m (List Emission × Except CommandFault Unit)
  | .docs module directory => writeListing files env time module directory
  | .events =>
    pure (Builtin.registry.descriptors.map fun descriptor => .line (eventLine descriptor), .ok ())

end Command

/-- Does at a time what a command line asks for. -/
def Request.answer {m : Type → Type} [Monad m] (files : FileAccess m) (env : Environment)
    (time : String) (arguments : List String) : m (List Emission × Except CommandFault Unit) :=
  match Request.parse arguments with
  | .error fault => pure ([], .error (.usage fault))
  | .ok (.help topic) => pure (topic.lines.map .line, .ok ())
  | .ok (.run command) => command.run files env time

end ScriptHost
