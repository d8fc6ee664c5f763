import ScriptHost.File.Directory
import ScriptHost.Log.Filter
import ScriptHost.Log.Record
import ScriptHost.ProjectPaths

/-!
# Loggers

A logger prints the records that its filter lets pass and, if asked to, also adds them to the log
file of its component.  A log file that has grown too large begins anew.
-/

namespace ScriptHost

structure Logger where
  filter : LogFilter
  /-- The log file, if there is one. -/
  file : Option String := none
deriving DecidableEq, Repr

/-- Why a logger cannot be set up. -/
inductive LoggerFault where
  | noHome
  | file (fault : FileFault)
  | filter (fault : LogFilterFault)
deriving DecidableEq, Repr

namespace LoggerFault

def message : LoggerFault → String
  | noHome => "Failed to find home directory"
  | file fault => fault.message
  | filter .malformed => "The log filter is malformed"
  | filter .splitCharacter => "A part of the log filter ends inside a character"

/-- The exit code of a program that cannot log. -/
def exitCode : LoggerFault → UInt32
  | filter _ => 101
  | _ => 1

end LoggerFault

namespace Logger

/-- The name of the project among whose data log files are. -/
def projectName : String := "altscript"

/-- The target of what a logger itself logs. -/
def target : String := "altscript_scripting_host::logging"

/-- The number of bytes up to which a log file goes on. -/
def sizeLimit : Nat := 1024 * 1024

/-- The filter that the environment asks for. -/
def filterOf (env : Environment) : Except LoggerFault LogFilter :=
  (LogFilter.ofSetting (env.value? "RUST_LOG")).mapError .filter

variable {m : Type → Type} [Monad m]

/-- Empties a file that has grown too large. -/
def trimFile (files : FileAccess m) (path : String) : m (Except FileFault Unit) := do
  if !(← files.isPresent path) then return .ok ()
  match ← files.size path with
  | .error fault => return .error fault
  | .ok size => if sizeLimit < size then files.writeBytes path [] else return .ok ()

/-- Makes the log file of a component ready and gives its path. -/
def prepareFile (files : FileAccess m) (directory component : String) :
    m (Except FileFault String) := do
  match ← files.makeDirectories directory with
  | .error fault => return .error fault
  | .ok () =>
    let path := Path.join directory (component ++ ".log")
    match ← trimFile files path with
    | .error fault => return .error fault
    | .ok () => return (← files.appendBytes path []).map fun () => path

/-- Sets up the logger of a component.  Gives what it has to log first, too. -/
def start (files : FileAccess m) (env : Environment) (component : String) (toFile : Bool) :
    m (Except LoggerFault (Logger × List LogRecord)) := do
  if !toFile then return (filterOf env).map fun filter => (⟨filter, none⟩, [])
  match ProjectPaths.of? env projectName with
  | none => return .error .noHome
  | some paths =>
    match ← prepareFile files paths.log component with
    | .error fault => return .error (.file fault)
    | .ok path =>
      return (filterOf env).map fun filter => (⟨filter, some path⟩,
        [{ level := .info, target, message := "Logging to file: " ++ path }])

/-- Logs a record at a time: adds it to the file and gives what is printed.  What cannot be written
to the file is lost. -/
def write (logger : Logger) (files : FileAccess m) (time : String) (record : LogRecord) :
    m String := do
  if logger.filter.admits record.level record.target then
    let line := record.render time
    if let some path := logger.file then
      let _ ← files.appendText path line
    return line
  else return ""

end Logger

end ScriptHost
