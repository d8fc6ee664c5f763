import ScriptHost.Command.Run
import ScriptHost.Log.Logger
import Std.Time.Format

/-!
# The program

The outer layer: the system's files, variables and clock, and what is printed.
-/

namespace ScriptHost.Program

/-- The fault that the system reports. -/
def faultOf : IO.Error → FileFault
  | .noFileOrDirectory .. => .notFound
  | .alreadyExists .. => .alreadyExists
  | .inappropriateType .. => .notADirectory
  | error => .other (toString error)

/-- Does something and catches what the system reports. -/
def attempt {α : Type} (action : IO α) : IO (Except FileFault α) := do
  match ← action.toBaseIO with
  | .ok value => return .ok value
  | .error error => return .error (faultOf error)

/-- The files of the system. -/
def systemFiles : FileAccess IO where
  isPresent path := return (← attempt (IO.FS.realPath path)).isOk
  -- only a directory has an entry for itself
  isDirectory path := return (← attempt (IO.FS.realPath (path ++ "/."))).isOk
  size path := attempt do return (← IO.FS.readBinFile path).size
  readBytes path := attempt do return (← IO.FS.readBinFile path).toList
  makeDirectory path := attempt (IO.FS.createDir path)
  writeBytes path bytes := attempt (IO.FS.writeBinFile path ⟨bytes.toArray⟩)
  appendBytes path bytes := attempt do
    let file ← IO.FS.Handle.mk path .append
    file.write ⟨bytes.toArray⟩

/-- The environment of the process. -/
def systemEnvironment : IO Environment := do
  let names := ["HOME", "XDG_CONFIG_HOME", "XDG_DATA_HOME", "RUST_LOG", "CARGO_MANIFEST_DIR"]
  let values ← names.mapM fun name => return (name, ← IO.getEnv name)
  let directory ← IO.currentDir
  return {
    value? := fun name => (values.find? fun (key, _) => key = name).bind (·.2)
    currentDirectory := directory.toString }

/-- The local time. -/
def currentTime : IO String := do
  return (← Std.Time.PlainDateTime.now).format "uuuu-MM-dd HH:mm:ss"

/-- Prints what a run emits. -/
def emit (logger : Logger) : Emission → IO Unit
  | .line text => IO.println text
  | .log record => do IO.print (← logger.write systemFiles (← currentTime) record)

end ScriptHost.Program

open ScriptHost Program in
/-- Does what the command line asks for. -/
def main (arguments : List String) : IO UInt32 := do
  let env ← systemEnvironment
  match ← Logger.start systemFiles env programName false with
  | .error fault =>
    IO.eprintln ("Error: " ++ fault.message)
    return fault.exitCode
  | .ok (logger, first) =>
    let (emitted, result) ← Request.answer systemFiles env (← currentTime) arguments
    (first.map Emission.log ++ emitted).forM (emit logger)
    if let .error fault := result then
      IO.eprintln ("Error: " ++ fault.message)
    return Command.exitCode result
