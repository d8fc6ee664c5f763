import ScriptHost.Config.Format
import ScriptHost.File.Directory
import ScriptHost.Notice
import ScriptHost.ProjectPaths

/-!
# Configuration files

Loading and saving configurations.  Each operation gives its result together with what it logs.
-/

namespace ScriptHost

/-- Why a configuration is not loaded. -/
inductive ConfigFault where
  | notFound (path : String)
  | unreadable (fault : FileFault)
  | malformed
deriving DecidableEq, Repr

def ConfigFault.message : ConfigFault → String
  | notFound path => "config file not found: " ++ path
  | unreadable fault => "IO error reading config: " ++ fault.message
  | malformed => "failed to parse config"

namespace Config

/-- The name of the project whose configuration this is. -/
def projectName : String := "altscript"

/-- Where the configuration of the user is. -/
def path? (env : Environment) : Option String :=
  (ProjectPaths.of? env projectName).map fun paths => Path.join paths.config "config.toml"

/-- Where the listing is written: the directory set, or else one with the project's data. -/
def docsDirectory (config : Config) (env : Environment) : String :=
  match config.docsDir with
  | some path => path
  | none =>
    match ProjectPaths.of? env projectName with
    | some paths => Path.join paths.data "docs"
    | none => ".docs"

variable {m : Type → Type} [Monad m]

/-- Loads the configuration in a file. -/
def loadFrom (files : FileAccess m) (path : String) :
    m (Except ConfigFault Config × List Notice) := do
  if !(← files.isPresent path) then return (.error (.notFound path), [])
  match ← files.readText path with
  | .error fault => return (.error (.unreadable fault), [])
  | .ok text =>
    match ofToml? text with
    | none => return (.error .malformed, [])
    | some config => return (.ok config, [.configLoaded path])

/-- Loads the configuration of the user. -/
def load (files : FileAccess m) (env : Environment) :
    m (Except ConfigFault Config × List Notice) :=
  match path? env with
  | some path => loadFrom files path
  | none => pure (.error (.notFound ""), [])

/-- Loads the configuration of the user, or else the default one.  That there is none is no reason
to complain. -/
def loadOrDefault (files : FileAccess m) (env : Environment) : m (Config × List Notice) := do
  match ← load files env with
  | (.ok config, notices) => return (config, notices)
  | (.error (.notFound _), notices) => return ({}, notices)
  | (.error fault, notices) => return ({}, notices ++ [.configDefaulted fault.message])

/-- Saves a configuration to a file; the directories above it are made if need be. -/
def saveTo (config : Config) (files : FileAccess m) (path : String) :
    m (Except FileFault Unit × List Notice) := do
  let directory ←
    match Path.parent? path with
    | some parent => files.makeDirectories parent
    | none => pure (.ok ())
  match directory with
  | .error fault => return (.error fault, [])
  | .ok () =>
    match ← files.writeText path config.toToml with
    | .error fault => return (.error fault, [])
    | .ok () => return (.ok (), [.configSaved path])

end Config

end ScriptHost
