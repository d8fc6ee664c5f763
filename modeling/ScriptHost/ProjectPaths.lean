import ScriptHost.Environment
import ScriptHost.Text.Lowercase
import ScriptHost.Text.Words

/-!
# Where a project keeps its files

The configuration and the data of a project have directories of their own, named for the project,
below the base directories of the user.
-/

namespace ScriptHost

structure ProjectPaths where
  /-- The name of the project as a part of paths. -/
  project : String
  config : String
  data : String
deriving DecidableEq, Repr

namespace ProjectPaths

/-- A project's name as a part of paths: its words in lower case, without what is between them. -/
def directoryName (name : String) : String :=
  String.join ((Text.words name).map Text.lowercase)

/-- The paths of a project; without a home directory there are none. -/
def of? (env : Environment) (name : String) : Option ProjectPaths := do
  let project := directoryName name
  let config ← env.baseDirectory? "XDG_CONFIG_HOME" ".config"
  let data ← env.baseDirectory? "XDG_DATA_HOME" ".local/share"
  return { project, config := Path.join config project, data := Path.join data project }

/-- Where log files are. -/
def log (paths : ProjectPaths) : String := Path.join paths.data "logs"

end ProjectPaths

end ScriptHost
