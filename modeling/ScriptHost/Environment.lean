import ScriptHost.Path.Basic

/-!
# The environment of a run

What a run of the program is told by the system: its variables, the home directory of its account
and its current directory.
-/

namespace ScriptHost

structure Environment where
  /-- The value of a variable, if it is set. -/
  value? : String → Option String
  /-- The home directory on record for the account. -/
  accountHome : Option String := none
  currentDirectory : String := "/"

namespace Environment

/-- The home directory: the variable counts unless it is empty. -/
def home? (env : Environment) : Option String :=
  match env.value? "HOME" with
  | some home => if home.isEmpty then env.accountHome else some home
  | none => env.accountHome

/-- A directory that a variable may name by an absolute path, else `default` below the home
directory. -/
def baseDirectory? (env : Environment) (name default : String) : Option String := do
  let home ← env.home?
  match env.value? name with
  | some path => if Path.isAbsolute path then some path else some (Path.join home default)
  | none => some (Path.join home default)

end Environment

end ScriptHost
