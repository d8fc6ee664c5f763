/-!
# Commands

What the command line can ask for, and how it is written: a command, or help on a topic.
-/

namespace ScriptHost

inductive Command where
  /-- Writes the interface listing; what is not given comes from the configuration. -/
  | docs (module directory : Option String)
  /-- Lists the events that scripts can subscribe to. -/
  | events
deriving DecidableEq, Repr

/-- What help can be about. -/
inductive HelpTopic where
  | program
  | docs
  | events
  | help
deriving DecidableEq, Repr

/-- What a command line asks for. -/
inductive Request where
  | run (command : Command)
  | help (topic : HelpTopic)
deriving DecidableEq, Repr

/-- Why a command line is refused. -/
inductive UsageFault where
  | missingCommand
  | unknownCommand (name : String)
  | unexpectedArgument (argument : String)
  | missingValue (option : String)
  | repeatedOption (option : String)
deriving DecidableEq, Repr

def UsageFault.message : UsageFault → String
  | missingCommand => "a command is required"
  | unknownCommand name => "unrecognized command '" ++ name ++ "'"
  | unexpectedArgument argument => "unexpected argument '" ++ argument ++ "' found"
  | missingValue option => "a value is required for '--" ++ option ++ "' but none was supplied"
  | repeatedOption option => "the argument '--" ++ option ++ "' cannot be used multiple times"

/-- The name of the program. -/
def programName : String := "xtask"

/-- The lines of a help text. -/
def HelpTopic.lines : HelpTopic → List String
  | program => [
      "Usage: " ++ programName ++ " <COMMAND>",
      "",
      "Commands:",
      "  docs    Write the script interface listing (<module>Docs.as)",
      "  events  List the host events scripts can subscribe to",
      "  help    Print this message or the help of the given subcommand(s)",
      "",
      "Options:",
      "  -h, --help  Print help"]
  | docs => [
      "Write the script interface listing (<module>Docs.as)",
      "",
      "Usage: " ++ programName ++ " docs [OPTIONS]",
      "",
      "Options:",
      "      --module <MODULE>  Namespace of the listing (default: from config, else \"alt\")",
      "      --out <OUT>        Output directory (default: from config, else <project root>/docs)",
      "  -h, --help             Print help"]
  | events => [
      "List the host events scripts can subscribe to",
      "",
      "Usage: " ++ programName ++ " events",
      "",
      "Options:",
      "  -h, --help  Print help"]
  | help => [
      "Print this message or the help of the given subcommand(s)",
      "",
      "Usage: " ++ programName ++ " help [COMMAND]...",
      "",
      "Arguments:",
      "  [COMMAND]...  Print help for the subcommand(s)"]

end ScriptHost
