import ScriptHost.Command.Basic

/-!
# Reading a command line

Arguments are read from left to right, and the first that is not understood, or that asks for help,
decides.  An option takes its value after an equals sign or from the next argument.
-/

namespace ScriptHost

/-- How an argument looks. -/
inductive ArgumentForm where
  | plain
  /-- Two dashes: only plain arguments follow. -/
  | separator
  /-- A name after two dashes, perhaps with a value after an equals sign. -/
  | long (name : String) (value : Option String)
  /-- A cluster of letters after one dash. -/
  | short (letters : List Char)
deriving DecidableEq, Repr

/-- The form of an argument; a single dash is plain. -/
def ArgumentForm.of (argument : String) : ArgumentForm :=
  match argument.toList with
  | ['-', '-'] => separator
  | '-' :: '-' :: rest =>
    let name := rest.takeWhile (· ≠ '=')
    let value :=
      match rest.drop name.length with
      | _ :: value => some (String.ofList value)
      | [] => none
    long (String.ofList name) value
  | '-' :: c :: rest => short (c :: rest)
  | _ => plain

namespace Request

/-- Whether an argument asks for help; a cluster is read letter by letter, so only its first letter
matters. -/
def asksHelp (argument : String) : Bool :=
  match ArgumentForm.of argument with
  | .long name value => name = "help" && value.isNone
  | .short letters => letters.head? = some 'h'
  | _ => false

/-- Reads the arguments of a command that takes none. -/
def bare (command : Command) (topic : HelpTopic) : List String → Except UsageFault Request
  | [] => .ok (.run command)
  | argument :: rest =>
    if asksHelp argument then .ok (.help topic)
    else if ArgumentForm.of argument = .separator then
      match rest with
      | [] => .ok (.run command)
      | extra :: _ => .error (.unexpectedArgument extra)
    else .error (.unexpectedArgument argument)

/-- Sets an option of the listing command, once. -/
def setOption (module directory : Option String) (name value : String) :
    Except UsageFault (Option String × Option String) :=
  if name = "module" then
    if module.isSome then .error (.repeatedOption name) else .ok (some value, directory)
  else if directory.isSome then .error (.repeatedOption name)
  -- a directory has a name
  else if value.isEmpty then .error (.missingValue name)
  else .ok (module, some value)

/-- Reads the arguments of the listing command. -/
def listing (module directory : Option String) : List String → Except UsageFault Request
  | [] => .ok (.run (.docs module directory))
  | argument :: rest =>
    if asksHelp argument then .ok (.help .docs)
    else
      match ArgumentForm.of argument with
      | .separator =>
        match rest with
        | [] => .ok (.run (.docs module directory))
        | extra :: _ => .error (.unexpectedArgument extra)
      | .long name given =>
        if name = "module" || name = "out" then
          match given with
          | some value =>
            match setOption module directory name value with
            | .ok (module, directory) => listing module directory rest
            | .error fault => .error fault
          | none =>
            match rest with
            | [] => .error (.missingValue name)
            | value :: rest =>
              if ArgumentForm.of value = .plain then
                match setOption module directory name value with
                | .ok (module, directory) => listing module directory rest
                | .error fault => .error fault
              else .error (.missingValue name)
        else .error (.unexpectedArgument argument)
      | _ => .error (.unexpectedArgument argument)

/-- Reads what help is asked for. -/
def helpOn : List String → Except UsageFault Request
  | [] => .ok (.help .program)
  | name :: rest =>
    let topic? : Option HelpTopic :=
      if name = "docs" then some .docs
      else if name = "events" then some .events
      else if name = "help" then some .help
      else none
    match topic?, rest with
    | some topic, [] => .ok (.help topic)
    | some _, extra :: _ => .error (.unknownCommand extra)
    | none, _ => .error (.unknownCommand name)

/-- Reads a command line. -/
def parse : List String → Except UsageFault Request
  | [] => .error .missingCommand
  | argument :: rest =>
    if asksHelp argument then .ok (.help .program)
    else if argument = "docs" then listing none none rest
    else if argument = "events" then bare .events .events rest
    else if argument = "help" then helpOn rest
    else
      match ArgumentForm.of argument with
      | .plain => .error (.unknownCommand argument)
      | _ => .error (.unexpectedArgument argument)

end Request

end ScriptHost
