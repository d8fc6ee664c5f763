import ScriptHost.Rehearsal.Engine
import ScriptHost.Wire.Argument

/-!
# Rehearsals written down

The files and the programs of a rehearsal as JSON.  Bytes are a text, hexadecimal digits, or a text
and how often it is repeated.
-/

namespace ScriptHost.Rehearsal

/-- The bytes that pairs of hexadecimal digits stand for. -/
def bytesOfHexadecimal : List Char → List UInt8
  | high :: low :: rest =>
    let digit (c : Char) : Nat := (("0123456789abcdef".toList.findIdx? (· = c.toLower)).getD 0)
    UInt8.ofNat (digit high * 16 + digit low) :: bytesOfHexadecimal rest
  | _ => []

def bytesOfJson (json : Json) : List UInt8 :=
  match json with
  | .str text => text.toUTF8.toList
  | _ =>
    if json.has "hex" then bytesOfHexadecimal ((json.get "hex").text "").toList
    else
      match (json.get "repeat").items with
      | [text, count] =>
        (List.replicate count.asNat (text.text "").toUTF8.toList).flatten
      | _ => []

/-- A file: its bytes alone, or with its manners. -/
def MemoryFile.ofJson (json : Json) : MemoryFile :=
  if json.has "data" then
    { content := bytesOfJson (json.get "data")
      size := (json.get "size").asNat?
      chunk := (json.get "chunk").asNat?
      extra := (json.get "extra").asNat }
  else { content := bytesOfJson json }

/-- Files by path. -/
def MemoryPackage.ofJson (json : Json) : MemoryPackage :=
  json.pairs.foldl (fun package (path, file) => package.setFile path (.ofJson file)) {}

/-- A movement of the clock in nanoseconds. -/
def clockOffset (json : Json) : Int :=
  let offset := (json.get "ms").asInt * 1000000 + (json.get "ns").asInt
  if (json.get "back").flag then -offset else offset

/-- An exception; `function` is where it was raised unless it says so itself. -/
def exceptionOfJson (function : String) (json : Json) : ScriptException :=
  let place (key : String) : UInt32 := .ofNat ((json.get key).asNat?.getD 1)
  { message := (json.get "message").text ""
    function := (json.get "function").text function
    sectionName := (json.get "section").text "main.as"
    line := place "line"
    column := place "column"
    stack := (json.get "stack").texts }

def ScriptArgument.ofJson (json : Json) : ScriptArgument :=
  if json.has "fn" then .function ((json.get "fn").text "")
  else if json.has "uint" then .scalar (.uint32 (.ofNat (json.get "uint").asNat))
  else if json.has "var" then .variable ((json.get "var").text "")
  else
    match Argument.ofJson json with
    | .scalar value => .scalar value
    | .object value => .object value

/-- An instruction of the function with a declaration. -/
def Instruction.ofJson (declaration : String) (json : Json) : Instruction :=
  match (json.get "do").text "" with
  | "record" => .remark ((json.get "text").text "")
  | "advance" => .advance (clockOffset json)
  | "engine" => .setBusy (json.get "fail_prepare").flag
  | "call" =>
    .call ((json.get "native").text "") ((json.get "args").items.map ScriptArgument.ofJson)
      (.ofJson (json.get "data")) (json.get "save").text?
  | "return" => .return (.ofNat (json.get "byte").asNat)
  | "suspend" => .suspend
  | "abort" => .abort
  | "fail" => .fail ((json.get "message").text "")
  | _ => .throw (exceptionOfJson declaration json)

def ScriptFunction.ofJson (program : String) (json : Json) : ScriptFunction :=
  let declaration := (json.get "decl").text ""
  { handle := ⟨program ++ "." ++ nameOfDeclaration declaration, declaration⟩
    runs := (json.get "runs").items.map fun run => run.items.map (Instruction.ofJson declaration)
    refusal := (json.get "fail_prepare").text?
    refusedArgument := (json.get "fail_arg").asNat? }

/-- Programs by their key. -/
def programsOfJson (json : Json) : List (String × List ScriptFunction) :=
  json.pairs.map fun (key, functions) => (key, functions.items.map (ScriptFunction.ofJson key))

end ScriptHost.Rehearsal
