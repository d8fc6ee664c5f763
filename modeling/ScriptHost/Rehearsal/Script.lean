import ScriptHost.Interpreter

/-!
# Rehearsed scripts

A rehearsal runs scripts that are written down as instructions.  Each function has a list of runs:
its first execution follows the first, its second the second, and so on, the last being repeated.
-/

namespace ScriptHost.Rehearsal

/-- The name in a declaration: the last word before the first parenthesis. -/
def nameOfDeclaration (declaration : String) : String :=
  let head := declaration.toList.takeWhile (· != '(')
  String.ofList (head.reverse.takeWhile (· != ' ')).reverse

/-- An argument of a host call as a script writes it. -/
inductive ScriptArgument where
  /-- A function of the same program, by name. -/
  | function (name : String)
  | scalar (value : Scalar)
  | object (object : ObjectRef)
  /-- The number kept under a name, zero if there is none. -/
  | variable (name : String)
deriving Repr

inductive Instruction where
  | remark (text : String)
  /-- The clock moves. -/
  | advance (offset : Int)
  /-- From now on the interpreter refuses, or no longer refuses, to prepare functions. -/
  | setBusy (busy : Bool)
  /-- Calls a host function by name; a numeric result is kept under `saveAs`. -/
  | call (name : String) (args : List ScriptArgument) (userData : UserData)
      (saveAs : Option String)
  | return (byte : UInt8)
  | suspend
  | abort
  | fail (reason : String)
  | throw (info : ScriptException)
deriving Repr

/-- A function with what it does. -/
structure ScriptFunction where
  handle : FunctionHandle
  runs : List (List Instruction)
  /-- Preparing the function fails, for this reason. -/
  refusal : Option String := none
  /-- Binding the argument at this place fails. -/
  refusedArgument : Option Nat := none
deriving Repr

namespace ScriptFunction

def name (function : ScriptFunction) : String :=
  nameOfDeclaration function.handle.declaration

/-- What the function does when it has been executed `count` times before. -/
def runAfter (function : ScriptFunction) (count : Nat) : List Instruction :=
  (function.runs[min count (function.runs.length - 1)]?).getD []

end ScriptFunction

/-- The first function with a name. -/
def findByName? (functions : List ScriptFunction) (name : String) : Option ScriptFunction :=
  functions.find? fun f => f.name = name

end ScriptHost.Rehearsal
