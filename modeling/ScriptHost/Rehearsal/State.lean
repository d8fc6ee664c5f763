import ScriptHost.Package.Directory
import ScriptHost.Rehearsal.Memory
import ScriptHost.Rehearsal.Script

/-!
# The state of a rehearsal
-/

namespace ScriptHost.Rehearsal

/-- The function that a context is to run, its arguments in order, and what it returned. -/
structure ContextState where
  function : Option FunctionHandle := none
  args : List Argument := []
  returnByte : UInt8 := 0
deriving Repr

/-- A module under construction. -/
structure Draft where
  name : String := ""
  sectionName : String := ""
  source : String := ""
  functions : List ScriptFunction := []
  missingTypes : List String := []
  entrypoint : Option String := none
deriving Repr

/-- The interpreter of a rehearsal, with the packages it reads from. -/
structure State where
  /-- The programs that a source can name, with their functions. -/
  programs : List (String × List ScriptFunction) := []
  /-- The names that cannot be registered. -/
  rejected : List String := []
  callbackTypes : List String := []
  functions : List (String × HostFunction) := []
  /-- No function can be prepared. -/
  busy : Bool := false
  /-- How often each function has been executed. -/
  executions : List (FunctionHandle × Nat) := []
  /-- The numbers that scripts have kept, by name. -/
  saved : List (String × UInt32) := []
  /-- The array types of which no array can be created. -/
  brokenTypes : List String := []
  contexts : List (Nat × ContextState) := []
  nextContext : Nat := 0
  draft : Draft := {}
  /-- Scripts can move the clock. -/
  clockMoves : Bool := true
  memory : MemoryPackage := {}
  directory : DirectoryPackage := { root := "/", tree := .empty }

namespace State

/-- Sets the value under a key. -/
def assign [DecidableEq κ] (key : κ) (value : α) (table : List (κ × α)) : List (κ × α) :=
  (key, value) :: table.filter fun (k, _) => k ≠ key

def lookup? [DecidableEq κ] (key : κ) (table : List (κ × α)) : Option α :=
  (table.find? fun (k, _) => k = key).map (·.2)

/-- The functions of a program. -/
def program? (state : State) (key : String) : Option (List ScriptFunction) :=
  lookup? key state.programs

/-- The function behind a handle, with the program it belongs to. -/
def function? (state : State) (handle : FunctionHandle) :
    Option (List ScriptFunction × ScriptFunction) :=
  state.programs.findSome? fun (_, functions) =>
    (functions.find? fun f => f.handle = handle).map fun f => (functions, f)

/-- The function with a label. -/
def functionLabeled? (state : State) (label : String) : Option FunctionHandle :=
  state.programs.findSome? fun (_, functions) =>
    (functions.find? fun f => f.handle.label = label).map (·.handle)

def context (state : State) (context : ContextHandle) : ContextState :=
  (lookup? context.id state.contexts).getD {}

def setContext (state : State) (context : ContextHandle) (value : ContextState) : State :=
  { state with contexts := assign context.id value state.contexts }

/-- The host function registered under a name. -/
def hostFunction? (state : State) (name : String) : Option HostFunction :=
  lookup? name state.functions

/-- The number kept under a name, zero if there is none. -/
def variableValue (state : State) (name : String) : UInt32 :=
  (lookup? name state.saved).getD 0

/-- Keeps a numeric result under a name. -/
def save (state : State) (saveAs : Option String) (result : HostResult) : State :=
  match saveAs, result with
  | some name, .ok (.scalar (.uint32 n)) =>
    { state with saved := assign name n state.saved }
  | _, _ => state

/-- The package in memory as part of the state. -/
def memoryPackage : Package State :=
  MemoryPackage.operations.lift (·.memory) fun state memory => { state with memory }

/-- The package in a directory as part of the state. -/
def directoryPackage : Package State :=
  DirectoryPackage.operations.lift (·.directory) fun state directory => { state with directory }

end State

end ScriptHost.Rehearsal
