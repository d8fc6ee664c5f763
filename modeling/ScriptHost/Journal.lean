import ScriptHost.HostFunction.Basic
import ScriptHost.Notice

/-!
# The journal

Everything that the host side and its collaborators do is recorded in one journal, in the order in
which it happens: log notices, references taken and given back, script calls, calls of host
functions, package and module operations, and what the interpreter reports of itself.  The
references that are held on a handle are those taken less those given back,
`Journal.functionBalance` and `Journal.typeBalance`.
-/

namespace ScriptHost

/-- Why the host calls a script function. -/
inductive CallCause where
  | entrypoint
  | stop
  | event (type : EventType)
  | custom (locality : Locality) (name : String)
  | timer (id : UInt32)
deriving DecidableEq, Repr

/-- What an interpreter tells of its own work. -/
inductive Report where
  | sectionParsed (name : String)
  | functionRan (function : FunctionHandle) (args : List Argument)
  | remark (text : String)
  /-- A script called a host function; without a result, none of that name is registered. -/
  | hostCalled (name : String) (result : Option HostResult)
deriving Repr

/-- One thing that happened. -/
inductive Entry where
  | logged (notice : Notice)
  | retained (function : FunctionHandle)
  | released (function : FunctionHandle)
  | typeRetained (type : ArrayTypeHandle)
  | typeReleased (type : ArrayTypeHandle)
  | fileOpened (path : String) (found : Bool)
  | fileSized (size : Nat)
  | fileRead (room claimed : Nat)
  | fileClosed (file : FileHandle)
  | moduleBuilt (name : String)
  | moduleDiscarded (name : String)
  | contextCreated
  | contextReleased
  /-- The host is about to prepare and run a script function. -/
  | called (cause : CallCause) (function : FunctionHandle) (args : List Argument)
  /-- A call of a host function has been answered. -/
  | served (function : HostFunction) (userData : UserData) (args : List HostArgument)
      (result : HostResult)
  | reported (report : Report)
deriving Repr

/-- What happened so far. -/
structure Journal where
  entries : Array Entry := #[]

namespace Journal

def empty : Journal := ⟨#[]⟩

/-- Adds what happened last. -/
def push (journal : Journal) (entry : Entry) : Journal :=
  ⟨journal.entries.push entry⟩

/-- Adds what happened last, in order. -/
def append (journal : Journal) (entries : List Entry) : Journal :=
  ⟨journal.entries ++ entries⟩

/-- The entries, oldest first. -/
def toList (journal : Journal) : List Entry :=
  journal.entries.toList

@[simp] theorem toList_empty : empty.toList = [] := rfl

@[simp] theorem toList_push (journal : Journal) (entry : Entry) :
    (journal.push entry).toList = journal.toList ++ [entry] := by
  simp [push, toList]

@[simp] theorem toList_append (journal : Journal) (entries : List Entry) :
    (journal.append entries).toList = journal.toList ++ entries := by
  simp [append, toList]

/-- By how much an entry changes the number of references held on a function. -/
def functionWeight (function : FunctionHandle) : Entry → Int
  | .retained f => if f = function then 1 else 0
  | .released f => if f = function then -1 else 0
  | _ => 0

/-- By how much an entry changes the number of references held on an array type. -/
def typeWeight (type : ArrayTypeHandle) : Entry → Int
  | .typeRetained t => if t = type then 1 else 0
  | .typeReleased t => if t = type then -1 else 0
  | _ => 0

/-- The sum of the weights of entries. -/
def weigh (weight : Entry → Int) (entries : List Entry) : Int :=
  entries.foldr (fun entry sum => weight entry + sum) 0

/-- The references held on a function. -/
def functionBalance (journal : Journal) (function : FunctionHandle) : Int :=
  weigh (functionWeight function) journal.toList

/-- The references held on an array type. -/
def typeBalance (journal : Journal) (type : ArrayTypeHandle) : Int :=
  weigh (typeWeight type) journal.toList

end Journal

end ScriptHost
