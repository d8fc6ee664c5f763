import ScriptHost.Host
import ScriptHost.Keyed
import ScriptHost.Resource.Dispatch
import ScriptHost.Resource.Start
import ScriptHost.Resource.Tick

/-!
# Fleets

The resources of one host, by the slots they are kept in, together with the machine they share.
`Resource.perform` carries out any operation on one resource, and `Fleet.perform` the one on the
resource in a slot.
-/

namespace ScriptHost

/-- What can be asked of a resource. -/
inductive Operation where
  | start
  | tryStart
  | stop
  | event (event : HostEvent)
  | tick
  | dispatch (name : String) (locality : Locality) (sender : Option Entity) (values : List Value)
  /-- A host function is called as from a script of the resource. -/
  | hostCall (function : HostFunction) (userData : UserData) (args : List HostArgument)
deriving Repr

/-- What an operation answers. -/
inductive Answer where
  | done
  | flag (value : Bool)
  | started (result : Except StartError Unit)
  | handled (result : Except MarshalFault Bool)
  | returned (result : HostResult)

variable {σ : Type}

/-- Carries out an operation. -/
def Resource.perform (interpreter : Interpreter σ) (operation : Operation) (r : Resource σ)
    (m : Machine σ) : Answer × Resource σ × Machine σ :=
  match operation with
  | .start =>
    let (result, r, m) := r.start interpreter m
    (.flag result, r, m)
  | .tryStart =>
    let (result, r, m) := r.tryStart interpreter m
    (.started result, r, m)
  | .stop =>
    let (result, r, m) := r.stop interpreter m
    (.flag result, r, m)
  | .event event =>
    let (result, r, m) := r.onEvent interpreter event m
    (.handled result, r, m)
  | .tick => (.done, r.onTick interpreter m)
  | .dispatch name locality sender values =>
    (.done, r.dispatchCustom interpreter name locality sender values m)
  | .hostCall function userData args =>
    let (result, s) := function.runCounted interpreter userData args (r.scene m)
    (.returned result, r.adopt s, s.machine)

/-- The resources of a host, by ascending slot name. -/
structure Fleet (σ : Type) where
  host : Host σ
  machine : Machine σ
  members : List (String × Resource σ) := []

namespace Fleet

/-- The resource in a slot. -/
def member? (fleet : Fleet σ) (slot : String) : Option (Resource σ) :=
  Keyed.find? slot fleet.members

/-- Changes what the machine is. -/
def onMachine (fleet : Fleet σ) (f : Machine σ → Machine σ) : Fleet σ :=
  { fleet with machine := f fleet.machine }

/-- Makes a resource in a slot; the one that was there comes to its end. -/
def create (fleet : Fleet σ) (slot name main : String) (package : Package σ) : Fleet σ :=
  let (r, m) := fleet.host.createResource name main package fleet.machine
  let m :=
    match fleet.member? slot with
    | some old => old.drop fleet.host.interpreter m
    | none => m
  { fleet with machine := m, members := Keyed.insert slot r fleet.members }

/-- Ends the resource in a slot. -/
def drop (fleet : Fleet σ) (slot : String) : Fleet σ :=
  match fleet.member? slot with
  | none => fleet
  | some r =>
    { fleet with
      machine := r.drop fleet.host.interpreter fleet.machine
      members := fleet.members.filter fun (key, _) => key != slot }

/-- Carries out an operation on the resource in a slot, if there is one. -/
def perform (fleet : Fleet σ) (slot : String) (operation : Operation) :
    Option Answer × Fleet σ :=
  match fleet.member? slot with
  | none => (none, fleet)
  | some r =>
    let (answer, r, machine) := r.perform fleet.host.interpreter operation fleet.machine
    (some answer, { fleet with machine, members := Keyed.insert slot r fleet.members })

/-- Ends every resource, by ascending slot name. -/
def dropAll (fleet : Fleet σ) : Fleet σ :=
  { fleet with
    machine := fleet.members.foldl (fun m (_, r) => r.drop fleet.host.interpreter m) fleet.machine
    members := [] }

end Fleet

end ScriptHost
