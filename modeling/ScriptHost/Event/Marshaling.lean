import ScriptHost.ArrayTypes
import ScriptHost.HostEvent

/-!
# Marshaling

How the payload of an event becomes a list of call arguments.  Script arrays are made on the way, so
a marshaling is a tree that asks for one array after the other and ends with the arguments.
-/

namespace ScriptHost

inductive Marshaling where
  | done (args : List Argument)
  | array (kind : ArrayKind) (items : List Value) (next : ObjectRef → Marshaling)

variable {σ : Type}

/-- Carries out a marshaling with the given array types. -/
def Marshaling.run (interpreter : Interpreter σ) (types : ArrayTypes) :
    Marshaling → Machine σ → List Argument × Machine σ
  | .done args, m => (args, m)
  | .array kind items next, m =>
    let (made, m) := types.create interpreter kind items m
    (next made).run interpreter types m

/-- Checks arguments against declared parameters: their number first, then each in order. -/
def checkArguments (type : EventType) (parameters : List Parameter) (args : List Argument) :
    Except MarshalFault (List Argument) :=
  if args.length ≠ parameters.length then
    .error (.arity type args.length parameters.length)
  else
    match (args.zip parameters).find? fun (argument, parameter) =>
        !argument.fits parameter.type with
    | some (argument, parameter) => .error (.misfit type argument parameter)
    | none => .ok args

end ScriptHost
