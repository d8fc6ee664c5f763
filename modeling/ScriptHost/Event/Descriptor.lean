import ScriptHost.Event.Marshaling
import ScriptHost.Exposure

/-!
# Event descriptors

A descriptor says all there is to know about a category of host events: the callback that scripts
implement, how a payload becomes its arguments, and how a subscription is exposed.
-/

namespace ScriptHost

/-- How a descriptor is exposed: by a callback type and a function that subscribes to the event, or
by steps of its own. -/
inductive ExposureRule where
  | subscription
  | custom (steps : List ExposureStep)
deriving DecidableEq, Repr

structure EventDescriptor where
  type : EventType
  parameters : List Parameter
  returns : Option ReturnType := none
  marshaling : HostEvent → Marshaling
  exposure : ExposureRule := .subscription

namespace EventDescriptor

/-- The name of the callback type. -/
def callbackName (descriptor : EventDescriptor) : String :=
  descriptor.type.name ++ "Callback"

/-- The declaration of the callback type. -/
def callbackDeclaration (descriptor : EventDescriptor) : String :=
  let returned :=
    match descriptor.returns with
    | some type => type.declaration
    | none => "void"
  returned ++ " " ++ descriptor.callbackName ++ "("
    ++ Parameter.listDeclaration descriptor.parameters ++ ")"

/-- The declaration of the function that subscribes to the event. -/
def subscribeDeclaration (descriptor : EventDescriptor) : String :=
  "void on" ++ descriptor.type.name ++ "(" ++ descriptor.callbackName ++ "@ callback)"

/-- The steps that expose the descriptor. -/
def exposureSteps (descriptor : EventDescriptor) : List ExposureStep :=
  match descriptor.exposure with
  | .subscription =>
    [.callbackType descriptor.callbackDeclaration,
      .function descriptor.subscribeDeclaration (.onEvent descriptor.type) .events]
  | .custom steps => steps

/-- The diagnostic text of a descriptor. -/
def diagnostic (descriptor : EventDescriptor) : String :=
  let parameter (p : Parameter) : String :=
    "ParamDecl \x7b ty: " ++ p.type.diagnostic ++ ", name: " ++ Text.quoted p.name ++ " \x7d"
  let returned :=
    match descriptor.returns with
    | some .bool => "Some(Bool)"
    | none => "None"
  "EventDescriptor \x7b event_type: " ++ descriptor.type.name ++ ", params: ["
    ++ String.intercalate ", " (descriptor.parameters.map parameter) ++ "], return_type: "
    ++ returned ++ ", .. \x7d"

variable {σ : Type}

/-- The call arguments for an event, checked against the parameters. -/
def marshal (interpreter : Interpreter σ) (descriptor : EventDescriptor) (event : HostEvent)
    (types : ArrayTypes) (m : Machine σ) : Except MarshalFault (List Argument) × Machine σ :=
  let (args, m) := (descriptor.marshaling event).run interpreter types m
  (checkArguments descriptor.type descriptor.parameters args, m)

end EventDescriptor

end ScriptHost
