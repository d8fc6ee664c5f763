import ScriptHost.Event.Descriptor

/-!
# The event registry

At most one descriptor for each category, kept by ascending number, whatever the order of their
registration.  The first descriptor of a category stays.
-/

namespace ScriptHost

structure EventRegistry where
  descriptors : List EventDescriptor := []

namespace EventRegistry

/-- The descriptor of a category. -/
def lookup? (registry : EventRegistry) (type : EventType) : Option EventDescriptor :=
  registry.descriptors.find? fun d => d.type = type

/-- Puts a descriptor before the first with a greater number. -/
def insertByNumber (descriptor : EventDescriptor) : List EventDescriptor → List EventDescriptor
  | [] => [descriptor]
  | d :: rest =>
    if descriptor.type.discriminant < d.type.discriminant then descriptor :: d :: rest
    else d :: insertByNumber descriptor rest

/-- Adds a descriptor of a category that has none yet. -/
def register (registry : EventRegistry) (descriptor : EventDescriptor) :
    Except RegistryError EventRegistry :=
  if (registry.lookup? descriptor.type).isSome then .error (.duplicate descriptor.type)
  else .ok ⟨insertByNumber descriptor registry.descriptors⟩

/-- The number of descriptors. -/
def size (registry : EventRegistry) : Nat :=
  registry.descriptors.length

variable {σ : Type}

/-- Exposes descriptors in order, up to the first failure. -/
def exposeEach (registrar : Registrar σ) :
    List EventDescriptor → Exposing σ → Except EngineError Unit × Exposing σ
  | [], e => (.ok (), e)
  | descriptor :: rest, e =>
    match Exposing.steps registrar descriptor.exposureSteps
        (e.log (.exposingEvent descriptor.type)) with
    | (.error error, e) => (.error error, e)
    | (.ok (), e) => exposeEach registrar rest e

/-- Exposes every descriptor by ascending number. -/
def expose (registrar : Registrar σ) (registry : EventRegistry) (e : Exposing σ) :
    Except EngineError Unit × Exposing σ :=
  exposeEach registrar registry.descriptors e

end EventRegistry

end ScriptHost
