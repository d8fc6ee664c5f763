import ScriptHost.Host

/-!
# Watched registrars

A registrar can be watched: every registration that is tried is kept, with whether it was accepted.
Watching changes nothing (`exposeAll_unwatched`), and apart from the log an exposure carries out one
list of steps (`exposeAll_quiet`).
-/

namespace ScriptHost

/-! ## Watched registrars -/

/-- What a registrar is asked to register. -/
inductive Registration where
  | callbackType (declaration : String)
  | function (declaration : String) (function : HostFunction)
deriving DecidableEq, Repr

/-- A registration that was tried. -/
structure Attempt where
  registration : Registration
  accepted : Bool
deriving DecidableEq, Repr

/-- The callback type that was registered, if one was. -/
def Attempt.callbackType? : Attempt → Option String
  | ⟨.callbackType declaration, true⟩ => some declaration
  | _ => none

/-- The function that was registered, if one was. -/
def Attempt.function? : Attempt → Option String
  | ⟨.function declaration _, true⟩ => some declaration
  | _ => none

namespace Registrar

variable {σ : Type}

/-- The registrar with a record of all that it is asked for. -/
def watched (registrar : Registrar σ) : Registrar (σ × List Attempt) where
  registerCallbackType state declaration :=
    let (result, engine) := registrar.registerCallbackType state.1 declaration
    (result, engine, state.2 ++ [⟨.callbackType declaration, result.isOk⟩])
  registerFunction state declaration function :=
    let (result, engine) := registrar.registerFunction state.1 declaration function
    (result, engine, state.2 ++ [⟨.function declaration function, result.isOk⟩])

/-- The registrar rejects nothing. -/
structure AcceptsAll (registrar : Registrar σ) : Prop where
  callbackType : ∀ engine declaration,
    (registrar.registerCallbackType engine declaration).1 = .ok ()
  function : ∀ engine declaration function,
    (registrar.registerFunction engine declaration function).1 = .ok ()

end Registrar

theorem recorder_acceptsAll : recorder.AcceptsAll :=
  ⟨fun _ _ => rfl, fun _ _ _ => rfl⟩

namespace Exposing

variable {σ : Type}

/-- The start of an exposure under watch. -/
def start (m : Machine σ) (name : String) : Exposing (σ × List Attempt) :=
  ⟨⟨(m.engine, []), m.now, m.journal⟩, .new name⟩

/-- The registrations tried so far, in order. -/
def attempts (e : Exposing (σ × List Attempt)) : List Attempt :=
  e.machine.engine.2

/-- The exposure without the record of the registrations. -/
def unwatched (e : Exposing (σ × List Attempt)) : Exposing σ :=
  ⟨⟨e.machine.engine.1, e.machine.now, e.machine.journal⟩, e.listing⟩

theorem step_unwatched (registrar : Registrar σ) (e : Exposing (σ × List Attempt))
    (s : ExposureStep) :
    e.unwatched.step registrar s = (e.step registrar.watched s).map id unwatched := by
  cases s with
  | callbackType declaration =>
    simp only [step, Registrar.watched, unwatched]
    split <;> rfl
  | function declaration function listedIn =>
    simp only [step, Registrar.watched, unwatched]
    split <;> rfl
  | failure error => rfl

theorem steps_unwatched (registrar : Registrar σ) (steps : List ExposureStep)
    (e : Exposing (σ × List Attempt)) :
    Exposing.steps registrar steps e.unwatched
      = (Exposing.steps registrar.watched steps e).map id unwatched := by
  induction steps generalizing e with
  | nil => rfl
  | cons first rest ih =>
    rw [Exposing.steps, Exposing.steps, step_unwatched]
    rcases e.step registrar.watched first with ⟨error | _, e'⟩
    · rfl
    · exact ih e'

end Exposing

theorem EventRegistry.exposeEach_unwatched {σ : Type} (registrar : Registrar σ)
    (descriptors : List EventDescriptor) (e : Exposing (σ × List Attempt)) :
    exposeEach registrar descriptors e.unwatched
      = (exposeEach registrar.watched descriptors e).map id Exposing.unwatched := by
  induction descriptors generalizing e with
  | nil => rfl
  | cons descriptor rest ih =>
    have hlog : e.unwatched.log (.exposingEvent descriptor.type)
        = (e.log (.exposingEvent descriptor.type)).unwatched := rfl
    rw [exposeEach, exposeEach, hlog, Exposing.steps_unwatched]
    rcases Exposing.steps registrar.watched descriptor.exposureSteps
      (e.log (.exposingEvent descriptor.type)) with ⟨error | _, e'⟩
    · rfl
    · exact ih e'

/-- Watching a registrar changes nothing else. -/
theorem exposeAll_unwatched {σ : Type} (registrar : Registrar σ) (registry : EventRegistry)
    (e : Exposing (σ × List Attempt)) :
    exposeAll registrar registry e.unwatched
      = (exposeAll registrar.watched registry e).map id Exposing.unwatched := by
  rw [exposeAll, exposeAll, Exposing.steps_unwatched]
  rcases Exposing.steps registrar.watched hostCatalog e with ⟨error | _, e'⟩
  · rfl
  · exact EventRegistry.exposeEach_unwatched registrar registry.descriptors e'

/-! ## The steps of a whole exposure -/

/-- The steps that expose the host functions and then every event. -/
def EventRegistry.exposureSteps (registry : EventRegistry) : List ExposureStep :=
  hostCatalog ++ registry.descriptors.flatMap (·.exposureSteps)

namespace Exposing

variable {σ : Type}

/-- The exposure without what was logged. -/
def quiet (e : Exposing σ) : Exposing σ :=
  { e with machine := { e.machine with journal := .empty } }

theorem step_quiet (registrar : Registrar σ) (e : Exposing σ) (s : ExposureStep) :
    e.quiet.step registrar s = (e.step registrar s).map id quiet := by
  cases s with
  | callbackType declaration =>
    simp only [step, quiet]
    split <;> rfl
  | function declaration function listedIn =>
    simp only [step, quiet]
    split <;> rfl
  | failure error => rfl

theorem steps_quiet (registrar : Registrar σ) (steps : List ExposureStep) (e : Exposing σ) :
    Exposing.steps registrar steps e.quiet = (Exposing.steps registrar steps e).map id quiet := by
  induction steps generalizing e with
  | nil => rfl
  | cons first rest ih =>
    rw [Exposing.steps, Exposing.steps, step_quiet]
    rcases e.step registrar first with ⟨error | _, e'⟩
    · rfl
    · exact ih e'

theorem steps_append (registrar : Registrar σ) (first second : List ExposureStep)
    (e : Exposing σ) :
    Exposing.steps registrar (first ++ second) e =
      match Exposing.steps registrar first e with
      | (.error error, e) => (.error error, e)
      | (.ok (), e) => Exposing.steps registrar second e := by
  induction first generalizing e with
  | nil => rfl
  | cons s rest ih =>
    rw [List.cons_append, Exposing.steps, Exposing.steps]
    rcases e.step registrar s with ⟨error | _, e'⟩
    · rfl
    · exact ih e'

end Exposing

theorem EventRegistry.exposeEach_quiet {σ : Type} (registrar : Registrar σ)
    (descriptors : List EventDescriptor) (e : Exposing σ) :
    (exposeEach registrar descriptors e).map id Exposing.quiet
      = Exposing.steps registrar (descriptors.flatMap (·.exposureSteps)) e.quiet := by
  induction descriptors generalizing e with
  | nil => rfl
  | cons descriptor rest ih =>
    have hlog : e.quiet = (e.log (.exposingEvent descriptor.type)).quiet := rfl
    rw [List.flatMap_cons, Exposing.steps_append, exposeEach, hlog, Exposing.steps_quiet]
    rcases Exposing.steps registrar descriptor.exposureSteps
      (e.log (.exposingEvent descriptor.type)) with ⟨error | _, e'⟩
    · rfl
    · exact ih e'

/-- Apart from the log, an exposure carries out its steps one after the other. -/
theorem exposeAll_quiet {σ : Type} (registrar : Registrar σ) (registry : EventRegistry)
    (e : Exposing σ) :
    (exposeAll registrar registry e).map id Exposing.quiet
      = Exposing.steps registrar registry.exposureSteps e.quiet := by
  rw [EventRegistry.exposureSteps, Exposing.steps_append, exposeAll, Exposing.steps_quiet]
  rcases Exposing.steps registrar hostCatalog e with ⟨error | _, e'⟩
  · rfl
  · exact EventRegistry.exposeEach_quiet registrar registry.descriptors e'

end ScriptHost
