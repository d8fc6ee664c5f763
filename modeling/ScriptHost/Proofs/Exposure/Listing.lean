import ScriptHost.Proofs.Exposure.Watched
import ScriptHost.Proofs.Resource.Reachable

/-!
# Listings tell what was registered

Steps of an exposure are listed as far as they were accepted, and the first that is not accepted is
the last that is tried (`steps_progress`).  So the listing is at every point what was accepted so far
(`Faithful`), and two exposures that succeed list the same (`exposure_listed`).
-/

namespace ScriptHost

/-! ## What a step adds -/

namespace ExposureStep

/-- What the step asks a registrar for. -/
def registration? : ExposureStep → Option Registration
  | callbackType declaration => some (.callbackType declaration)
  | function declaration f _ => some (.function declaration f)
  | failure _ => none

/-- The attempt that the step makes if it goes as told. -/
def attempt? (accepted : Bool) (s : ExposureStep) : Option Attempt :=
  s.registration?.map fun registration => ⟨registration, accepted⟩

/-- The callback type that the step declares. -/
def callbackType? : ExposureStep → Option String
  | callbackType declaration => some declaration
  | _ => none

/-- The function that the step declares, if it is listed in a section. -/
def functionIn? (listed : FunctionSection) : ExposureStep → Option String
  | function declaration _ listedIn => if listedIn = listed then some declaration else none
  | _ => none

/-- The function that the step declares. -/
def function? : ExposureStep → Option String
  | function declaration _ _ => some declaration
  | _ => none

theorem callbackType?_attempt? (accepted : Bool) (s : ExposureStep) :
    (s.attempt? accepted).bind Attempt.callbackType?
      = if accepted then s.callbackType? else none := by
  cases s <;> cases accepted <;> rfl

theorem function?_attempt? (accepted : Bool) (s : ExposureStep) :
    (s.attempt? accepted).bind Attempt.function? = if accepted then s.function? else none := by
  cases s <;> cases accepted <;> rfl

theorem accepted_of_attempt? {accepted : Bool} {s : ExposureStep} {attempt : Attempt}
    (h : s.attempt? accepted = some attempt) : attempt.accepted = accepted := by
  obtain ⟨registration, -, rfl⟩ := Option.map_eq_some_iff.mp h
  rfl

/-- No event is exposed before a function that is none. -/
def EventsLast (steps : List ExposureStep) : Prop :=
  steps.Pairwise fun s later =>
    (s.functionIn? .events).isSome → later.functionIn? .functions = none

/-- With the events last, the two sections hold all functions in order. -/
theorem sections_in_order {steps : List ExposureStep} (h : EventsLast steps) :
    steps.filterMap (functionIn? .functions) ++ steps.filterMap (functionIn? .events)
      = steps.filterMap function? := by
  induction steps with
  | nil => rfl
  | cons s rest ih =>
    obtain ⟨hfirst, hrest⟩ := List.pairwise_cons.mp h
    have hih := ih hrest
    match s with
    | callbackType _ => exact hih
    | failure _ => exact hih
    | function declaration f .functions =>
      simp only [List.filterMap_cons, functionIn?, function?, if_pos, List.cons_append]
      simpa using hih
    | function declaration f .events =>
      -- what is left holds events only
      have hnone : rest.filterMap (functionIn? .functions) = [] :=
        List.filterMap_eq_nil_iff.mpr fun later hlater => hfirst later hlater rfl
      rw [hnone, List.nil_append] at hih
      simp only [List.filterMap_cons, functionIn?, function?]
      simpa [hnone] using hih

end ExposureStep

namespace Listing

/-- The listing with what a step adds. -/
def add (listing : Listing) : ExposureStep → Listing
  | .callbackType declaration => listing.addCallbackType declaration
  | .function declaration _ .functions => listing.addFunction declaration
  | .function declaration _ .events => listing.addEvent declaration
  | .failure _ => listing

theorem foldl_add (listing : Listing) (steps : List ExposureStep) :
    steps.foldl add listing =
      { listing with
        callbackTypes :=
          listing.callbackTypes ++ (steps.filterMap (·.callbackType?)).map ("funcdef " ++ ·)
        functions := listing.functions ++ steps.filterMap (·.functionIn? .functions)
        events := listing.events ++ steps.filterMap (·.functionIn? .events) } := by
  induction steps generalizing listing with
  | nil => simp
  | cons s rest ih =>
    rw [List.foldl_cons, ih]
    match s with
    | .callbackType _ =>
      simp [add, addCallbackType, ExposureStep.callbackType?, ExposureStep.functionIn?]
    | .function _ _ .functions =>
      simp [add, addFunction, ExposureStep.callbackType?, ExposureStep.functionIn?]
    | .function _ _ .events =>
      simp [add, addEvent, ExposureStep.callbackType?, ExposureStep.functionIn?]
    | .failure _ => simp [add, ExposureStep.callbackType?, ExposureStep.functionIn?]

end Listing

/-! ## How far steps went -/

namespace Exposing

variable {σ : Type}

/-- Of the steps, those in `done` were accepted and listed, and then one failed or none was left. -/
structure Progress (steps done : List ExposureStep) (failed : Option ExposureStep)
    (before after : Exposing (σ × List Attempt)) (result : Except EngineError Unit) : Prop where
  reached : done ++ failed.toList <+: steps
  all_done : failed = none → done = steps
  ok_iff : result = .ok () ↔ failed = none
  listing : after.listing = done.foldl Listing.add before.listing
  attempts : after.attempts = before.attempts ++ done.filterMap (·.attempt? true)
    ++ failed.toList.filterMap (·.attempt? false)

/-- A step is tried once, and listed if it succeeds. -/
theorem step_watched (registrar : Registrar σ) (e : Exposing (σ × List Attempt))
    (s : ExposureStep) {result : Except EngineError Unit} {e' : Exposing (σ × List Attempt)}
    (h : e.step registrar.watched s = (result, e')) :
    e'.attempts = e.attempts ++ (s.attempt? result.isOk).toList ∧
      e'.listing = if result.isOk then e.listing.add s else e.listing := by
  cases s with
  | callbackType declaration =>
    simp only [step, Registrar.watched] at h
    split at h
    · next haccepted =>
      cases h
      exact ⟨by simp only [attempts, haccepted]; rfl, rfl⟩
    · next haccepted =>
      cases h
      exact ⟨by simp only [attempts, haccepted]; rfl, rfl⟩
  | function declaration f listedIn =>
    simp only [step, Registrar.watched] at h
    split at h
    · next haccepted =>
      cases h
      exact ⟨by simp only [attempts, haccepted]; rfl, by cases listedIn <;> rfl⟩
    · next haccepted =>
      cases h
      exact ⟨by simp only [attempts, haccepted]; rfl, rfl⟩
  | failure error =>
    cases h
    exact ⟨(List.append_nil _).symm, rfl⟩

/-- The first step that fails ends the exposure, and all before it are listed. -/
theorem steps_progress (registrar : Registrar σ) (steps : List ExposureStep)
    (e : Exposing (σ × List Attempt)) :
    ∃ done failed, Progress steps done failed e (Exposing.steps registrar.watched steps e).2
      (Exposing.steps registrar.watched steps e).1 := by
  induction steps generalizing e with
  | nil =>
    exact ⟨[], none, List.prefix_rfl, fun _ => rfl, ⟨fun _ => rfl, fun _ => rfl⟩, rfl,
      by simp [Exposing.steps]⟩
  | cons s rest ih =>
    rcases hstep : e.step registrar.watched s with ⟨error | _, e'⟩
    · obtain ⟨hattempts, hlisting⟩ : e'.attempts = e.attempts ++ (s.attempt? false).toList ∧
          e'.listing = e.listing := step_watched registrar e s hstep
      refine ⟨[], some s, ?_⟩
      rw [Exposing.steps, hstep]
      refine ⟨⟨rest, rfl⟩, fun hnone => (by cases hnone),
        ⟨fun hok => (by cases hok), fun hnone => (by cases hnone)⟩, hlisting, ?_⟩
      rw [hattempts]
      cases hattempt : s.attempt? false <;> simp [hattempt]
    · obtain ⟨hattempts, hlisting⟩ : e'.attempts = e.attempts ++ (s.attempt? true).toList ∧
          e'.listing = e.listing.add s := step_watched registrar e s hstep
      obtain ⟨done, failed, h⟩ := ih e'
      refine ⟨s :: done, failed, ?_⟩
      rw [Exposing.steps, hstep]
      refine ⟨(List.prefix_cons_inj s).mpr h.reached, fun hnone => ?_, h.ok_iff, ?_, ?_⟩
      · rw [h.all_done hnone]
      · rw [h.listing, hlisting, List.foldl_cons]
      · rw [h.attempts, hattempts]
        cases hattempt : s.attempt? true <;> simp [hattempt]

end Exposing

/-! ## The steps of a registry of subscriptions -/

namespace EventRegistry

/-- Every event is exposed by a subscription. -/
def Subscriptions (registry : EventRegistry) : Prop :=
  ∀ descriptor ∈ registry.descriptors, descriptor.exposure = .subscription

/-- The listing of everything that is exposed. -/
def interface (registry : EventRegistry) (name : String) : Listing where
  namespaceName := name
  callbackTypes :=
    (hostCatalog.filterMap (·.callbackType?) ++ registry.descriptors.map (·.callbackDeclaration)).map
      ("funcdef " ++ ·)
  functions := hostCatalog.filterMap (·.function?)
  events := registry.descriptors.map (·.subscribeDeclaration)

/-- What the steps of a subscription declare, one entry for each event. -/
theorem filterMap_flatMap_exposureSteps {β : Type} {f : ExposureStep → Option β}
    {g : EventDescriptor → List β} {descriptors : List EventDescriptor}
    (h : ∀ d ∈ descriptors, d.exposureSteps.filterMap f = g d) :
    (descriptors.flatMap (·.exposureSteps)).filterMap f = descriptors.flatMap g := by
  induction descriptors with
  | nil => rfl
  | cons d rest ih =>
    have hfirst := h d List.mem_cons_self
    have hrest := ih fun d' hd' => h d' (List.mem_cons_of_mem _ hd')
    rw [List.flatMap_cons, List.flatMap_cons, List.filterMap_append, hfirst, hrest]

variable {registry : EventRegistry}

theorem exposureSteps_of_mem (h : registry.Subscriptions) {descriptor : EventDescriptor}
    (hmem : descriptor ∈ registry.descriptors) :
    descriptor.exposureSteps =
      [.callbackType descriptor.callbackDeclaration,
        .function descriptor.subscribeDeclaration (.onEvent descriptor.type) .events] := by
  rw [EventDescriptor.exposureSteps, h descriptor hmem]

theorem eventSteps_cases (h : registry.Subscriptions) {s : ExposureStep}
    (hs : s ∈ registry.descriptors.flatMap (·.exposureSteps)) :
    ∃ d ∈ registry.descriptors, s = .callbackType d.callbackDeclaration ∨
      s = .function d.subscribeDeclaration (.onEvent d.type) .events := by
  obtain ⟨d, hd, hs⟩ := List.mem_flatMap.mp hs
  rw [exposureSteps_of_mem h hd, List.mem_cons, List.mem_singleton] at hs
  exact ⟨d, hd, hs⟩

theorem listing_eq_interface (h : registry.Subscriptions) (name : String) :
    registry.exposureSteps.foldl Listing.add (.new name) = registry.interface name := by
  have htypes : (registry.descriptors.flatMap (·.exposureSteps)).filterMap (·.callbackType?)
      = registry.descriptors.map (·.callbackDeclaration) := by
    rw [List.map_eq_flatMap]
    apply filterMap_flatMap_exposureSteps
    intro d hd
    rw [exposureSteps_of_mem h hd]
    rfl
  have hfunctions : (registry.descriptors.flatMap (·.exposureSteps)).filterMap
      (·.functionIn? .functions) = [] := by
    rw [List.filterMap_eq_nil_iff]
    intro s hs
    obtain ⟨d, -, rfl | rfl⟩ := eventSteps_cases h hs <;> rfl
  have hevents : (registry.descriptors.flatMap (·.exposureSteps)).filterMap
      (·.functionIn? .events) = registry.descriptors.map (·.subscribeDeclaration) := by
    rw [List.map_eq_flatMap]
    apply filterMap_flatMap_exposureSteps
    intro d hd
    rw [exposureSteps_of_mem h hd]
    rfl
  rw [Listing.foldl_add, exposureSteps, List.filterMap_append, List.filterMap_append,
    List.filterMap_append, htypes, hfunctions, hevents, List.append_nil]
  rfl

theorem eventsLast (h : registry.Subscriptions) :
    ExposureStep.EventsLast registry.exposureSteps := by
  have hcatalog : ∀ s ∈ hostCatalog, s.functionIn? .events = none := by decide
  have hdescriptors : ∀ s ∈ registry.descriptors.flatMap (·.exposureSteps),
      s.functionIn? .functions = none := by
    intro s hs
    obtain ⟨d, -, rfl | rfl⟩ := eventSteps_cases h hs <;> rfl
  refine List.pairwise_append.mpr ⟨?_, ?_, fun s _ later hlater _ => hdescriptors later hlater⟩
  · apply List.pairwise_iff_forall_sublist.mpr
    intro s later hsub hevent
    rw [hcatalog s (hsub.subset List.mem_cons_self)] at hevent
    cases hevent
  · apply List.pairwise_iff_forall_sublist.mpr
    intro s later hsub _
    exact hdescriptors later (hsub.subset (List.mem_cons_of_mem _ List.mem_cons_self))

/-- No step of such a registry fails of itself. -/
theorem registration?_isSome (h : registry.Subscriptions) {s : ExposureStep}
    (hs : s ∈ registry.exposureSteps) : s.registration?.isSome := by
  rcases List.mem_append.mp hs with hs | hs
  · have hcatalog : ∀ s ∈ hostCatalog, s.registration?.isSome := by decide
    exact hcatalog s hs
  · obtain ⟨d, -, rfl | rfl⟩ := eventSteps_cases h hs <;> rfl

end EventRegistry

/-! ## Faithful listings -/

namespace Exposing

variable {σ : Type}

/-- Of some steps that expose a registry, the listing tells what was accepted, and nothing was tried
after a rejection. -/
structure Faithful (registry : EventRegistry) (steps : List ExposureStep)
    (result : Except EngineError Unit) (e : Exposing (σ × List Attempt)) : Prop where
  callbackTypes :
    e.listing.callbackTypes = (e.attempts.filterMap Attempt.callbackType?).map ("funcdef " ++ ·)
  functions : e.listing.functions ++ e.listing.events = e.attempts.filterMap Attempt.function?
  in_order : e.attempts.map (·.registration) <+: steps.filterMap (·.registration?)
  rejected_last : ∀ attempt ∈ e.attempts.dropLast, attempt.accepted = true
  ok_iff : result = .ok () ↔ e.attempts = steps.filterMap (·.attempt? true)
  /-- Entries of events are as their descriptors declare them. -/
  part_of_interface : ∀ name,
    e.listing.callbackTypes <+: (registry.interface name).callbackTypes ∧
      e.listing.functions <+: (registry.interface name).functions ∧
      e.listing.events <+: (registry.interface name).events

section Progress

variable {steps done : List ExposureStep} {failed : Option ExposureStep}
  {before after : Exposing (σ × List Attempt)} {result : Except EngineError Unit}

/-- What is read off the accepted attempts is read off the steps that were done. -/
theorem Progress.filterMap_attempts {β : Type} {f : Attempt → Option β}
    {g : ExposureStep → Option β} (h : Progress steps done failed before after result)
    (hstart : before.attempts = [])
    (hf : ∀ accepted (s : ExposureStep),
      (s.attempt? accepted).bind f = if accepted then g s else none) :
    after.attempts.filterMap f = done.filterMap g := by
  have hrejected : (failed.toList.filterMap (·.attempt? false)).filterMap f = [] := by
    rw [List.filterMap_filterMap, List.filterMap_eq_nil_iff]
    exact fun s _ => hf false s
  have haccepted : (done.filterMap (·.attempt? true)).filterMap f = done.filterMap g := by
    rw [List.filterMap_filterMap]
    congr 1
    funext s
    exact hf true s
  rw [h.attempts, hstart, List.nil_append, List.filterMap_append, hrejected, haccepted,
    List.append_nil]

theorem Progress.in_order (h : Progress steps done failed before after result)
    (hstart : before.attempts = []) :
    after.attempts.map (·.registration) <+: steps.filterMap (·.registration?) := by
  have hforget : ∀ (accepted : Bool) (l : List ExposureStep),
      (l.filterMap (·.attempt? accepted)).map (·.registration)
        = l.filterMap (·.registration?) := by
    intro accepted l
    rw [List.map_filterMap]
    congr 1
    funext s
    cases s <;> rfl
  rw [h.attempts, hstart, List.nil_append, List.map_append, hforget, hforget,
    ← List.filterMap_append]
  exact h.reached.filterMap _

theorem Progress.rejected_last (h : Progress steps done failed before after result)
    (hstart : before.attempts = []) :
    ∀ attempt ∈ after.attempts.dropLast, attempt.accepted = true := by
  have haccepted : ∀ attempt ∈ done.filterMap (·.attempt? true), attempt.accepted = true := by
    intro attempt hmem
    obtain ⟨s, -, hs⟩ := List.mem_filterMap.mp hmem
    exact ExposureStep.accepted_of_attempt? hs
  intro attempt hmem
  rw [h.attempts, hstart, List.nil_append] at hmem
  apply haccepted
  rcases failed with _ | s
  · rw [Option.toList_none, List.filterMap_nil, List.append_nil] at hmem
    exact List.dropLast_subset _ hmem
  · rw [Option.toList_some, List.filterMap_cons, List.filterMap_nil] at hmem
    cases hs : s.attempt? false with
    | none =>
      rw [hs, List.append_nil] at hmem
      exact List.dropLast_subset _ hmem
    | some rejected =>
      rw [hs, List.dropLast_concat] at hmem
      exact hmem

theorem Progress.attempts_of_ok (h : Progress steps done failed before after result)
    (hstart : before.attempts = []) (hok : result = .ok ()) :
    after.attempts = steps.filterMap (·.attempt? true) := by
  have hnone : failed = none := h.ok_iff.mp hok
  rw [h.attempts, hstart, hnone, h.all_done hnone, Option.toList_none, List.filterMap_nil,
    List.append_nil, List.nil_append]

/-- Nothing failed if everything was tried and accepted. -/
theorem Progress.ok_of_attempts (h : Progress steps done failed before after result)
    (hasks : ∀ s ∈ steps, s.registration?.isSome)
    (hall : after.attempts = steps.filterMap (·.attempt? true)) : result = .ok () := by
  rw [h.ok_iff]
  rcases failed with _ | s
  · rfl
  · -- the rejected attempt would be among the accepted ones
    have hs : s ∈ steps := h.reached.subset (by simp)
    obtain ⟨registration, hregistration⟩ := Option.isSome_iff_exists.mp (hasks s hs)
    have hattempt : s.attempt? false = some ⟨registration, false⟩ := by
      rw [ExposureStep.attempt?, hregistration, Option.map_some]
    have hmem : ⟨registration, false⟩ ∈ after.attempts := by
      rw [h.attempts]
      simp [hattempt]
    rw [hall] at hmem
    obtain ⟨s', -, hs'⟩ := List.mem_filterMap.mp hmem
    exact absurd (ExposureStep.accepted_of_attempt? hs') Bool.false_ne_true

end Progress

/-- Steps that expose a registry, stopped anywhere, have a faithful listing. -/
theorem steps_faithful (registrar : Registrar σ) {registry : EventRegistry}
    (hregistry : registry.Subscriptions) (name : String) (m : Machine σ)
    {steps : List ExposureStep} (hsteps : steps <+: registry.exposureSteps) :
    Faithful registry steps (Exposing.steps registrar.watched steps (start m name)).1
      (Exposing.steps registrar.watched steps (start m name)).2 := by
  obtain ⟨done, failed, h⟩ := steps_progress registrar steps (start m name)
  have hstart : (start m name).attempts = [] := rfl
  have hdone : done <+: registry.exposureSteps :=
    ((List.prefix_append _ _).trans h.reached).trans hsteps
  have hlisting := h.listing
  rw [Listing.foldl_add] at hlisting
  constructor
  · rw [h.filterMap_attempts hstart ExposureStep.callbackType?_attempt?, hlisting]
    rfl
  · rw [h.filterMap_attempts hstart ExposureStep.function?_attempt?, hlisting]
    exact ExposureStep.sections_in_order
      ((registry.eventsLast hregistry).sublist hdone.sublist)
  · exact h.in_order hstart
  · exact h.rejected_last hstart
  · exact ⟨h.attempts_of_ok hstart, h.ok_of_attempts fun s hs =>
      registry.registration?_isSome hregistry (hsteps.subset hs)⟩
  · intro name'
    have hinterface := EventRegistry.listing_eq_interface hregistry name'
    rw [Listing.foldl_add] at hinterface
    rw [hlisting, ← hinterface]
    exact ⟨(hdone.filterMap _).map _, hdone.filterMap _, hdone.filterMap _⟩

/-- An exposure that succeeds lists everything. -/
theorem steps_complete (registrar : Registrar σ) {registry : EventRegistry}
    (hregistry : registry.Subscriptions) (name : String) (m : Machine σ)
    (hok : (Exposing.steps registrar.watched registry.exposureSteps (start m name)).1 = .ok ()) :
    (Exposing.steps registrar.watched registry.exposureSteps (start m name)).2.listing
      = registry.interface name := by
  obtain ⟨done, failed, h⟩ := steps_progress registrar registry.exposureSteps (start m name)
  rw [h.listing, h.all_done (h.ok_iff.mp hok)]
  exact EventRegistry.listing_eq_interface hregistry name

/-- No step of an exposure fails with a registrar that accepts everything. -/
theorem steps_ok {registrar : Registrar σ} (haccepts : registrar.AcceptsAll)
    {steps : List ExposureStep} (hasks : ∀ s ∈ steps, s.registration?.isSome) (e : Exposing σ) :
    (Exposing.steps registrar steps e).1 = .ok () := by
  induction steps generalizing e with
  | nil => rfl
  | cons s rest ih =>
    obtain ⟨hs, hrest⟩ := List.forall_mem_cons.mp hasks
    have hstep : (e.step registrar s).1 = .ok () := by
      cases s with
      | callbackType declaration =>
        simp only [step, haccepts.callbackType]
      | function declaration f listedIn =>
        simp only [step, haccepts.function]
      | failure error => cases hs
    rw [Exposing.steps]
    rcases hnext : e.step registrar s with ⟨error | _, e'⟩
    · rw [hnext] at hstep
      cases hstep
    · exact ih hrest e'

/-- What was logged does not matter. -/
theorem Faithful.of_quiet {registry : EventRegistry} {steps : List ExposureStep}
    {result : Except EngineError Unit} {e e' : Exposing (σ × List Attempt)}
    (hquiet : e'.quiet = e.quiet) (h : Faithful registry steps result e) :
    Faithful registry steps result e' := by
  have hlisting := congrArg Exposing.listing hquiet
  have hattempts := congrArg Exposing.attempts hquiet
  change e'.listing = e.listing at hlisting
  change e'.attempts = e.attempts at hattempts
  constructor
  · rw [hlisting, hattempts]
    exact h.callbackTypes
  · rw [hlisting, hattempts]
    exact h.functions
  · rw [hattempts]
    exact h.in_order
  · rw [hattempts]
    exact h.rejected_last
  · rw [hattempts]
    exact h.ok_iff
  · rw [hlisting]
    exact h.part_of_interface

end Exposing

theorem exposeAll_eq_steps {σ : Type} (registrar : Registrar σ) (registry : EventRegistry)
    (e : Exposing σ) :
    (exposeAll registrar registry e).1
        = (Exposing.steps registrar registry.exposureSteps e).1 ∧
      (exposeAll registrar registry e).2.quiet
        = (Exposing.steps registrar registry.exposureSteps e).2.quiet := by
  have h := exposeAll_quiet registrar registry e
  rw [Exposing.steps_quiet] at h
  have hresult := congrArg Prod.fst h
  have hquiet := congrArg Prod.snd h
  exact ⟨hresult, hquiet⟩

section Exposed

open Exposing (start)

variable {σ : Type} (registrar : Registrar σ) {registry : EventRegistry}
  (hregistry : registry.Subscriptions) (name : String) (m : Machine σ)

include hregistry

theorem exposeAll_faithful :
    Exposing.Faithful registry registry.exposureSteps
      (exposeAll registrar.watched registry (start m name)).1
      (exposeAll registrar.watched registry (start m name)).2 := by
  obtain ⟨hresult, hquiet⟩ := exposeAll_eq_steps registrar.watched registry (start m name)
  rw [hresult]
  exact (Exposing.steps_faithful registrar hregistry name m List.prefix_rfl).of_quiet hquiet

/-- Whatever the registrar, an exposure that succeeds lists the interface. -/
theorem exposeAll_complete (hok : (exposeAll registrar registry ⟨m, .new name⟩).1 = .ok ()) :
    (exposeAll registrar registry ⟨m, .new name⟩).2.listing = registry.interface name := by
  have hwatched := exposeAll_unwatched registrar registry (start m name)
  obtain ⟨hresult, hquiet⟩ := exposeAll_eq_steps registrar.watched registry (start m name)
  change exposeAll registrar registry ⟨m, .new name⟩ = _ at hwatched
  rw [hwatched] at hok ⊢
  have hlisting := congrArg Exposing.listing hquiet
  exact hlisting.trans (Exposing.steps_complete registrar hregistry name m (hresult ▸ hok))

theorem exposeAll_ok {registrar : Registrar σ} (haccepts : registrar.AcceptsAll) :
    (exposeAll registrar registry ⟨m, .new name⟩).1 = .ok () := by
  rw [(exposeAll_eq_steps registrar registry _).1]
  exact Exposing.steps_ok haccepts (fun s hs => registry.registration?_isSome hregistry hs) _

theorem Host.expose_listing (interpreter : Interpreter σ) (config : Config) {host : Host σ}
    {m' : Machine σ} (h : Host.expose interpreter config registry m = (.ok host, m')) :
    host.listing = registry.interface config.docsModule := by
  have hcomplete := exposeAll_complete interpreter.toRegistrar hregistry config.docsModule
    (m.log .registeringHostFunctions)
  unfold Host.expose at h
  rcases hexpose : exposeAll interpreter.toRegistrar registry
    ⟨m.log .registeringHostFunctions, .new config.docsModule⟩ with ⟨_ | _, e⟩
  · simp only [hexpose] at h
    cases h
  · simp only [hexpose] at h
    cases h
    rw [hexpose] at hcomplete
    exact hcomplete rfl

end Exposed

theorem Builtin.registry_subscriptions : Builtin.registry.Subscriptions := by
  intro descriptor hmem
  obtain ⟨type, -, htype⟩ := List.mem_filterMap.mp hmem
  obtain ⟨parameters, -, rfl⟩ := Option.map_eq_some_iff.mp htype
  rfl

theorem collectListing_eq (name : String) :
    (collectListing name).1 = .ok (Builtin.registry.interface name) := by
  let m : Machine RecordedDeclarations := ⟨{}, ⟨0⟩, .empty⟩
  have hok := exposeAll_ok Builtin.registry_subscriptions name m recorder_acceptsAll
  have hlisting := exposeAll_complete recorder Builtin.registry_subscriptions name m hok
  unfold collectListing
  rcases hrun : exposeAll recorder Builtin.registry ⟨m, .new name⟩ with ⟨result, e⟩
  rw [hrun] at hok hlisting
  simp only [m] at hrun
  simp only [hrun]
  rw [← hlisting, show result = .ok () from hok]
  rfl

/-- Where every event is exposed by a subscription, the listing is faithful at every point of an
exposure, whatever the registrar accepts, and watching the registrar changes nothing.  Two registrars
that accept everything lead to one listing, and so do a host and the collection of the listing without
an interpreter. -/
theorem exposure_listed {σ : Type} (registrar : Registrar σ) (registry : EventRegistry)
    (hregistry : registry.Subscriptions) (name : String) (m : Machine σ) :
    (∀ steps, steps <+: registry.exposureSteps → ∀ result e,
      Exposing.steps registrar.watched steps (.start m name) = (result, e) →
        e.Faithful registry steps result) ∧
    (∀ result e, exposeAll registrar.watched registry (.start m name) = (result, e) →
      e.Faithful registry registry.exposureSteps result ∧
        exposeAll registrar registry ⟨m, .new name⟩ = (result, e.unwatched)) ∧
    (∀ e, (exposeAll registrar registry e).map id Exposing.quiet
      = Exposing.steps registrar registry.exposureSteps e.quiet) ∧
    (∀ {τ : Type} (other : Registrar τ) (m' : Machine τ),
      registrar.AcceptsAll → other.AcceptsAll →
        (exposeAll registrar registry ⟨m, .new name⟩).1 = .ok () ∧
        (exposeAll registrar registry ⟨m, .new name⟩).2.listing
          = (exposeAll other registry ⟨m', .new name⟩).2.listing) ∧
    ∀ (interpreter : Interpreter σ) (config : Config) (host : Host σ) (m' : Machine σ),
      Host.expose interpreter config Builtin.registry m = (.ok host, m') →
        (collectListing config.docsModule).1 = .ok host.listing := by
  refine ⟨?_, ?_, exposeAll_quiet registrar registry, ?_, ?_⟩
  · intro steps hsteps result e hrun
    have h := Exposing.steps_faithful registrar hregistry name m hsteps
    rw [hrun] at h
    exact h
  · intro result e hrun
    have h := exposeAll_faithful registrar hregistry name m
    have hwatched := exposeAll_unwatched registrar registry (.start m name)
    rw [hrun] at h hwatched
    exact ⟨h, hwatched⟩
  · intro τ other m' haccepts hother
    have hok := exposeAll_ok hregistry name m haccepts
    have hok' := exposeAll_ok hregistry name m' hother
    refine ⟨hok, ?_⟩
    rw [exposeAll_complete registrar hregistry name m hok,
      exposeAll_complete other hregistry name m' hok']
  · intro interpreter config host m' h
    rw [collectListing_eq, Host.expose_listing Builtin.registry_subscriptions m interpreter config h]

namespace Sample

/-- A registrar that knows no players who leave. -/
def picky : Registrar Unit where
  registerCallbackType _ _ := (.ok (), ())
  registerFunction _ declaration _ :=
    if declaration = "void onPlayerDisconnect(PlayerDisconnectCallback@ callback)" then
      (.error ⟨"RegisterGlobalFunction", "-10"⟩, ())
    else (.ok (), ())

/-- Of the events, the one before the rejected function is listed, and no other; the functions of the
host are listed before. -/
theorem exposure_listed_picky :
    let exposed := exposeAll picky.watched Builtin.registry (.start machine "alt")
    let halfway := Exposing.steps picky.watched hostCatalog (.start machine "alt")
    exposed.2.Faithful Builtin.registry Builtin.registry.exposureSteps exposed.1 ∧
      exposed.2.listing.events = ["void onPlayerConnect(PlayerConnectCallback@ callback)"] ∧
      halfway.2.Faithful Builtin.registry hostCatalog halfway.1 ∧
      (exposeAll interpreter.toRegistrar Builtin.registry ⟨machine, .new "alt"⟩).2.listing
        = (exposeAll recorder Builtin.registry ⟨⟨{}, ⟨0⟩, .empty⟩, .new "alt"⟩).2.listing ∧
      ∃ host m', Host.expose interpreter {} Builtin.registry machine = (.ok host, m') ∧
        (collectListing "alt").1 = .ok host.listing := by
  intro exposed halfway
  obtain ⟨hpoints, hwhole, -, -, -⟩ :=
    exposure_listed picky Builtin.registry Builtin.registry_subscriptions "alt" machine
  obtain ⟨-, -, -, haccepting, hhosts⟩ :=
    exposure_listed interpreter.toRegistrar Builtin.registry Builtin.registry_subscriptions "alt"
      machine
  have haccepts : interpreter.toRegistrar.AcceptsAll := ⟨fun _ _ => rfl, fun _ _ _ => rfl⟩
  refine ⟨(hwhole _ _ rfl).1, by decide +kernel,
    hpoints hostCatalog (List.prefix_append _ _) _ _ rfl,
    (haccepting recorder ⟨{}, ⟨0⟩, .empty⟩ haccepts recorder_acceptsAll).2, ?_⟩
  exact ⟨_, _, rfl, hhosts interpreter {} _ _ rfl⟩

end Sample

end ScriptHost
