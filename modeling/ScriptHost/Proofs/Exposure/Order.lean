import ScriptHost.Proofs.Event.Registry
import ScriptHost.Proofs.Exposure.Listing

/-!
# Registries are exposed by number

An exposure goes through the descriptors one after the other and ends at the first that fails
(`EventRegistry.exposeEach_error`).  As a registry lists its descriptors by number, those before the
one that fails are those with lesser numbers (`EventRegistry.FailedAt`), and the order in which
descriptors were registered shows nowhere (`EventRegistry.registration_order`).
-/

namespace ScriptHost

namespace Exposing

variable {σ : Type}

theorem step_journal (registrar : Registrar σ) (e : Exposing σ) (s : ExposureStep) :
    (e.step registrar s).2.machine.journal = e.machine.journal := by
  cases s with
  | callbackType declaration =>
    simp only [step]
    split <;> rfl
  | function declaration f listedIn =>
    simp only [step]
    split <;> rfl
  | failure error => rfl

/-- Steps log nothing. -/
theorem steps_journal (registrar : Registrar σ) (steps : List ExposureStep) (e : Exposing σ) :
    (Exposing.steps registrar steps e).2.machine.journal = e.machine.journal := by
  induction steps generalizing e with
  | nil => rfl
  | cons s rest ih =>
    have hstep := step_journal registrar e s
    rw [Exposing.steps]
    rcases hnext : e.step registrar s with ⟨error | _, e'⟩
    · rw [hnext] at hstep
      exact hstep
    · rw [hnext] at hstep
      exact (ih e').trans hstep

end Exposing

namespace EventRegistry

variable {σ : Type}

/-! ## How far an exposure went -/

/-- The entry that announces the exposure of a descriptor. -/
def announcement (descriptor : EventDescriptor) : Entry :=
  .logged (.exposingEvent descriptor.type)

/-- The descriptors were exposed in this order and nothing else was: each was announced, and every
step of each was accepted and listed. -/
structure Exposed (descriptors : List EventDescriptor) (before after : Exposing (σ × List Attempt)) :
    Prop where
  attempts : after.attempts = before.attempts
    ++ (descriptors.flatMap (·.exposureSteps)).filterMap (·.attempt? true)
  listing : after.listing = (descriptors.flatMap (·.exposureSteps)).foldl Listing.add before.listing
  log : after.machine.journal.toList
    = before.machine.journal.toList ++ descriptors.map announcement

theorem exposeEach_ok {registrar : Registrar σ} {descriptors : List EventDescriptor}
    {e e' : Exposing (σ × List Attempt)}
    (h : exposeEach registrar.watched descriptors e = (.ok (), e')) : Exposed descriptors e e' := by
  induction descriptors generalizing e with
  | nil =>
    cases h
    exact ⟨by simp, rfl, by simp⟩
  | cons d rest ih =>
    obtain ⟨done, failed, hprogress⟩ := Exposing.steps_progress registrar d.exposureSteps
      (e.log (.exposingEvent d.type))
    have hjournal := Exposing.steps_journal registrar.watched d.exposureSteps
      (e.log (.exposingEvent d.type))
    rw [exposeEach] at h
    rcases hsteps : Exposing.steps registrar.watched d.exposureSteps
      (e.log (.exposingEvent d.type)) with ⟨error | _, mid⟩
    · rw [hsteps] at h
      cases h
    · rw [hsteps] at h hprogress hjournal
      obtain rfl : failed = none := hprogress.ok_iff.mp rfl
      obtain rfl : done = d.exposureSteps := hprogress.all_done rfl
      have hattempts : mid.attempts = e.attempts ++ d.exposureSteps.filterMap (·.attempt? true) :=
        hprogress.attempts.trans (List.append_nil _)
      have hlog : mid.machine.journal.toList = e.machine.journal.toList ++ [announcement d] := by
        rw [hjournal]
        exact Journal.toList_push _ _
      have hrest := ih h
      constructor
      · rw [hrest.attempts, hattempts, List.flatMap_cons, List.filterMap_append, List.append_assoc]
      · rw [hrest.listing, hprogress.listing, List.flatMap_cons, List.foldl_append]
        rfl
      · rw [hrest.log, hlog, List.map_cons, List.append_assoc, List.singleton_append]

/-- An exposure that fails has exposed all descriptors before some one, and failed at that one. -/
theorem exposeEach_error {registrar : Registrar σ} {descriptors : List EventDescriptor}
    {e e' : Exposing σ} {error : EngineError}
    (h : exposeEach registrar descriptors e = (.error error, e')) :
    ∃ before d after mid, descriptors = before ++ d :: after ∧
      exposeEach registrar before e = (.ok (), mid) ∧
      Exposing.steps registrar d.exposureSteps (mid.log (.exposingEvent d.type))
        = (.error error, e') := by
  induction descriptors generalizing e with
  | nil => cases h
  | cons d rest ih =>
    rw [exposeEach] at h
    rcases hsteps : Exposing.steps registrar d.exposureSteps
      (e.log (.exposingEvent d.type)) with ⟨cause | _, next⟩
    · rw [hsteps] at h
      exact ⟨[], d, rest, e, rfl, rfl, hsteps.trans h⟩
    · rw [hsteps] at h
      obtain ⟨before, d', after, mid, hrest, hbefore, hfailed⟩ := ih h
      refine ⟨d :: before, d', after, mid, by rw [hrest, List.cons_append], ?_, hfailed⟩
      rw [exposeEach, hsteps]
      exact hbefore

/-! ## Exposure by number -/

/-- The descriptors of a registry with lesser numbers than a descriptor has. -/
def below (registry : EventRegistry) (descriptor : EventDescriptor) : List EventDescriptor :=
  registry.descriptors.filter (·.Precedes descriptor)

/-- In a list by number, what stands before a descriptor has the lesser numbers. -/
theorem below_eq {registry : EventRegistry} {before after : List EventDescriptor}
    {d : EventDescriptor} (hascending : registry.descriptors.Pairwise EventDescriptor.Precedes)
    (h : registry.descriptors = before ++ d :: after) : registry.below d = before := by
  rw [h] at hascending
  obtain ⟨-, hrest, hbefore⟩ := List.pairwise_append.mp hascending
  have hlesser : ∀ b ∈ before, b.Precedes d := fun b hb => hbefore b hb d List.mem_cons_self
  have hgreater : ∀ a ∈ d :: after, ¬ a.Precedes d := by
    intro a ha hless
    rcases List.mem_cons.mp ha with rfl | ha
    · exact hless.type_ne rfl
    · exact (hless.trans ((List.pairwise_cons.mp hrest).1 a ha)).type_ne rfl
  rw [below, h, List.filter_append, List.filter_eq_self.mpr (by simpa using hlesser),
    List.filter_eq_nil_iff.mpr (by simpa using hgreater), List.append_nil]

/-- An exposure failed at a descriptor: those with lesser numbers were exposed, then came some steps
of this one and the step that failed, and nothing of the others. -/
structure FailedAt (registry : EventRegistry) (descriptor : EventDescriptor)
    (before after : Exposing (σ × List Attempt)) (error : EngineError) : Prop where
  stored : descriptor ∈ registry.descriptors
  partway : ∃ mid done failed, Exposed (registry.below descriptor) before mid ∧
    Exposing.Progress descriptor.exposureSteps done (some failed) mid after (.error error)
  log : after.machine.journal.toList = before.machine.journal.toList
    ++ (registry.below descriptor ++ [descriptor]).map announcement

theorem expose_error {registrar : Registrar σ} {registry : EventRegistry}
    (hascending : registry.descriptors.Pairwise EventDescriptor.Precedes)
    {e e' : Exposing (σ × List Attempt)} {error : EngineError}
    (h : registry.expose registrar.watched e = (.error error, e')) :
    ∃ descriptor, registry.FailedAt descriptor e e' error := by
  obtain ⟨before, d, after, mid, hsplit, hbefore, hfailed⟩ := exposeEach_error h
  have hbelow : registry.below d = before := below_eq hascending hsplit
  have hexposed : Exposed (registry.below d) e mid := hbelow ▸ exposeEach_ok hbefore
  obtain ⟨done, failed, hprogress⟩ := Exposing.steps_progress registrar d.exposureSteps
    (mid.log (.exposingEvent d.type))
  have hjournal := Exposing.steps_journal registrar.watched d.exposureSteps
    (mid.log (.exposingEvent d.type))
  rw [hfailed] at hprogress hjournal
  have hlog : e'.machine.journal.toList = mid.machine.journal.toList ++ [announcement d] := by
    rw [hjournal]
    exact Journal.toList_push _ _
  refine ⟨d, by simp [hsplit], ?_, ?_⟩
  · cases failed with
    | none => cases hprogress.ok_iff.mpr rfl
    | some failed =>
      -- the announcement is no attempt, so the progress is that from before it
      exact ⟨mid, done, failed, hexposed, hprogress.reached, hprogress.all_done, hprogress.ok_iff,
        hprogress.listing, hprogress.attempts⟩
  · rw [hlog, hexposed.log, List.map_append, List.append_assoc]
    rfl

/-- The registry is a table of first descriptors, in which the order of the calls does not show.

A call is rejected exactly if an earlier one named the category, and then it changes nothing.  What is
found under a category is the first descriptor registered for it, and the descriptors are listed by
number: sorting any enumeration of the table gives this list.  So calls that name no category twice
lead in any order to one exposure, with any registrar and under any watch.  An exposure goes up by
number, and one that fails has exposed what has lesser numbers than the descriptor at which it failed
and has touched nothing that has a greater one. -/
theorem registration_order (calls : List EventDescriptor) :
    (∀ d, (registerAll calls).register d =
      if ∃ c ∈ calls, c.type = d.type then .error (.duplicate d.type)
      else .ok (registerAll (calls ++ [d]))) ∧
    (∀ d, (∃ c ∈ calls, c.type = d.type) → registerAll (calls ++ [d]) = registerAll calls) ∧
    (∀ type, (registerAll calls).lookup? type = firstOf? calls type) ∧
    (registerAll calls).size = (calls.map (·.type)).toFinset.card ∧
    (registerAll calls).descriptors.Pairwise EventDescriptor.Precedes ∧
    Enumerates (registerAll calls).descriptors calls ∧
    (∀ order, Enumerates order calls →
      order.mergeSort EventDescriptor.byNumber = (registerAll calls).descriptors) ∧
    (∀ calls', calls.Perm calls' → (calls.map (·.type)).Nodup →
      ∀ {σ : Type} (registrar : Registrar σ) (e : Exposing (σ × List Attempt)),
        (registerAll calls').expose registrar.watched e
            = (registerAll calls).expose registrar.watched e ∧
          (registerAll calls').expose registrar e.unwatched
            = (registerAll calls).expose registrar e.unwatched) ∧
    ∀ {σ : Type} (registrar : Registrar σ) (e e' : Exposing (σ × List Attempt))
      (result : Except EngineError Unit),
      (registerAll calls).expose registrar.watched e = (result, e') →
        (registerAll calls).expose registrar e.unwatched = (result, e'.unwatched) ∧
        match result with
        | .ok () => Exposed (registerAll calls).descriptors e e'
        | .error error => ∃ descriptor, (registerAll calls).FailedAt descriptor e e' error := by
  have htable := table_registerAll calls
  have hregister := htable.register_eq
  refine ⟨fun d => ?_, fun d hold => ?_, htable.lookup?_eq, htable.size_eq, htable.ascending,
    htable.enumerates, fun order => htable.mergeSort_eq, ?_, ?_⟩
  · rw [registerAll_concat, attempt, hregister]
    split_ifs <;> rfl
  · rw [registerAll_concat, attempt, hregister, if_pos hold]
  · intro calls' hperm htypes σ registrar e
    rw [registerAll_perm hperm htypes]
    exact ⟨rfl, rfl⟩
  · intro σ registrar e e' result h
    have hwatched := exposeEach_unwatched registrar (registerAll calls).descriptors e
    rw [show exposeEach registrar.watched _ e = _ from h] at hwatched
    refine ⟨hwatched, ?_⟩
    rcases result with error | ⟨⟩
    · exact expose_error htable.ascending h
    · exact exposeEach_ok h

end EventRegistry

namespace Sample

/-- A descriptor whose callback has no parameters. -/
def bare (type : EventType) : EventDescriptor :=
  { type, parameters := [], marshaling := fun _ => .done [] }

/-- A second descriptor of a category, with a parameter. -/
def connectAgain : EventDescriptor :=
  { bare .playerConnect with parameters := [⟨.entity .player, "player"⟩] }

/-- The second descriptor of its category is rejected, and the table is found by sorting.  The picky
registrar ends the exposure at the middle one of three descriptors, in both orders of the calls. -/
theorem registration_order_picky :
    let calls := [bare .playerDeath, bare .playerConnect, bare .playerDisconnect]
    let exposed := (EventRegistry.registerAll calls).expose picky.watched (.start machine "alt")
    (EventRegistry.registerAll calls).register connectAgain = .error (.duplicate .playerConnect) ∧
      EventRegistry.registerAll (calls ++ [connectAgain]) = EventRegistry.registerAll calls ∧
      calls.mergeSort EventDescriptor.byNumber = (EventRegistry.registerAll calls).descriptors ∧
      (EventRegistry.registerAll calls.reverse).expose picky.watched (.start machine "alt")
        = exposed ∧
      (∃ error descriptor, exposed.1 = .error error ∧
        (EventRegistry.registerAll calls).FailedAt descriptor (.start machine "alt") exposed.2
          error) ∧
      exposed.2.listing.events = ["void onPlayerConnect(PlayerConnectCallback@ callback)"] := by
  intro calls exposed
  obtain ⟨hregister, hrejected, -, -, -, -, hsorted, horders, hexposed⟩ :=
    EventRegistry.registration_order calls
  have hold : ∃ c ∈ calls, c.type = connectAgain.type := ⟨bare .playerConnect, by simp [calls], rfl⟩
  have htypes : (calls.map (·.type)).Nodup := by decide
  have henumerates : EventRegistry.Enumerates calls calls :=
    ⟨htypes, fun _ => (EventRegistry.firstOf?_eq_some_iff_of_nodup htypes).symm⟩
  refine ⟨(hregister connectAgain).trans (if_pos hold), hrejected _ hold, hsorted _ henumerates,
    (horders _ (List.reverse_perm calls).symm htypes picky (.start machine "alt")).1, ?_,
    by decide +kernel⟩
  have herror : exposed.1 = .error ⟨"RegisterGlobalFunction", "-10"⟩ := by decide +kernel
  have hfailed := (hexposed picky (.start machine "alt") exposed.2 exposed.1 rfl).2
  rw [herror] at hfailed
  obtain ⟨descriptor, hfailed⟩ := hfailed
  exact ⟨_, descriptor, herror, hfailed⟩

end Sample

end ScriptHost
