import ScriptHost.Proofs.Resource.CustomEvents
import ScriptHost.Proofs.Resource.Registrations
import ScriptHost.Proofs.Resource.Timers

/-!
# Custom events reach their handlers

A custom event goes to the functions that scripts have registered for its name and its locality, as
the history of the resource tells them, one and all.  `FanOut` says how: one array is made, and each
function is called with it, in the order of the registrations.  What the calls come to decides about
nothing, and what they register counts from the next event on (`fanOut_exact`).
-/

namespace ScriptHost

variable {σ : Type} {interpreter : Interpreter σ}

/-- What an operation that sends a custom event answers: if the event comes as a host event, it
stands. -/
def Operation.sentAnswer : Operation → Answer
  | .event _ => .handled (.ok true)
  | _ => .done

namespace Resource

/-- How a custom event goes to a list of handlers, with the calls that it comes to and the scene
after it. -/
inductive FanOut (interpreter : Interpreter σ) (r : Resource σ) (event : CustomEvent)
    (m : Machine σ) : List FunctionHandle → List (ScriptCall σ) → Scene σ → Prop
  /-- There is no handler: this is logged, and that is all. -/
  | unheard :
      FanOut interpreter r event m [] []
        ((r.scene m).log (.noCustomHandlers event.locality event.name))
  /-- The values are put into one array.  Then each handler is called once, with the same arguments,
  and nothing but lines of the log comes between the calls. -/
  | heard {context : ContextHandle} {array : ObjectRef} {s t : Scene σ}
      {calls : List (ScriptCall σ)} (hsome : calls ≠ []) (hcontext : r.context = some context)
      (harray : (r.scene m).createArray interpreter .any event.values = (array, s))
      (hcalls : CallsBetween interpreter context LogMove calls s t)
      (htold : ∀ c ∈ calls, c.cause = .custom event.locality event.name ∧
        c.args = customArguments event.locality event.sender array) :
      FanOut interpreter r event m (calls.map (·.function)) calls t

namespace FanOut

variable {r : Resource σ} {event : CustomEvent} {m : Machine σ} {handlers : List FunctionHandle}
  {calls : List (ScriptCall σ)} {t : Scene σ}

/-- There is one call for each handler, in the same order. -/
theorem functions_eq (h : r.FanOut interpreter event m handlers calls t) :
    calls.map (·.function) = handlers := by
  cases h with
  | unheard | heard => rfl

/-- Without handlers the interpreter is not asked for an array, nor for anything else. -/
theorem of_nil (h : r.FanOut interpreter event m [] calls t) :
    t = (r.scene m).log (.noCustomHandlers event.locality event.name) := by
  -- where there are calls, the list of handlers is the map of them, and not literally `[]`
  generalize hnone : ([] : List FunctionHandle) = handlers at h
  cases h with
  | unheard => rfl
  | heard hsome => exact absurd (List.map_eq_nil_iff.mp hnone.symm) hsome

theorem carriedOut (h : r.FanOut interpreter event m handlers calls t) {context : ContextHandle}
    (hcontext : r.context = some context) : ∀ c ∈ calls, c.CarriedOut interpreter context := by
  cases h with
  | unheard => simp
  | heard _ hheld _ hcalls =>
    cases hheld.symm.trans hcontext
    exact fun c hc => (hcalls.forall_made c hc).carriedOut

/-- The journal shows just these calls. -/
theorem calls_eq (h : r.FanOut interpreter event m handlers calls t) :
    t.machine.journal.calls = m.journal.calls ++ calls.map (·.summary) := by
  cases h with
  | unheard => exact Journal.viewed_push _ _ _
  | @heard context array s t calls _ _ harray hcalls =>
    have hmoves := r.bindings.arrays.create_moves interpreter .any event.values (r.scene m)
    have hs : { r.scene m with
        machine := (r.bindings.arrays.create interpreter .any event.values m).2 } = s :=
      congrArg Prod.snd harray
    rw [show (r.scene m).machine = m from rfl, hs] at hmoves
    have hmade : s.machine.journal.calls = m.journal.calls :=
      calls_eq_of_moves (fun _ _ => HostMove.calls_eq) hmoves
    rw [hcalls.calls_eq fun _ _ => LogMove.calls_eq, hmade]

end FanOut

/-- A running resource sends a custom event to the handlers that it has when the event comes. -/
theorem dispatchCustom_fanOut (interpreter : Interpreter σ) (r : Resource σ)
    (hrun : r.isRunning = true) {context : ContextHandle} (hcontext : r.context = some context)
    (event : CustomEvent) (m : Machine σ) :
    ∃ calls t,
      r.dispatchCustom interpreter event.name event.locality event.sender event.values m
        = (r.adopt t, t.machine) ∧
      r.FanOut interpreter event m (r.bindings.custom.callbacksOf event.name event.locality)
        calls t := by
  unfold dispatchCustom
  simp only [hrun, Bool.not_true, Bool.false_eq_true, if_false, hcontext]
  by_cases hempty : (r.bindings.custom.callbacksOf event.name event.locality).isEmpty
  · simp only [hempty, if_true]
    rw [List.isEmpty_iff.mp hempty]
    exact ⟨[], _, rfl, .unheard⟩
  · rcases hcreate : (r.scene m).createArray interpreter .any event.values with ⟨array, s⟩
    obtain ⟨calls, hcalls, hfunctions, htold⟩ :=
      r.callCustomHandlers_calls interpreter context event.name event.locality
        (customArguments event.locality event.sender array)
        (r.bindings.custom.callbacksOf event.name event.locality) s
    have hsome : calls ≠ [] := by
      rintro rfl
      rw [← hfunctions] at hempty
      exact hempty rfl
    have hfan := FanOut.heard hsome hcontext hcreate hcalls htold
    rw [hfunctions] at hfan
    simp only [hempty]
    exact ⟨calls, _, rfl, hfan⟩

theorem perform_sends {r : Resource σ} (hrun : r.isRunning = true) {operation : Operation}
    {event : CustomEvent} (h : operation.customEvent? = some event) (m : Machine σ) :
    r.perform interpreter operation m
      = (operation.sentAnswer,
        r.dispatchCustom interpreter event.name event.locality event.sender event.values m) := by
  refine Prod.ext ?_ (perform_customEvent hrun h)
  unfold Operation.customEvent? at h
  split at h
  · simp [perform, onEvent, hrun, Operation.sentAnswer]
  · simp [perform, onEvent, hrun, Operation.sentAnswer]
  · rfl
  · cases h

variable {history : Journal} {r : Resource σ} {m : Machine σ}

/-- A custom event goes to the functions that the history tells of. -/
theorem Reachable.perform_fanOut (h : Reachable interpreter history r m) (hrun : r.phase = .running)
    {operation : Operation} {event : CustomEvent} (hevent : operation.customEvent? = some event) :
    ∃ calls t,
      r.perform interpreter operation m = (operation.sentAnswer, r.adopt t, t.machine) ∧
      r.FanOut interpreter event m (history.customSubscribersOf event.name event.locality) calls
        t := by
  obtain ⟨_, context, _, hcontext, _⟩ := (h.sound.lived.at_phase hrun).of_running
  have hrunning : r.isRunning = true := decide_eq_true hrun
  have hhandlers : r.bindings.custom.callbacksOf event.name event.locality
      = history.customSubscribersOf event.name event.locality := by
    have hregistered := h.registered (by rw [hrun]; exact fun h => by cases h)
    rw [CustomHandlers.callbacksOf, hregistered, Journal.customSubscribersOf]
  obtain ⟨calls, t, heq, hfan⟩ :=
    r.dispatchCustom_fanOut interpreter hrunning hcontext event m
  rw [hhandlers] at hfan
  exact ⟨calls, t, by rw [perform_sends hrunning hevent, heq], hfan⟩

theorem Later.customSubscribers_prefix {history' : Journal} {r' : Resource σ} {m' : Machine σ}
    (h : Later interpreter history r m history' r' m') (name : String) (locality : Locality) :
    history.customSubscribersOf name locality <+: history'.customSubscribersOf name locality := by
  induction h with
  | now => exact List.prefix_rfl
  | performed _ _ ih => exact ih.trans (Journal.customSubscribersOf_following _ _ _ _ _)
  | elsewhere _ _ ih => exact ih

/-- A custom event calls each of the functions that were registered for its name and its locality
before it was sent, as often as they were registered, in that order and with the same arguments, and
no other function; without such functions no array is made.  If it came as a host event, it stands.
The functions that are registered meanwhile come after the others in every later event of that name
and that locality. -/
theorem fanOut_exact (h : Reachable interpreter history r m) (hrun : r.phase = .running)
    {operation : Operation} {event : CustomEvent} (hevent : operation.customEvent? = some event) :
    ∃ calls t,
      r.perform interpreter operation m = (operation.sentAnswer, r.adopt t, t.machine) ∧
      r.FanOut interpreter event m (history.customSubscribersOf event.name event.locality) calls t ∧
      calls.map (·.function) = history.customSubscribersOf event.name event.locality ∧
      (history.customSubscribersOf event.name event.locality = [] →
        t = (r.scene m).log (.noCustomHandlers event.locality event.name)) ∧
      t.machine.journal.calls = m.journal.calls ++ calls.map (·.summary) ∧
      (∀ context, r.context = some context → ∀ c ∈ calls, c.CarriedOut interpreter context) ∧
      ∃ added,
        (history.following m.journal t.machine.journal).customSubscribersOf event.name
            event.locality
          = history.customSubscribersOf event.name event.locality ++ added ∧
        ∀ history' r' m',
          Later interpreter (history.following m.journal t.machine.journal) (r.adopt t) t.machine
            history' r' m' →
          r'.phase = .running →
          ∀ operation' event', operation'.customEvent? = some event' →
            event'.name = event.name → event'.locality = event.locality →
            ∃ more calls' t',
              history'.customSubscribersOf event.name event.locality
                = history.customSubscribersOf event.name event.locality ++ added ++ more ∧
              r'.perform interpreter operation' m'
                = (operation'.sentAnswer, r'.adopt t', t'.machine) ∧
              r'.FanOut interpreter event' m'
                (history'.customSubscribersOf event.name event.locality) calls' t' := by
  obtain ⟨calls, t, heq, hfan⟩ := h.perform_fanOut hrun hevent
  have hafter : Reachable interpreter (history.following m.journal t.machine.journal) (r.adopt t)
      t.machine := by
    have hperformed := Reachable.performed operation h
    rwa [heq] at hperformed
  obtain ⟨added, hadded⟩ := history.customSubscribersOf_following m.journal t.machine.journal
    event.name event.locality
  refine ⟨calls, t, heq, hfan, hfan.functions_eq, ?_, hfan.calls_eq, fun context => hfan.carriedOut,
    added, hadded.symm, ?_⟩
  · intro hnone
    rw [hnone] at hfan
    exact hfan.of_nil
  · intro history' r' m' hlater hrun' operation' event' hevent' hname hlocality
    obtain ⟨more, hmore⟩ := hlater.customSubscribers_prefix event.name event.locality
    obtain ⟨calls', t', heq', hfan'⟩ := (hlater.reachable hafter).perform_fanOut hrun' hevent'
    rw [hname, hlocality] at hfan'
    exact ⟨more, calls', t', by rw [← hmore, ← hadded], heq', hfan'⟩

end Resource

namespace Sample

/-- A player waves twice.  The greeter, which is registered once, is called once, and as it registers
itself then, twice the second time. -/
theorem fanOut_exact_waving :
    let wave : Operation := .event (.remoteScriptEvent "wave" ⟨.player, 1⟩ [])
    let event : CustomEvent := ⟨"wave", .remote, some ⟨.player, 1⟩, []⟩
    let r := (startWith waving).2.1
    let m := (startWith waving).2.2
    r.phase = .running ∧ wave.customEvent? = some event ∧
    ∃ calls t calls' t',
      r.perform waving wave m = (.handled (.ok true), r.adopt t, t.machine) ∧
      r.FanOut waving event m [greeter] calls t ∧
      (r.adopt t).perform waving wave t.machine
        = (.handled (.ok true), (r.adopt t).adopt t', t'.machine) ∧
      (r.adopt t).FanOut waving event t.machine [greeter, greeter] calls' t' := by
  intro wave event r m
  let history := Journal.empty.following machine.journal m.journal
  have hbefore : history.customSubscribersOf "wave" .remote = [greeter] := by decide +kernel
  have hafter : (history.following m.journal
      (r.perform waving wave m).2.2.journal).customSubscribersOf "wave" .remote
        = [greeter, greeter] := by
    decide +kernel
  have hevent : wave.customEvent? = some event := rfl
  obtain ⟨calls, t, heq, hfan, -, -, -, -, added, -, hlater⟩ :=
    Resource.fanOut_exact (reachable_startWith waving) waving_phase hevent
  rw [hbefore] at hfan
  rw [heq] at hafter
  obtain ⟨more, calls', t', -, heq', hfan'⟩ :=
    hlater _ _ _ .now waving_phase wave event hevent rfl rfl
  rw [hafter] at hfan'
  exact ⟨waving_phase, hevent, calls, t, calls', t', heq, hfan, heq', hfan'⟩

end Sample

end ScriptHost
