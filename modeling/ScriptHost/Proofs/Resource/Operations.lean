import ScriptHost.Fleet
import ScriptHost.Proofs.Resource.DispatchCalls
import ScriptHost.Proofs.Resource.Stages

/-!
# What operations do to a resource

The events, custom events and ticks that a resource is given come to calls of callbacks, with
moves of the host before, between and after them.  `perform_dispatches` says this of every operation
that dispatches, and that an entry of the bindings holds each callback.
-/

namespace ScriptHost

variable {σ : Type} {interpreter : Interpreter σ}
  {allowed : HostFunction → List HostArgument → Prop}

/-! ## Making arrays -/

section Arrays

variable (interpreter)

/-- Creating an array is the work of the interpreter, and the host logs why there is none. -/
theorem ArrayTypes.create_moves (types : ArrayTypes) (kind : ArrayKind) (items : List Value)
    (s : Scene σ) :
    Relation.ReflTransGen HostMove s
      { s with machine := (types.create interpreter kind items s.machine).2 } := by
  unfold create
  cases types.get? kind with
  | none => exact .single (.log (.log s rfl))
  | some type =>
    simp only
    rcases interpreter.createArray s.machine.engine type items with ⟨cause | array, engine⟩
    · exact .head (.work s engine) (.single (.log (.log _ rfl)))
    · exact .single (.work s engine)

theorem Marshaling.run_moves (marshaling : Marshaling) (types : ArrayTypes) (s : Scene σ) :
    Relation.ReflTransGen HostMove s
      { s with machine := (marshaling.run interpreter types s.machine).2 } := by
  induction marshaling generalizing s with
  | done args => exact .refl
  | array kind items next ih =>
    have hfirst := types.create_moves interpreter kind items s
    rcases hcreate : types.create interpreter kind items s.machine with ⟨made, m⟩
    rw [hcreate] at hfirst
    rw [run, hcreate]
    exact hfirst.trans (ih made { s with machine := m })

theorem EventDescriptor.marshal_moves (descriptor : EventDescriptor) (event : HostEvent)
    (types : ArrayTypes) (s : Scene σ) :
    Relation.ReflTransGen HostMove s
      { s with machine := (descriptor.marshal interpreter event types s.machine).2 } :=
  (descriptor.marshaling event).run_moves interpreter types s

end Arrays

/-! ## Dispatches -/

/-- An entry of the bindings holds the function that is called for a cause. -/
def Bindings.Pins (bindings : Bindings) (cause : CallCause) (f : FunctionHandle) : Prop :=
  match cause with
  | .event type => (type, f) ∈ bindings.handlers
  | .custom locality name => ⟨name, locality, f⟩ ∈ bindings.custom.entries
  | .timer id => ∃ timer, bindings.timers.find? id = some timer ∧ timer.callback = f
  | .entrypoint | .stop => False

theorem Bindings.Pins.isCallback {bindings : Bindings} {cause : CallCause} {f : FunctionHandle}
    (h : bindings.Pins cause f) : cause.IsCallback := by
  cases cause <;> first | exact trivial | exact h

/-- The function that an entry holds is among the callbacks that the bindings own. -/
theorem Bindings.Pins.mem_callbacks {bindings : Bindings} {cause : CallCause}
    {f : FunctionHandle} (h : bindings.Pins cause f) : f ∈ bindings.callbacks := by
  unfold callbacks
  cases cause with
  | event type =>
    exact List.mem_append_left _ (List.mem_append_left _ (List.mem_map_of_mem h))
  | custom locality name =>
    exact List.mem_append_left _ (List.mem_append_right _ (List.mem_map_of_mem h))
  | timer id =>
    rcases h with ⟨timer, hfind, rfl⟩
    exact List.mem_append_right _ (List.mem_map_of_mem (Keyed.mem_of_find? hfind))
  | entrypoint | stop => exact h.elim

theorem EventRegistry.type_of_lookup? {registry : EventRegistry} {type : EventType}
    {descriptor : EventDescriptor} (h : registry.lookup? type = some descriptor) :
    descriptor.type = type := by
  have hfound := List.find?_some h
  simpa using hfound

theorem CustomHandlers.mem_callbacksOf {handlers : CustomHandlers} {name : String}
    {locality : Locality} {f : FunctionHandle} :
    f ∈ handlers.callbacksOf name locality ↔ ⟨name, locality, f⟩ ∈ handlers.entries := by
  unfold callbacksOf
  constructor
  · intro h
    rcases List.mem_map.mp h with ⟨handler, hmem, rfl⟩
    have hfilter := List.mem_filter.mp hmem
    have hkeys : handler.name = name ∧ handler.locality = locality := by simpa using hfilter.2
    rcases hkeys with ⟨rfl, rfl⟩
    exact hfilter.1
  · intro h
    exact List.mem_map.mpr ⟨⟨name, locality, f⟩, List.mem_filter.mpr ⟨h, by simp⟩, rfl⟩

theorem Bindings.mem_handlersOf {bindings : Bindings} {type : EventType} {f : FunctionHandle} :
    f ∈ bindings.handlersOf type ↔ (type, f) ∈ bindings.handlers := by
  unfold handlersOf
  constructor
  · intro h
    rcases List.mem_map.mp h with ⟨⟨t, g⟩, hmem, rfl⟩
    have hfilter := List.mem_filter.mp hmem
    have htype : t = type := by simpa using hfilter.2
    rw [← htype]
    exact hfilter.1
  · intro h
    exact List.mem_map.mpr ⟨(type, f), List.mem_filter.mpr ⟨h, by simp⟩, rfl⟩

/-- What continues a scene still holds what was held there. -/
theorem Scene.Continues.pins {s t : Scene σ} (h : s.Continues allowed t) {n : Nat}
    (hn : s.bindings.timers.Numbered n) (hbound : n + s.created t < UInt32.size - 1)
    {cause : CallCause} {f : FunctionHandle} (hpins : s.bindings.Pins cause f) :
    t.bindings.Pins cause f := by
  cases cause with
  | event type =>
    rcases h.subscribes with ⟨added, hadded, -⟩
    show (type, f) ∈ t.bindings.handlers
    rw [hadded]
    exact List.mem_append_left _ hpins
  | custom locality name => exact h.custom.subset hpins
  | timer id =>
    rcases hpins with ⟨timer, hfind, rfl⟩
    exact h.callbacks n hn hbound id timer hfind
  | entrypoint | stop => exact hpins.elim

namespace Resource

/-- The calls with which a resource goes from one scene to another in a dispatch.  Unless it is
running there are none, and nothing happens at all. -/
structure Dispatches (interpreter : Interpreter σ) (r : Resource σ) (calls : List (ScriptCall σ))
    (s t : Scene σ) : Prop where
  called : ∀ context, r.context = some context →
    CallsBetween interpreter context HostMove calls s t
  idle : r.isRunning = false → calls = [] ∧ t = s

namespace Dispatches

variable {r : Resource σ} {calls : List (ScriptCall σ)} {s t : Scene σ}

theorem none (s : Scene σ) : r.Dispatches interpreter [] s s :=
  ⟨fun _ _ => .none .refl, fun _ => ⟨rfl, rfl⟩⟩

theorem of_moves (hrun : r.isRunning = true) (h : Relation.ReflTransGen HostMove s t) :
    r.Dispatches interpreter [] s t :=
  ⟨fun _ _ => .none h, fun hidle => by rw [hrun] at hidle; cases hidle⟩

theorem of_calls (hrun : r.isRunning = true) {context : ContextHandle}
    (hcontext : r.context = some context)
    (h : CallsBetween interpreter context HostMove calls s t) :
    r.Dispatches interpreter calls s t := by
  constructor
  · intro context' hcontext'
    rw [hcontext] at hcontext'
    injection hcontext' with heq
    rw [← heq]
    exact h
  · intro hidle
    rw [hrun] at hidle
    cases hidle

/-- The journal shows just the calls of the dispatch. -/
theorem calls_eq (h : r.Dispatches interpreter calls s t)
    (hcontext : r.isRunning = true → r.context.isSome) :
    t.machine.journal.calls = s.machine.journal.calls ++ calls.map (·.summary) := by
  cases hrun : r.isRunning with
  | false =>
    rcases h.idle hrun with ⟨rfl, rfl⟩
    rw [List.map_nil, List.append_nil]
  | true =>
    rcases Option.isSome_iff_exists.mp (hcontext hrun) with ⟨context, hsome⟩
    exact (h.called context hsome).calls_eq fun _ _ => HostMove.calls_eq

/-- A dispatch takes nothing away, neither before a call nor in the end. -/
theorem continues (h : r.Dispatches interpreter calls s t)
    (hcontext : r.isRunning = true → r.context.isSome) (hasks : interpreter.AsksOnly allowed)
    (hcause : ∀ c ∈ calls, c.cause.IsCallback) :
    s.Continues allowed t ∧ ∀ c ∈ calls, s.Continues allowed c.start := by
  cases hrun : r.isRunning with
  | false =>
    rcases h.idle hrun with ⟨rfl, rfl⟩
    exact ⟨.refl _, by simp⟩
  | true =>
    rcases Option.isSome_iff_exists.mp (hcontext hrun) with ⟨context, hsome⟩
    exact (h.called context hsome).continues hasks hcause

end Dispatches

/-- A custom event reaches the handlers that were registered when it was sent, one and all, with the
same arguments. -/
theorem dispatchCustom_calls (interpreter : Interpreter σ) (r : Resource σ) (name : String)
    (locality : Locality) (sender : Option Entity) (values : List Value) (m : Machine σ) :
    ∃ t calls,
      r.dispatchCustom interpreter name locality sender values m = (r.adopt t, t.machine) ∧
      r.Dispatches interpreter calls (r.scene m) t ∧
      (r.isRunning = true → r.context.isSome →
        calls.map (·.function) = r.bindings.custom.callbacksOf name locality) ∧
      ∀ c ∈ calls, c.cause = .custom locality name ∧
        c.args = customArguments locality sender
          (r.bindings.arrays.create interpreter .any values m).1 ∧
        c.function ∈ r.bindings.custom.callbacksOf name locality := by
  unfold dispatchCustom
  cases hrun : r.isRunning with
  | false => exact ⟨r.scene m, [], rfl, .none _, fun h => absurd h Bool.false_ne_true, by simp⟩
  | true =>
    by_cases hempty : (r.bindings.custom.callbacksOf name locality).isEmpty
    · simp only [hempty, if_true]
      refine ⟨(r.scene m).log (.noCustomHandlers locality name), [], rfl,
        .of_moves hrun (.single (.log (.log _ rfl))), ?_, by simp⟩
      exact fun _ _ => (List.isEmpty_iff.mp hempty).symm
    · -- the array of the values comes first, then the handlers that there were before it
      have harray := r.bindings.arrays.create_moves interpreter .any values (r.scene m)
      rcases hcreate : (r.scene m).createArray interpreter .any values with ⟨array, s⟩
      have hmade : (r.bindings.arrays.create interpreter .any values m).1 = array :=
        congrArg Prod.fst hcreate
      have hs : { r.scene m with
          machine := (r.bindings.arrays.create interpreter .any values m).2 } = s :=
        congrArg Prod.snd hcreate
      rw [show (r.scene m).machine = m from rfl, hs] at harray
      simp only [hempty]
      cases hcontext : r.context with
      | none =>
        refine ⟨s, [], rfl, .of_moves hrun harray, ?_, by simp⟩
        exact fun _ h => absurd h Bool.false_ne_true
      | some context =>
        rcases r.callCustomHandlers_calls interpreter context name locality
          (customArguments locality sender array) (r.bindings.custom.callbacksOf name locality) s
          with ⟨calls, hcalls, hfunctions, hcauses⟩
        have hmoves := (hcalls.mono fun _ _ => HostMove.log).before harray
        refine ⟨_, calls, rfl, .of_calls hrun hcontext hmoves, fun _ _ => hfunctions, ?_⟩
        intro c hc
        rw [hmade, ← hfunctions]
        exact ⟨(hcauses c hc).1, (hcauses c hc).2, List.mem_map_of_mem hc⟩

/-- A host event reaches handlers that were registered when it was sent. -/
theorem dispatchHost_calls (interpreter : Interpreter σ) (r : Resource σ)
    (hrun : r.isRunning = true) (event : HostEvent) (m : Machine σ) :
    ∃ t calls,
      (r.dispatchHost interpreter event m).2 = (r.adopt t, t.machine) ∧
      r.Dispatches interpreter calls (r.scene m) t ∧
      ∀ c ∈ calls, c.cause = .event event.type ∧
        c.function ∈ r.bindings.handlersOf event.type := by
  unfold dispatchHost
  cases hlookup : r.registry.lookup? event.type with
  | none =>
    exact ⟨(r.scene m).log (.eventUnhandled event.type), [], rfl,
      .of_moves hrun (.single (.log (.log _ rfl))), by simp⟩
  | some descriptor =>
    by_cases hempty : (r.bindings.handlersOf event.type).isEmpty
    · simp only [hempty, if_true]
      exact ⟨r.scene m, [], rfl, .none _, by simp⟩
    · have hmarshal := descriptor.marshal_moves interpreter event r.bindings.arrays (r.scene m)
      simp only [hempty]
      rcases hresult : descriptor.marshal interpreter event r.bindings.arrays m
        with ⟨fault | args, m'⟩
      · rw [show (r.scene m).machine = m from rfl, hresult] at hmarshal
        exact ⟨r.scene m', [], rfl, .of_moves hrun hmarshal, by simp⟩
      · rw [show (r.scene m).machine = m from rfl, hresult] at hmarshal
        cases hcontext : r.context with
        | none => exact ⟨r.scene m', [], rfl, .of_moves hrun hmarshal, by simp⟩
        | some context =>
          rcases r.callHandlers_calls interpreter context descriptor args
            (r.bindings.handlersOf event.type) (r.scene m') with ⟨calls, hcalls, hfold⟩
          have hmoves := (hcalls.mono fun _ _ => HostMove.log).before hmarshal
          refine ⟨_, calls, rfl, .of_calls hrun hcontext hmoves, ?_⟩
          intro c hc
          rw [(hfold.forall_calls c hc).1, EventRegistry.type_of_lookup? hlookup]
          exact ⟨rfl, hfold.functions_prefix.subset (List.mem_map_of_mem hc)⟩

/-- What a custom event calls is held by an entry when the event is sent. -/
theorem dispatchCustom_dispatches (interpreter : Interpreter σ) (r : Resource σ) (name : String)
    (locality : Locality) (sender : Option Entity) (values : List Value) (m : Machine σ) :
    ∃ t calls,
      r.dispatchCustom interpreter name locality sender values m = (r.adopt t, t.machine) ∧
      r.Dispatches interpreter calls (r.scene m) t ∧
      ∀ c ∈ calls, r.bindings.Pins c.cause c.function := by
  rcases r.dispatchCustom_calls interpreter name locality sender values m
    with ⟨t, calls, heq, hcalls, -, hcauses⟩
  refine ⟨t, calls, heq, hcalls, ?_⟩
  intro c hc
  rcases hcauses c hc with ⟨hcause, -, hmem⟩
  rw [hcause]
  exact CustomHandlers.mem_callbacksOf.mp hmem

/-- What an event of any kind calls is held by an entry when the event is sent. -/
theorem onEvent_dispatches (interpreter : Interpreter σ) (r : Resource σ) (event : HostEvent)
    (m : Machine σ) :
    ∃ t calls,
      (r.onEvent interpreter event m).2 = (r.adopt t, t.machine) ∧
      r.Dispatches interpreter calls (r.scene m) t ∧
      ∀ c ∈ calls, r.bindings.Pins c.cause c.function := by
  unfold onEvent
  cases hrun : r.isRunning with
  | false => exact ⟨r.scene m, [], rfl, .none _, by simp⟩
  | true =>
    simp only [Bool.not_true, Bool.false_eq_true, if_false]
    split
    · exact r.dispatchCustom_dispatches interpreter _ _ _ _ m
    · exact r.dispatchCustom_dispatches interpreter _ _ _ _ m
    · rcases r.dispatchHost_calls interpreter hrun event m with ⟨t, calls, heq, hcalls, hcauses⟩
      refine ⟨t, calls, heq, hcalls, ?_⟩
      intro c hc
      rw [(hcauses c hc).1]
      exact Bindings.mem_handlersOf.mp (hcauses c hc).2

/-- The scene in which the dispatch of an operation begins: a tick has first dropped the timers
queued for removal. -/
def dispatchStart (r : Resource σ) (operation : Operation) (m : Machine σ) : Scene σ :=
  match operation with
  | .tick => if r.isRunning then (r.scene m).flushTimers else r.scene m
  | _ => r.scene m

theorem dispatchStart_stage (r : Resource σ) (operation : Operation) (m : Machine σ) :
    (r.scene m).Stage allowed [] (r.dispatchStart operation m) := by
  have hsame : (r.scene m).Stage allowed [] (r.scene m) := .of_continues (.refl _)
  cases operation with
  | tick =>
    unfold dispatchStart
    cases hrun : r.isRunning with
    | true => exact .flushTimers _
    | false => exact hsame
  | start | tryStart | stop | event | dispatch | hostCall => exact hsame

/-- A tick runs timers that are in the table then. -/
theorem onTick_dispatches (interpreter : Interpreter σ) (r : Resource σ)
    (hcontext : r.isRunning = true → r.context.isSome) (m : Machine σ) :
    ∃ t calls,
      r.onTick interpreter m = (r.adopt t, t.machine) ∧
      r.Dispatches interpreter calls (r.dispatchStart .tick m) t ∧
      ∀ c ∈ calls, c.start.bindings.Pins c.cause c.function := by
  unfold onTick dispatchStart
  cases hrun : r.isRunning with
  | false => exact ⟨r.scene m, [], rfl, .none _, by simp⟩
  | true =>
    rcases Option.isSome_iff_exists.mp (hcontext hrun) with ⟨context, hsome⟩
    rcases r.runTimers_calls interpreter context (r.scene m).flushTimers.bindings.timers.ids
      (r.scene m).flushTimers with ⟨calls, hcalls, hcauses⟩
    rw [hsome]
    refine ⟨_, calls, rfl, .of_calls hrun hsome hcalls, ?_⟩
    intro c hc
    rcases hcauses c hc with ⟨id, -, hcause, -, hfind⟩
    rw [hcause]
    exact hfind

end Resource

/-! ## Operations of any kind -/

/-- The operation sends something to callbacks. -/
def Operation.IsDispatch : Operation → Prop
  | event _ | tick | dispatch .. => True
  | start | tryStart | stop | hostCall .. => False

namespace Resource

/-- Every callback that a dispatch calls is held by an entry when the dispatch begins, or, that of a
timer, when it is called. -/
theorem perform_dispatches (interpreter : Interpreter σ) (r : Resource σ)
    (hcontext : r.isRunning = true → r.context.isSome) {operation : Operation}
    (hop : operation.IsDispatch) (m : Machine σ) :
    ∃ t calls,
      (r.perform interpreter operation m).2 = (r.adopt t, t.machine) ∧
      r.Dispatches interpreter calls (r.dispatchStart operation m) t ∧
      ∀ c ∈ calls, (r.dispatchStart operation m).bindings.Pins c.cause c.function ∨
        c.start.bindings.Pins c.cause c.function := by
  cases operation with
  | event event =>
    rcases r.onEvent_dispatches interpreter event m with ⟨t, calls, heq, hcalls, hpins⟩
    exact ⟨t, calls, heq, hcalls, fun c hc => Or.inl (hpins c hc)⟩
  | tick =>
    rcases r.onTick_dispatches interpreter hcontext m with ⟨t, calls, heq, hcalls, hpins⟩
    exact ⟨t, calls, heq, hcalls, fun c hc => Or.inr (hpins c hc)⟩
  | dispatch name locality sender values =>
    rcases r.dispatchCustom_dispatches interpreter name locality sender values m
      with ⟨t, calls, heq, hcalls, hpins⟩
    exact ⟨t, calls, heq, hcalls, fun c hc => Or.inl (hpins c hc)⟩
  | start | tryStart | stop | hostCall => exact hop.elim

end Resource

end ScriptHost
