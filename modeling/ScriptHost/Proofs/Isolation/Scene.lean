import ScriptHost.Call
import ScriptHost.Proofs.HostFunction.Ownership
import ScriptHost.Proofs.Isolation.Machine

/-!
# Two scenes that one resource cannot tell apart

Two runs of a resource have the same bindings besides, and all that these hold is of the resource
(`Tenancy.ScenesAgree`).  Host functions find nothing but the scene of the script that calls them,
so they keep to it, and so do whole script calls.
-/

namespace ScriptHost

variable {σ : Type}

namespace Tenancy

/-! ## What the bindings hold -/

/-- The bindings hold nothing that is not of the resource in a slot. -/
structure Covers (T : Tenancy σ) (slot : String) (bindings : Bindings) : Prop where
  wellFormed : bindings.timers.WellFormed
  callbacks : ∀ f ∈ bindings.callbacks, T.owns slot f
  arrays : ∀ type ∈ bindings.arrays.held, T.ownsType slot type

variable {T : Tenancy σ} {interpreter : Interpreter σ} {slot : String} {o : Outset σ}
  {hand hand' : Hand} {s s' t t' : Scene σ}

namespace Covers

theorem new (name : String) : T.Covers slot (.new name) :=
  ⟨TimerTable.wellFormed_empty, nofun, nofun⟩

/-- Fewer timers, or the same in another order, hold nothing else. -/
theorem of_timers {bindings : Bindings} (h : T.Covers slot bindings) {timers : TimerTable}
    (hwell : timers.WellFormed)
    (hcallbacks : ∀ f ∈ timers.callbacks, f ∈ bindings.timers.callbacks) :
    T.Covers slot { bindings with timers } := by
  refine ⟨hwell, ?_, h.arrays⟩
  intro f hf
  refine h.callbacks f ?_
  rcases List.mem_append.mp hf with hf | hf
  · exact List.mem_append_left _ hf
  · exact List.mem_append_right _ (hcallbacks f hf)

theorem pollTimer (h : T.Covers slot s.bindings) (id : UInt32) :
    T.Covers slot (s.pollTimer id).2.bindings :=
  h.of_timers (h.wellFormed.poll id _)
    fun _ hf => (TimerTable.poll_callbacks_perm h.wellFormed id _).subset hf

theorem removeTimer (h : T.Covers slot s.bindings) (id : UInt32) :
    T.Covers slot (s.removeTimer id).bindings := by
  refine h.of_timers (h.wellFormed.remove id) fun f hf => ?_
  rwa [TimerTable.remove_callbacks] at hf

theorem flushTimers (h : T.Covers slot s.bindings) : T.Covers slot s.flushTimers.bindings :=
  h.of_timers h.wellFormed.flush fun _ hf =>
    (TimerTable.flush_callbacks_perm h.wellFormed).subset (List.mem_append_right _ hf)

theorem pinArrayTypes (h : T.Covers slot s.bindings) {module : ScriptModule}
    (howns : T.OwnsModule slot module) : T.Covers slot (s.pinArrayTypes module).bindings := by
  refine ⟨h.wellFormed, h.callbacks, ?_⟩
  intro type htype
  rcases List.mem_filterMap.mp htype with ⟨kind, -, hkind⟩
  cases kind <;> exact howns.arrayType _ type hkind

theorem releaseAll (s : Scene σ) : T.Covers slot s.releaseAll.bindings :=
  ⟨.clear _, nofun, nofun⟩

/-- The only callback that a host function keeps is one that it was passed. -/
theorem of_effect (h : T.Covers slot s.bindings) {function : HostFunction}
    {args : List HostArgument} (howns : ∀ f ∈ functionHandles args, T.owns slot f)
    {result : HostResult} (heffect : HostFunction.Effect function args result s t) :
    T.Covers slot t.bindings := by
  rcases heffect.consumes_callback h.wellFormed with ⟨stored, returned, displaced, hperm, habsorbs⟩
  refine ⟨heffect.wellFormed h.wellFormed, ?_, ?_⟩
  · intro f hf
    rcases List.mem_append.mp (habsorbs.entries_perm.subset (List.mem_append_right _ hf))
      with hstored | hheld
    · have hread : f ∈ (function.callback? args).toList :=
        hperm.symm.subset (List.mem_append_left _ hstored)
      have hpassed := Nat.lt_of_lt_of_le (List.count_pos_iff.mpr hread)
        (function.callback?_count_le args f)
      exact howns f (List.count_pos_iff.mp hpassed)
    · exact h.callbacks f hheld
  · rw [heffect.arrays_eq]
    exact h.arrays

end Covers

/-! ## Scenes -/

/-- What two scenes have become since two runs began. -/
structure ScenesMatch (T : Tenancy σ) (slot : String) (o : Outset σ) (hand hand' : Hand)
    (s s' : Scene σ) : Prop where
  machines : T.MachinesAgree slot o hand hand' s.machine s'.machine
  bindings : s'.bindings = s.bindings

/-- The scenes match, and nothing in them is not of the resource in the slot. -/
structure ScenesAgree (T : Tenancy σ) (slot : String) (o : Outset σ) (hand hand' : Hand)
    (s s' : Scene σ) : Prop extends T.ScenesMatch slot o hand hand' s s' where
  covers : T.Covers slot s.bindings

namespace ScenesMatch

theorem withBindings (h : T.ScenesMatch slot o hand hand' s s') (bindings : Bindings) :
    T.ScenesMatch slot o hand hand' { s with bindings } { s' with bindings } :=
  ⟨h.machines, rfl⟩

theorem releaseFunctions (h : T.ScenesMatch slot o hand hand' s s')
    (functions : List FunctionHandle) :
    T.ScenesMatch slot o hand hand' (s.releaseFunctions functions)
      (s'.releaseFunctions functions) :=
  ⟨h.machines.recordAll _, h.bindings⟩

theorem log (h : T.ScenesMatch slot o hand hand' s s') (notice : Notice) :
    T.ScenesMatch slot o hand hand' (s.log notice) (s'.log notice) :=
  ⟨h.machines.log notice, h.bindings⟩

theorem removeTimer (h : T.ScenesMatch slot o hand hand' s s') (id : UInt32) :
    T.ScenesMatch slot o hand hand' (s.removeTimer id) (s'.removeTimer id) := by
  refine ⟨h.machines, ?_⟩
  rw [Scene.bindings_removeTimer, Scene.bindings_removeTimer, h.bindings]

theorem registerHandler (h : T.ScenesMatch slot o hand hand' s s') (type : EventType)
    (callback : FunctionHandle) :
    T.ScenesMatch slot o hand hand' (s.registerHandler type callback)
      (s'.registerHandler type callback) := by
  refine ⟨?_, ?_⟩
  · unfold Scene.registerHandler
    rw [h.bindings]
    exact h.machines.log _
  · rw [Scene.bindings_registerHandler, Scene.bindings_registerHandler, h.bindings]

theorem registerCustomHandler (h : T.ScenesMatch slot o hand hand' s s') (name : String)
    (callback : FunctionHandle) (locality : Locality) :
    T.ScenesMatch slot o hand hand' (s.registerCustomHandler name callback locality)
      (s'.registerCustomHandler name callback locality) := by
  refine ⟨?_, ?_⟩
  · unfold Scene.registerCustomHandler
    rw [h.bindings]
    exact h.machines.log _
  · rw [Scene.bindings_registerCustomHandler, Scene.bindings_registerCustomHandler, h.bindings]

/-- The clocks show the same, so the timers are the same. -/
theorem createTimer (h : T.ScenesMatch slot o hand hand' s s') (delay : UInt32)
    (callback : FunctionHandle) (once : Bool) :
    SameAnswer (T.ScenesMatch slot o hand hand') (s.createTimer delay callback once)
      (s'.createTimer delay callback once) := by
  unfold Scene.createTimer
  rw [h.bindings, ← h.machines.now]
  exact .intro _ ((h.withBindings _).releaseFunctions _)

theorem pollTimer (h : T.ScenesMatch slot o hand hand' s s') (id : UInt32) :
    SameAnswer (T.ScenesMatch slot o hand hand') (s.pollTimer id) (s'.pollTimer id) := by
  unfold Scene.pollTimer
  rw [h.bindings, ← h.machines.now]
  exact .intro _ (h.withBindings _)

theorem flushTimers (h : T.ScenesMatch slot o hand hand' s s') :
    T.ScenesMatch slot o hand hand' s.flushTimers s'.flushTimers := by
  unfold Scene.flushTimers
  rw [h.bindings]
  exact (h.withBindings _).releaseFunctions _

theorem pinArrayTypes (h : T.ScenesMatch slot o hand hand' s s') (module : ScriptModule) :
    T.ScenesMatch slot o hand hand' (s.pinArrayTypes module) (s'.pinArrayTypes module) := by
  unfold Scene.pinArrayTypes
  rw [h.bindings]
  exact ⟨(h.machines.recordAll _).recordAll _, rfl⟩

theorem releaseAll (h : T.ScenesMatch slot o hand hand' s s') :
    T.ScenesMatch slot o hand hand' s.releaseAll s'.releaseAll := by
  unfold Scene.releaseAll
  rw [h.bindings]
  exact ⟨(h.machines.recordAll _).recordAll _, rfl⟩

end ScenesMatch

namespace ScenesAgree

theorem log (h : T.ScenesAgree slot o hand hand' s s') (notice : Notice) :
    T.ScenesAgree slot o hand hand' (s.log notice) (s'.log notice) :=
  ⟨h.toScenesMatch.log notice, h.covers⟩

theorem record (h : T.ScenesAgree slot o hand hand' s s') (entry : Entry) :
    T.ScenesAgree slot o hand hand' (s.record entry) (s'.record entry) :=
  ⟨⟨h.machines.record entry, h.bindings⟩, h.covers⟩

theorem removeTimer (h : T.ScenesAgree slot o hand hand' s s') (id : UInt32) :
    T.ScenesAgree slot o hand hand' (s.removeTimer id) (s'.removeTimer id) :=
  ⟨h.toScenesMatch.removeTimer id, h.covers.removeTimer id⟩

/-- The machines move on, and the bindings stay. -/
theorem onMachines (h : T.ScenesAgree slot o hand hand' s s') {held held' : Hand}
    {m m' : Machine σ} (hm : T.MachinesAgree slot o held held' m m') :
    T.ScenesAgree slot o held held' { s with machine := m } { s' with machine := m' } :=
  ⟨⟨hm, h.bindings⟩, h.covers⟩

/-- An operation of the interpreter that leaves the hands as they are. -/
theorem answer (h : T.ScenesAgree slot o hand hand' s s') {α : Type} {x x' : α × σ}
    (hx : T.Answers slot ⟨s.machine.engine, hand⟩ ⟨s'.machine.engine, hand'⟩
      (fun _ hand => hand) x x') :
    SameAnswer (T.ScenesAgree slot o hand hand') (x.1, s.setEngine x.2)
      (x'.1, s'.setEngine x'.2) := by
  rcases h.machines.answer hx with ⟨answer, engine, engine', rfl, rfl, hm⟩
  exact .intro _ (h.onMachines hm)

end ScenesAgree

/-! ## Host functions -/

theorem scene_createArray_agree (hT : T.Isolated interpreter)
    (h : T.ScenesAgree slot o hand hand' s s') (kind : ArrayKind) (items : List Value) :
    SameAnswer (T.ScenesAgree slot o hand hand') (s.createArray interpreter kind items)
      (s'.createArray interpreter kind items) := by
  rcases createArray_agree hT h.covers.arrays kind items h.machines
    with ⟨array, m, m', hx, hx', hm⟩
  unfold Scene.createArray
  rw [h.bindings, hx, hx']
  exact .intro _ ⟨⟨hm, rfl⟩, h.covers⟩

theorem run_match (hT : T.Isolated interpreter) (function : HostFunction) (userData : UserData)
    (args : List HostArgument) (h : T.ScenesAgree slot o hand hand' s s') :
    SameAnswer (T.ScenesMatch slot o hand hand') (function.run interpreter userData args s)
      (function.run interpreter userData args s') := by
  have hmatch := h.toScenesMatch
  -- what is read of the arguments is the same in both runs; a callback that is not kept goes back
  have hgiveBack : ∀ callback e, SameAnswer (T.ScenesMatch slot o hand hand')
      (HostFunction.giveBack callback e s) (HostFunction.giveBack callback e s') :=
    fun callback e => .intro _ (hmatch.releaseFunctions [callback])
  cases function with
  | setTimer delayIndex once =>
    simp only [HostFunction.run]
    cases functionAt args 0 with
    | error e => exact .intro _ hmatch
    | ok callback =>
      cases HostFunction.delayOf delayIndex args with
      | error e => exact hgiveBack callback e
      | ok delay =>
        simp only
        split
        · rcases hmatch.createTimer delay callback once with ⟨id, t, t', hx, hx', ht⟩
          rw [hx, hx']
          exact .intro _ ht
        · exact hgiveBack callback _
  | clearTimer =>
    simp only [HostFunction.run]
    cases uintAt args 0 with
    | error e => exact .intro _ hmatch
    | ok id =>
      simp only
      split
      · exact .intro _ (hmatch.removeTimer id)
      · exact .intro _ hmatch
  | onCustom locality =>
    simp only [HostFunction.run]
    cases functionAt args 1 with
    | error e => exact .intro _ hmatch
    | ok callback =>
      cases stringAt args 0 with
      | error e => exact hgiveBack callback e
      | ok name =>
        simp only
        split
        · exact .intro _ (hmatch.registerCustomHandler name callback locality)
        · exact hgiveBack callback _
  | createArray kind =>
    simp only [HostFunction.run]
    cases uintAt args 0 with
    | error e => exact .intro _ hmatch
    | ok length =>
      simp only
      split
      · rcases scene_createArray_agree hT h kind (List.replicate length.toNat kind.filling)
          with ⟨array, t, t', hx, hx', ht⟩
        rw [hx, hx']
        exact .intro _ ht.toScenesMatch
      · exact .intro _ hmatch
  | log =>
    simp only [HostFunction.run]
    cases stringAt args 0 with
    | error e => exact .intro _ hmatch
    | ok text =>
      simp only [h.bindings]
      exact .intro _ (hmatch.log _)
  | onEvent type =>
    simp only [HostFunction.run]
    cases functionAt args 0 with
    | error e => exact .intro _ hmatch
    | ok callback =>
      simp only
      split
      · exact .intro _ (hmatch.registerHandler type callback)
      · exact hgiveBack callback _

/-- A call of a host function finds the bindings of the caller only. -/
theorem runCounted_agree (hT : T.Isolated interpreter) (function : HostFunction)
    (userData : UserData) {args : List HostArgument}
    (howns : ∀ f ∈ functionHandles args, T.owns slot f)
    (h : T.ScenesAgree slot o hand hand' s s') :
    SameAnswer (T.ScenesAgree slot o hand hand')
      (function.runCounted interpreter userData args s)
      (function.runCounted interpreter userData args s') := by
  have hcounted := h.onMachines (h.machines.recordAll ((functionHandles args).map .retained))
  have heffect := function.run_effect interpreter userData args
    { s with machine := s.machine.recordAll ((functionHandles args).map .retained) }
  rcases run_match hT function userData args hcounted with ⟨result, t, t', hx, hx', ht⟩
  rw [hx] at heffect
  unfold HostFunction.runCounted
  simp only
  rw [hx, hx']
  have hagree : T.ScenesAgree slot o hand hand' t t' :=
    ⟨ht, hcounted.covers.of_effect howns heffect⟩
  exact .intro _ (hagree.record _)

/-! ## Script calls -/

theorem follow_run_agree (hT : T.Isolated interpreter) {engine engine' : σ}
    {run run' : ScriptRun σ}
    (habreast : ScriptRun.Abreast T slot hand hand' engine engine' run run')
    (hengine : s.machine.engine = engine) (hengine' : s'.machine.engine = engine')
    (h : T.ScenesAgree slot o hand hand' s s') :
    SameAnswer (T.ScenesAgree slot o hand hand') (run.follow interpreter s)
      (run'.follow interpreter s') := by
  -- the scenes are in step with the states that the two runs of the script have reached
  induction habreast generalizing s s' with
  | ended result hmoved =>
    subst hengine hengine'
    exact .intro _ (h.onMachines (h.machines.move hmoved))
  | reported report _ ih => exact ih hengine hengine' (h.record (.reported report))
  | waited offset _ ih => exact ih hengine hengine' (h.onMachines (h.machines.shift offset))
  | called function userData args howns hmoved _ ih =>
    subst hengine hengine'
    rcases runCounted_agree hT function userData howns (h.onMachines (h.machines.move hmoved))
      with ⟨result, t, t', hx, hx', ht⟩
    rw [ScriptRun.follow, ScriptRun.follow, Scene.setEngine, Scene.setEngine, hx, hx']
    -- the script goes on from wherever the host function has left the states
    exact ih _ _ result ht.machines.alike rfl rfl ht

section Calls

variable {context context' : ContextHandle}

theorem bindArgument_agree (hT : T.Isolated interpreter) (hcontext : hand.context? = some context)
    (hcontext' : hand'.context? = some context') (index : Nat) (argument : Argument)
    (h : T.ScenesAgree slot o hand hand' s s') :
    SameAnswer (T.ScenesAgree slot o hand hand')
      (s.bindArgument interpreter context index argument)
      (s'.bindArgument interpreter context' index argument) := by
  have hserves := hT h.machines.alike
  cases argument with
  | scalar value => exact h.answer (hserves.bindScalar hcontext hcontext' index value)
  | object object => exact h.answer (hserves.bindObject hcontext hcontext' index object)

theorem bindArguments_agree (hT : T.Isolated interpreter) (hcontext : hand.context? = some context)
    (hcontext' : hand'.context? = some context') (index : Nat) (args : List Argument)
    (h : T.ScenesAgree slot o hand hand' s s') :
    SameAnswer (T.ScenesAgree slot o hand hand')
      (s.bindArguments interpreter context index args)
      (s'.bindArguments interpreter context' index args) := by
  induction args generalizing index s s' with
  | nil => exact .intro _ h
  | cons argument rest ih =>
    rcases bindArgument_agree hT hcontext hcontext' index argument h
      with ⟨result, t, t', hx, hx', ht⟩
    rw [Scene.bindArguments, Scene.bindArguments, hx, hx']
    rcases result with e | ⟨⟩
    · exact .intro _ ht
    · exact ih (index + 1) ht

/-- A script function that is of the resource is called the same in both runs. -/
theorem call_agree (hT : T.Isolated interpreter) (hcontext : hand.context? = some context)
    (hcontext' : hand'.context? = some context') (cause : CallCause) {function : FunctionHandle}
    (howns : T.owns slot function) (args : List Argument)
    (h : T.ScenesAgree slot o hand hand' s s') :
    SameAnswer (T.ScenesAgree slot o hand hand')
      (s.call interpreter context cause function args)
      (s'.call interpreter context' cause function args) := by
  have hcalled := h.record (.called cause function args)
  rcases hcalled.machines.answer
      ((hT hcalled.machines.alike).prepare hcontext hcontext' howns)
    with ⟨prepared, engine, engine', hx, hx', hm⟩
  unfold Scene.call
  simp only
  rw [hx, hx']
  have hprepared := hcalled.onMachines hm
  rcases prepared with e | ⟨⟩
  · exact .intro _ hprepared
  · rcases bindArguments_agree hT hcontext hcontext' 0 args hprepared
      with ⟨bound, t, t', hx, hx', ht⟩
    simp only [Scene.setEngine]
    rw [hx, hx']
    rcases bound with e | ⟨⟩
    · exact .intro _ ht
    · exact follow_run_agree hT ((hT ht.machines.alike).execute hcontext hcontext') rfl rfl ht

end Calls

end Tenancy

end ScriptHost
