import ScriptHost.Proofs.Fleet.References
import ScriptHost.Proofs.Isolation.Scene

/-!
# Two runs of one resource

Two resources are `Tenancy.Twins` when they differ in nothing but the context they hold.  Whatever
operation the host asks of one resource in two runs, it answers the same, and the resources are
twins again (`Tenancy.perform_agree`).
-/

namespace ScriptHost

variable {σ : Type}

/-- What a resource holds of the interpreter between two operations. -/
def Resource.hand (r : Resource σ) : Hand :=
  { module? := r.module, context? := r.context }

/-- What becomes of the machine when a module is discarded, if there is one. -/
def Machine.discard (interpreter : Interpreter σ) (m : Machine σ) : Option ScriptModule → Machine σ
  | some module =>
    { m with engine := interpreter.discardModule m.engine module }.record
      (.moduleDiscarded module.name)
  | none => m

/-- What becomes of the machine when a context is released, if there is one. -/
def Machine.release (interpreter : Interpreter σ) (m : Machine σ) :
    Option ContextHandle → Machine σ
  | some context =>
    { m with engine := interpreter.releaseContext m.engine context }.record .contextReleased
  | none => m

theorem Resource.teardown_eq (interpreter : Interpreter σ) (r : Resource σ) (m : Machine σ) :
    r.teardown interpreter m =
      let s := (r.scene ((m.discard interpreter r.module).release interpreter r.context)).releaseAll
      ({ r.adopt s with module := none, context := none }, s.machine) := by
  unfold teardown
  cases r.module <;> cases r.context <;> rfl

namespace Tenancy

/-- The resource in a slot in two runs: what it has is its own, and the same but for the context. -/
structure Twins (T : Tenancy σ) (slot : String) (r r' : Resource σ) : Prop where
  same : ∃ context, r' = { r with context }
  contexts : r'.context.isSome = r.context.isSome
  name : r.name = T.name slot
  package : r.package = T.package slot
  covers : T.Covers slot r.bindings
  module : ∀ module, r.module = some module → T.OwnsModule slot module
  unstarted : r.phase = .uninitialized → r.module = none ∧ r.context = none

/-- What a resource and its machine have become since two runs began. -/
structure ResourcesAgree (T : Tenancy σ) (slot : String) (o : Outset σ)
    (p p' : Resource σ × Machine σ) : Prop where
  resources : T.Twins slot p.1 p'.1
  machines : T.MachinesAgree slot o p.1.hand p'.1.hand p.2 p'.2

variable {T : Tenancy σ} {interpreter : Interpreter σ} {slot : String} {o : Outset σ}
  {hand hand' : Hand} {r r' : Resource σ} {m m' : Machine σ} {s s' : Scene σ}

theorem Twins.left (hr : T.Twins slot r r') : T.Twins slot r r :=
  { hr with same := ⟨r.context, rfl⟩, contexts := rfl }

theorem Twins.bindings (hr : T.Twins slot r r') : r'.bindings = r.bindings := by
  obtain ⟨context, rfl⟩ := hr.same
  rfl

theorem Twins.registry (hr : T.Twins slot r r') : r'.registry = r.registry := by
  obtain ⟨context, rfl⟩ := hr.same
  rfl

theorem Twins.phase (hr : T.Twins slot r r') : r'.phase = r.phase := by
  obtain ⟨context, rfl⟩ := hr.same
  rfl

theorem Twins.name_eq (hr : T.Twins slot r r') : r'.name = r.name := by
  obtain ⟨context, rfl⟩ := hr.same
  rfl

theorem Twins.module_eq (hr : T.Twins slot r r') : r'.module = r.module := by
  obtain ⟨context, rfl⟩ := hr.same
  rfl

theorem Twins.isRunning (hr : T.Twins slot r r') : r'.isRunning = r.isRunning := by
  rw [Resource.isRunning, Resource.isRunning, hr.phase]

namespace ResourcesAgree

theorem twins (h : T.ResourcesAgree slot o (r, m) (r', m')) : T.Twins slot r r' :=
  h.resources

theorem scene (h : T.ResourcesAgree slot o (r, m) (r', m')) :
    T.ScenesAgree slot o r.hand r'.hand (r.scene m) (r'.scene m') :=
  ⟨⟨h.machines, h.twins.bindings⟩, h.twins.covers⟩

theorem log (h : T.ResourcesAgree slot o (r, m) (r', m')) (notice : Notice) :
    T.ResourcesAgree slot o (r, m.log notice) (r', m'.log notice) :=
  ⟨h.twins, h.machines.log notice⟩

/-- The resources go over into another phase, but not back to the first. -/
theorem atPhase {p p' : Resource σ × Machine σ} (h : T.ResourcesAgree slot o p p') {phase : Phase}
    (hphase : phase ≠ .uninitialized) :
    T.ResourcesAgree slot o ({ p.1 with phase }, p.2) ({ p'.1 with phase }, p'.2) := by
  obtain ⟨⟨⟨context, hsame⟩, hcontexts, hname, hpackage, hcovers, hmodule, -⟩, hmachines⟩ := h
  refine ⟨⟨⟨context, ?_⟩, hcontexts, hname, hpackage, hcovers, hmodule,
    fun h => absurd h hphase⟩, hmachines⟩
  rw [hsame]

end ResourcesAgree

/-- Both resources take over what has become of their scenes. -/
theorem Twins.adopt (hr : T.Twins slot r r') (h : T.ScenesAgree slot o r.hand r'.hand s s') :
    T.ResourcesAgree slot o (r.adopt s, s.machine) (r'.adopt s', s'.machine) := by
  obtain ⟨context, rfl⟩ := hr.same
  refine ⟨⟨⟨context, ?_⟩, hr.contexts, hr.name, hr.package, h.covers, hr.module, hr.unstarted⟩,
    h.machines⟩
  unfold Resource.adopt
  rw [h.bindings]

/-- Either both resources hold a context or none does. -/
theorem Twins.contexts_cases (hr : T.Twins slot r r') :
    (r.context = none ∧ r'.context = none) ∨
      ∃ context context', r.context = some context ∧ r'.context = some context' := by
  have hcontexts := hr.contexts
  cases hc : r.context with
  | none =>
    rw [hc] at hcontexts
    exact Or.inl ⟨rfl, Option.not_isSome_iff_eq_none.mp (by simp [hcontexts])⟩
  | some context =>
    rw [hc] at hcontexts
    obtain ⟨context', hc'⟩ := Option.isSome_iff_exists.mp hcontexts
    exact Or.inr ⟨context, context', rfl, hc'⟩

/-! ## Dispatching -/

section Calls

variable {context context' : ContextHandle}

theorem callHandlers_agree (hT : T.Isolated interpreter) (hr : T.Twins slot r r')
    (hcontext : hand.context? = some context) (hcontext' : hand'.context? = some context')
    (descriptor : EventDescriptor) (args : List Argument) (handlers : List FunctionHandle)
    (howns : ∀ f ∈ handlers, T.owns slot f) (h : T.ScenesAgree slot o hand hand' s s') :
    SameAnswer (T.ScenesAgree slot o hand hand')
      (r.callHandlers interpreter context descriptor args handlers s)
      (r'.callHandlers interpreter context' descriptor args handlers s') := by
  obtain ⟨held, rfl⟩ := hr.same
  induction handlers generalizing s s' with
  | nil => exact .intro _ h
  | cons handler rest ih =>
    have hrest : ∀ f ∈ rest, T.owns slot f := fun f hf => howns f (List.mem_cons_of_mem _ hf)
    rcases call_agree hT hcontext hcontext' (.event descriptor.type)
        (howns handler List.mem_cons_self) args h with ⟨result, t, t', hx, hx', ht⟩
    simp only [Resource.callHandlers, hx, hx']
    rcases result with e | _ | _ | _ | info
    · exact .intro _ (ht.log _)
    · simp only
      split
      · rw [(hT ht.machines.alike).returnByte hcontext hcontext']
        exact .intro _ ht
      · exact ih hrest ht
    · exact ih hrest (ht.log _)
    · exact ih hrest (ht.log _)
    · exact ih hrest (ht.log _)

theorem callCustomHandlers_agree (hT : T.Isolated interpreter) (hr : T.Twins slot r r')
    (hcontext : hand.context? = some context) (hcontext' : hand'.context? = some context')
    (name : String) (locality : Locality) (args : List Argument) (handlers : List FunctionHandle)
    (howns : ∀ f ∈ handlers, T.owns slot f) (h : T.ScenesAgree slot o hand hand' s s') :
    T.ScenesAgree slot o hand hand'
      (r.callCustomHandlers interpreter context name locality args handlers s)
      (r'.callCustomHandlers interpreter context' name locality args handlers s') := by
  obtain ⟨held, rfl⟩ := hr.same
  induction handlers generalizing s s' with
  | nil => exact h
  | cons handler rest ih =>
    have hrest : ∀ f ∈ rest, T.owns slot f := fun f hf => howns f (List.mem_cons_of_mem _ hf)
    rcases call_agree hT hcontext hcontext' (.custom locality name)
        (howns handler List.mem_cons_self) args h with ⟨result, t, t', hx, hx', ht⟩
    simp only [Resource.callCustomHandlers, hx, hx']
    rcases result with e | _ | _ | _ | info
    · exact ih hrest (ht.log _)
    · exact ih hrest ht
    · exact ih hrest ht
    · exact ih hrest ht
    · exact ih hrest (ht.log _)

end Calls

theorem Covers.callbacksOf {bindings : Bindings} (h : T.Covers slot bindings) (name : String)
    (locality : Locality) : ∀ f ∈ bindings.custom.callbacksOf name locality, T.owns slot f := by
  intro f hf
  rcases List.mem_map.mp hf with ⟨handler, hhandler, rfl⟩
  have hcallback : handler.callback ∈ bindings.custom.callbacks :=
    List.mem_map_of_mem (List.mem_filter.mp hhandler).1
  exact h.callbacks _ (List.mem_append_left _ (List.mem_append_right _ hcallback))

theorem Covers.handlersOf {bindings : Bindings} (h : T.Covers slot bindings) (type : EventType) :
    ∀ f ∈ bindings.handlersOf type, T.owns slot f := by
  intro f hf
  rcases List.mem_map.mp hf with ⟨handler, hhandler, rfl⟩
  have hcallback : handler.2 ∈ bindings.handlers.map (·.2) :=
    List.mem_map_of_mem (List.mem_filter.mp hhandler).1
  exact h.callbacks _ (List.mem_append_left _ (List.mem_append_left _ hcallback))

theorem dispatchCustom_agree (hT : T.Isolated interpreter) (name : String) (locality : Locality)
    (sender : Option Entity) (values : List Value)
    (h : T.ResourcesAgree slot o (r, m) (r', m')) :
    T.ResourcesAgree slot o (r.dispatchCustom interpreter name locality sender values m)
      (r'.dispatchCustom interpreter name locality sender values m') := by
  have hr := h.twins
  have hscene := h.scene
  unfold Resource.dispatchCustom
  rw [hr.isRunning, hr.bindings]
  split
  · exact h
  · simp only
    split
    · exact h.log _
    · rcases scene_createArray_agree hT hscene .any values with ⟨array, s, s', hx, hx', hs⟩
      rw [hx, hx']
      rcases hr.contexts_cases with ⟨hc, hc'⟩ | ⟨context, context', hc, hc'⟩
      · rw [hc, hc']
        exact hr.adopt hs
      · rw [hc, hc']
        exact hr.adopt (callCustomHandlers_agree hT hr hc hc' name locality _ _
          (hr.covers.callbacksOf name locality) hs)

theorem dispatchHost_agree (hT : T.Isolated interpreter) (event : HostEvent)
    (h : T.ResourcesAgree slot o (r, m) (r', m')) :
    SameAnswer (T.ResourcesAgree slot o) (r.dispatchHost interpreter event m)
      (r'.dispatchHost interpreter event m') := by
  have hr := h.twins
  have hscene := h.scene
  unfold Resource.dispatchHost
  rw [hr.registry, hr.bindings]
  cases r.registry.lookup? event.type with
  | none => exact .intro _ (h.log _)
  | some descriptor =>
    simp only
    split
    · exact .intro _ h
    · rcases marshal_agree hT hr.covers.arrays descriptor event h.machines
        with ⟨marshaled, m₁, m₁', hx, hx', h₁⟩
      rw [hx, hx']
      cases marshaled with
      | error fault => exact .intro _ ⟨hr, h₁⟩
      | ok args =>
        have hmarshaled : T.ResourcesAgree slot o (r, m₁) (r', m₁') := ⟨hr, h₁⟩
        rcases hr.contexts_cases with ⟨hc, hc'⟩ | ⟨context, context', hc, hc'⟩
        · rw [hc, hc']
          exact .intro _ hmarshaled
        · rw [hc, hc']
          rcases callHandlers_agree hT hr hc hc' descriptor args _
              (hr.covers.handlersOf event.type) hmarshaled.scene
            with ⟨stands, t, t', hx, hx', ht⟩
          simp only
          rw [hx, hx']
          exact .intro _ (hr.adopt ht)

theorem onEvent_agree (hT : T.Isolated interpreter) (event : HostEvent)
    (h : T.ResourcesAgree slot o (r, m) (r', m')) :
    SameAnswer (T.ResourcesAgree slot o) (r.onEvent interpreter event m)
      (r'.onEvent interpreter event m') := by
  unfold Resource.onEvent
  rw [h.twins.isRunning]
  split
  · exact .intro _ h
  · cases event with
    | localScriptEvent name values =>
      exact .intro _ (dispatchCustom_agree hT name .here none values h)
    | remoteScriptEvent name player values =>
      exact .intro _ (dispatchCustom_agree hT name .remote (some player) values h)
    | _ => exact dispatchHost_agree hT _ h

/-! ## Ticks -/

theorem runTimer_agree (hT : T.Isolated interpreter) (hr : T.Twins slot r r') (id : UInt32)
    (h : T.ScenesAgree slot o r.hand r'.hand s s') :
    T.ScenesAgree slot o r.hand r'.hand (r.runTimer interpreter r.context id s)
      (r'.runTimer interpreter r'.context id s') := by
  have hcovers := h.covers.pollTimer id
  have hpolled := s.bindings.timers.poll_cases id s.machine.now
  rcases h.pollTimer id with ⟨answer, t, t', hx, hx', ht⟩
  have hanswer : (s.bindings.timers.poll id s.machine.now).1 = answer := congrArg Prod.fst hx
  rw [hx] at hcovers
  have hagree : T.ScenesAgree slot o r.hand r'.hand t t' := ⟨ht, hcovers⟩
  -- the tables and the clocks are the same, so the timer is due in both runs or in none
  unfold Resource.runTimer
  rw [hx, hx']
  rcases hpolled with hpoll | hpoll | ⟨timer, hdue, hpoll⟩
  all_goals rw [hpoll] at hanswer; subst hanswer
  · exact hagree
  · exact hagree
  · have howns : T.owns slot timer.callback :=
      h.covers.callbacks _ (List.mem_append_right _
        (List.mem_map_of_mem (Keyed.mem_of_find? hdue.found)))
    -- the timer is retired in both runs or in none
    have hend : ∀ {u u' : Scene σ}, T.ScenesAgree slot o r.hand r'.hand u u' →
        T.ScenesAgree slot o r.hand r'.hand (if timer.once then u.removeTimer id else u)
          (if timer.once then u'.removeTimer id else u') := by
      intro u u' hu
      split
      · exact hu.removeTimer id
      · exact hu
    rcases hr.contexts_cases with ⟨hc, hc'⟩ | ⟨context, context', hc, hc'⟩
    · rw [hc, hc']
      exact hend hagree
    · rcases call_agree hT hc hc' (.timer id) howns [] hagree
        with ⟨result, u, u', hx, hx', hu⟩
      obtain ⟨held, rfl⟩ := hr.same
      rw [hc, hc']
      simp only [hx, hx']
      rcases result with e | _ | _ | _ | info
      · exact hend (hu.log _)
      · exact hend hu
      · exact hend hu
      · exact hend hu
      · exact hend (hu.log _)

theorem onTick_agree (hT : T.Isolated interpreter) (h : T.ResourcesAgree slot o (r, m) (r', m')) :
    T.ResourcesAgree slot o (r.onTick interpreter m) (r'.onTick interpreter m') := by
  have hr := h.twins
  have hflushed : T.ScenesAgree slot o r.hand r'.hand (r.scene m).flushTimers
      (r'.scene m').flushTimers :=
    ⟨h.scene.flushTimers, h.scene.covers.flushTimers⟩
  have hrun : ∀ (ids : List UInt32) {s s' : Scene σ}, T.ScenesAgree slot o r.hand r'.hand s s' →
      T.ScenesAgree slot o r.hand r'.hand
        (ids.foldl (fun s id => r.runTimer interpreter r.context id s) s)
        (ids.foldl (fun s id => r'.runTimer interpreter r'.context id s) s') := by
    intro ids
    induction ids with
    | nil => exact id
    | cons id rest ih => exact fun hs => ih (runTimer_agree hT hr id hs)
  unfold Resource.onTick
  rw [hr.isRunning]
  split
  · exact h
  · simp only
    rw [hflushed.bindings]
    exact hr.adopt (hrun _ hflushed)

/-! ## Starting -/

/-- A resource that holds no context is its own twin. -/
theorem Twins.of_idle (hname : r.name = T.name slot) (hpackage : r.package = T.package slot)
    (hcovers : T.Covers slot r.bindings) (hmodule : r.module = none)
    (hcontext : r.context = none) : T.Twins slot r r :=
  ⟨⟨_, rfl⟩, rfl, hname, hpackage, hcovers, by simp [hmodule], fun _ => ⟨hmodule, hcontext⟩⟩

theorem enterModule_agree (hT : T.Isolated interpreter) {context context' : ContextHandle}
    (hcontext : r.context = some context) (hcontext' : r'.context = some context')
    {module : ScriptModule} (howns : T.OwnsModule slot module)
    (h : T.ResourcesAgree slot o (r, m) (r', m')) :
    SameAnswer (T.ResourcesAgree slot o) (r.enterModule interpreter module context m)
      (r'.enterModule interpreter module context' m') := by
  have hr := h.twins
  have hscene := h.scene
  have hfound : ∀ f, module.entrypoint?.or (module.function? startDeclaration) = some f →
      T.owns slot f := by
    intro f hf
    rcases Option.or_eq_some_iff.mp hf with hf | ⟨-, hf⟩
    · exact howns.entrypoint f hf
    · exact howns.function _ f hf
  unfold Resource.enterModule
  cases hentry : module.entrypoint?.or (module.function? startDeclaration) with
  | none =>
    obtain ⟨held, rfl⟩ := hr.same
    exact .intro _ (h.log _)
  | some entrypoint =>
    rcases call_agree hT hcontext hcontext' .entrypoint (hfound _ hentry) [] hscene
      with ⟨result, s, s', hx, hx', hs⟩
    simp only [hx, hx']
    cases result with
    | error e =>
      have hend := hr.adopt hs
      obtain ⟨held, rfl⟩ := hr.same
      exact .intro _ hend
    | ok outcome =>
      have hlogged : T.ScenesAgree slot o r.hand r'.hand (r.logEntrypoint outcome s)
          (r'.logEntrypoint outcome s') := by
        obtain ⟨held, rfl⟩ := hr.same
        cases outcome with
        | finished => exact hs
        | suspended | aborted | exception => exact hs.log _
      exact .intro _ (hr.adopt
        ⟨hlogged.toScenesMatch.pinArrayTypes module, hlogged.covers.pinArrayTypes howns⟩)

theorem startModule_agree (hT : T.Isolated interpreter) (hr : T.Twins slot r r)
    (hmodule : r.module = none) (hcontext : r.context = none) (hphase : r.phase ≠ .uninitialized)
    (h : T.MachinesAgree slot o {} {} m m') :
    SameAnswer (T.ResourcesAgree slot o) (r.startModule interpreter m)
      (r.startModule interpreter m') := by
  have hhand : r.hand = {} := by rw [Resource.hand, hmodule, hcontext]
  have hfailed : ∀ {n n' : Machine σ}, T.MachinesAgree slot o {} {} n n' →
      T.ResourcesAgree slot o (r, n) (r, n') := by
    intro n n' hn
    rw [← hhand] at hn
    exact ⟨hr, hn⟩
  have hread := readSource_agree hT rfl rfl r.main h
  rw [← hr.package] at hread
  rcases hread with ⟨source, m₁, m₁', hx, hx', h₁⟩
  unfold Resource.startModule
  rw [hx, hx']
  cases source with
  | error fault => exact .intro _ (hfailed h₁)
  | ok source =>
    rcases compile_agree hT hr.name hr.package source h₁
      with ⟨compiled, m₂, m₂', hx, hx', h₂, howns⟩
    simp only
    rw [hx, hx']
    cases compiled with
    | error e => exact .intro _ (hfailed h₂)
    | ok module =>
      have hmodule := howns module rfl
      have hcreated := (h₂.move ((hT h₂.alike).createContext rfl rfl)).record .contextCreated
      have htwins : ∀ context context', T.Twins slot
          { r with module := some module, context := some context }
          { r with module := some module, context := some context' } := by
        intro context context'
        refine ⟨⟨some context', rfl⟩, rfl, hr.name, hr.package, hr.covers, ?_, ?_⟩
        · rintro _ ⟨⟩
          exact hmodule
        · exact fun h => absurd h hphase
      exact enterModule_agree hT rfl rfl hmodule ⟨htwins _ _, hcreated⟩

/-! ## Stopping -/

/-- The bindings have given back what they held, and neither module nor context is left. -/
theorem ScenesAgree.torn (hr : T.Twins slot r r') (h : T.ScenesAgree slot o {} {} s s') :
    T.ResourcesAgree slot o ({ r.adopt s with module := none, context := none }, s.machine)
      ({ r'.adopt s' with module := none, context := none }, s'.machine) := by
  obtain ⟨held, rfl⟩ := hr.same
  refine ⟨⟨⟨none, ?_⟩, rfl, hr.name, hr.package, h.covers, nofun, fun _ => ⟨rfl, rfl⟩⟩, h.machines⟩
  simp only [Resource.adopt]
  rw [h.bindings]

/-- Module and context are given up in turn, and then all that the bindings hold. -/
theorem teardown_agree (hT : T.Isolated interpreter)
    (h : T.ResourcesAgree slot o (r, m) (r', m')) :
    T.ResourcesAgree slot o (r.teardown interpreter m) (r'.teardown interpreter m') := by
  have hr := h.twins
  have hmachines : T.MachinesAgree slot o { module? := r.module, context? := r.context }
      { module? := r'.module, context? := r'.context } m m' := h.machines
  rw [hr.module_eq] at hmachines
  have hdiscarded : T.MachinesAgree slot o { context? := r.context } { context? := r'.context }
      (m.discard interpreter r.module) (m'.discard interpreter r.module) := by
    cases hheld : r.module with
    | none =>
      rw [hheld] at hmachines
      exact hmachines
    | some module =>
      rw [hheld] at hmachines
      exact (hmachines.move ((hT hmachines.alike).discardModule rfl rfl)).record _
  -- the contexts may have different numbers, but either both are released or there are none
  have hreleased : T.MachinesAgree slot o {} {}
      ((m.discard interpreter r.module).release interpreter r.context)
      ((m'.discard interpreter r.module).release interpreter r'.context) := by
    rcases hr.contexts_cases with ⟨hc, hc'⟩ | ⟨context, context', hc, hc'⟩
    · rw [hc, hc'] at hdiscarded ⊢
      exact hdiscarded
    · rw [hc, hc'] at hdiscarded ⊢
      exact (hdiscarded.move ((hT hdiscarded.alike).releaseContext rfl rfl)).record _
  have hscene : T.ScenesMatch slot o {} {} (r.scene _) (r'.scene _) := ⟨hreleased, hr.bindings⟩
  rw [Resource.teardown_eq, Resource.teardown_eq, hr.module_eq]
  exact ScenesAgree.torn hr ⟨hscene.releaseAll, .releaseAll _⟩

theorem tryStart_agree (hT : T.Isolated interpreter)
    (h : T.ResourcesAgree slot o (r, m) (r', m')) :
    SameAnswer (T.ResourcesAgree slot o) (r.tryStart interpreter m)
      (r'.tryStart interpreter m') := by
  have hr := h.twins
  unfold Resource.tryStart
  rw [hr.phase]
  split
  · obtain ⟨held, rfl⟩ := hr.same
    exact .intro _ h
  · next hphase =>
    have hnew : r.phase = .uninitialized := Classical.not_not.mp hphase
    rcases hr.unstarted hnew with ⟨hmodule, hcontext⟩
    -- neither holds a context yet, so the two runs have the same resource
    have hsame : r' = r := by
      obtain ⟨held, rfl⟩ := hr.same
      have hheld : held = r.context := by
        rcases hr.contexts_cases with ⟨hc, hc'⟩ | ⟨context, context', hc, hc'⟩
        · exact hc'.trans hc.symm
        · rw [hcontext] at hc
          cases hc
      rw [hheld]
    subst hsame
    have hhand : r'.hand = {} := by rw [Resource.hand, hmodule, hcontext]
    have hcompiling :
        T.Twins slot { r' with phase := .compiling } { r' with phase := .compiling } :=
      .of_idle hr.name hr.package hr.covers hmodule hcontext
    have hmachines := (h.log (.startingResource r'.name)).machines
    rw [hhand] at hmachines
    rcases startModule_agree hT hcompiling hmodule hcontext nofun hmachines
      with ⟨result, ⟨r₁, m₁⟩, ⟨r₁', m₁'⟩, hx, hx', h₁⟩
    simp only [hx, hx']
    cases result with
    | error e =>
      exact .intro _ ((teardown_agree hT h₁).atPhase nofun)
    | ok =>
      have hrunning : T.ResourcesAgree slot o ({ r₁ with phase := .running }, m₁)
          ({ r₁' with phase := .running }, m₁') := h₁.atPhase nofun
      obtain ⟨held, rfl⟩ := h₁.twins.same
      exact .intro _ (hrunning.log _)

theorem start_agree (hT : T.Isolated interpreter)
    (h : T.ResourcesAgree slot o (r, m) (r', m')) :
    SameAnswer (T.ResourcesAgree slot o) (r.start interpreter m) (r'.start interpreter m') := by
  rcases tryStart_agree hT h with ⟨result, ⟨r₁, m₁⟩, ⟨r₁', m₁'⟩, hx, hx', h₁⟩
  unfold Resource.start
  rw [hx, hx']
  obtain ⟨held, rfl⟩ := h₁.twins.same
  cases result with
  | error e => exact .intro _ (h₁.log _)
  | ok => exact .intro _ h₁

theorem callStop_agree (hT : T.Isolated interpreter) (hr : T.Twins slot r r')
    {context context' : ContextHandle} (hcontext : hand.context? = some context)
    (hcontext' : hand'.context? = some context') {module : ScriptModule}
    (howns : T.OwnsModule slot module) (h : T.ScenesAgree slot o hand hand' s s') :
    T.ScenesAgree slot o hand hand' (r.callStop interpreter module context s)
      (r'.callStop interpreter module context' s') := by
  obtain ⟨held, rfl⟩ := hr.same
  unfold Resource.callStop
  cases hfunction : module.function? stopDeclaration with
  | none => exact h
  | some function =>
    rcases call_agree hT hcontext hcontext' .stop (howns.function _ function hfunction) [] h
      with ⟨result, t, t', hx, hx', ht⟩
    simp only [hx, hx']
    rcases result with e | _ | _ | _ | info
    · exact ht.log _
    · exact ht
    · exact ht
    · exact ht
    · exact ht.log _

theorem leaveModule_agree (hT : T.Isolated interpreter)
    (h : T.ResourcesAgree slot o (r, m) (r', m')) :
    T.ResourcesAgree slot o (r.leaveModule interpreter m) (r'.leaveModule interpreter m') := by
  have hr := h.twins
  have hstopping := (h.log (.stoppingResource r.name)).scene
  unfold Resource.leaveModule
  rw [hr.module_eq, hr.name_eq]
  cases hmodule : r.module with
  | none => exact h
  | some module =>
    rcases hr.contexts_cases with ⟨hc, hc'⟩ | ⟨context, context', hc, hc'⟩
    · rw [hc, hc']
      exact h
    · rw [hc, hc']
      exact hr.adopt (callStop_agree hT hr hc hc' (hr.module module hmodule) hstopping)

theorem stop_agree (hT : T.Isolated interpreter)
    (h : T.ResourcesAgree slot o (r, m) (r', m')) :
    SameAnswer (T.ResourcesAgree slot o) (r.stop interpreter m) (r'.stop interpreter m') :=
  .intro _ ((teardown_agree hT (leaveModule_agree hT h)).atPhase nofun)

/-! ## Operations -/

/-- One operation, on one resource in two runs: the answers are the same, what is recorded is the
same, and afterwards the resource still cannot tell the runs apart. -/
theorem perform_agree (hT : T.Isolated interpreter) {operation : Operation}
    (hop : operation.ByHost) (h : T.ResourcesAgree slot o (r, m) (r', m')) :
    SameAnswer (T.ResourcesAgree slot o) (r.perform interpreter operation m)
      (r'.perform interpreter operation m') := by
  cases operation with
  | start => exact (start_agree hT h).map Answer.flag
  | tryStart => exact (tryStart_agree hT h).map Answer.started
  | stop => exact (stop_agree hT h).map Answer.flag
  | event event => exact (onEvent_agree hT event h).map Answer.handled
  | tick => exact .intro _ (onTick_agree hT h)
  | dispatch name locality sender values =>
    exact .intro _ (dispatchCustom_agree hT name locality sender values h)
  | hostCall => exact hop.elim

/-- The end of a resource leaves nothing in its hand. -/
theorem drop_agree (hT : T.Isolated interpreter) (h : T.ResourcesAgree slot o (r, m) (r', m')) :
    T.MachinesAgree slot o {} {} (r.drop interpreter m) (r'.drop interpreter m') := by
  have hr := h.twins
  -- what is left when module and context are gone are the bindings
  have hend : ∀ {p p' : Resource σ × Machine σ}, T.ResourcesAgree slot o p p' →
      p.1.module = none → p.1.context = none →
      T.MachinesAgree slot o {} {} (p.1.scene p.2).releaseAll.machine
        (p'.1.scene p'.2).releaseAll.machine := by
    intro p p' hp hmodule hcontext
    have hreleased := hp.scene.toScenesMatch.releaseAll.machines
    have hcontext' : p'.1.context = none := by
      have hcontexts := hp.resources.contexts
      rw [hcontext] at hcontexts
      exact Option.not_isSome_iff_eq_none.mp (by simp [hcontexts])
    rw [Resource.hand, Resource.hand, hp.resources.module_eq, hmodule, hcontext, hcontext']
      at hreleased
    exact hreleased
  unfold Resource.drop
  rw [hr.module_eq, hr.contexts]
  by_cases hheld : (r.module.isSome || r.context.isSome) = true
  · rw [if_pos hheld, if_pos hheld]
    exact hend (stop_agree hT h).states rfl rfl
  · rw [if_neg hheld, if_neg hheld]
    have hnone : r.module = none ∧ r.context = none := by simpa [not_or] using hheld
    exact hend h hnone.1 hnone.2

end Tenancy

end ScriptHost
