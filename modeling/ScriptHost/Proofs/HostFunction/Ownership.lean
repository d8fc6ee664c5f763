import ScriptHost.Proofs.HostFunction.References
import ScriptHost.Proofs.Resource.Reachable

/-!
# Who owns the references that come with arguments

A call consumes a reference when it stores it in a new entry of the bindings or gives it back, once.
`Effect.absorbs` says that the callback of every host function is consumed, whether the call is
answered or fails.  No host function looks at function handles that are passed in other places, so
that exactly the calls without such handles consume everything they are given
(`consumes_iff_wellPlaced`).
-/

namespace ScriptHost

variable {σ : Type}

namespace Scene

/-- From one scene to the next, references to the `stored` functions have gone into new entries of
the bindings, and references to those `returned` have been given back.  An entry that makes way for
a new one gives back its own callback, one of the `displaced`. -/
structure Absorbs (stored returned displaced : List FunctionHandle) (s t : Scene σ) : Prop where
  entries_perm : (displaced ++ t.bindings.callbacks).Perm (stored ++ s.bindings.callbacks)
  released_eq : t.machine.journal.viewed Entry.released?
    = s.machine.journal.viewed Entry.released? ++ (returned ++ displaced)
  retained_eq : t.machine.journal.viewed Entry.retained?
    = s.machine.journal.viewed Entry.retained?

/-- Each of the references that come with the handles is in one new entry afterwards, or has been
given back once. -/
def Consumes (handles : List FunctionHandle) (s t : Scene σ) : Prop :=
  ∃ stored returned displaced,
    handles.Perm (stored ++ returned) ∧ s.Absorbs stored returned displaced t

variable {stored returned displaced : List FunctionHandle} {s t : Scene σ}

theorem Absorbs.surplus_eq (h : s.Absorbs stored returned displaced t) (f : FunctionHandle) :
    t.surplus f + (stored ++ returned).count f = s.surplus f := by
  have hentries := h.entries_perm.count_eq f
  rw [List.count_append, List.count_append] at hentries
  unfold surplus
  rw [Journal.functionBalance_eq_count, Journal.functionBalance_eq_count, h.released_eq,
    h.retained_eq]
  simp only [List.count_append]
  omega

/-- An activity that leaves callbacks and references alone absorbs nothing. -/
theorem absorbs_of_quiet (hentries : t.bindings.callbacks = s.bindings.callbacks)
    (hgrows : s.machine.journal.Grows Entry.Quiet t.machine.journal) :
    s.Absorbs [] [] [] t := by
  refine ⟨?_, ?_, hgrows.viewed_eq fun _ he => he.retained?_eq⟩
  · rw [hentries]
  · rw [hgrows.viewed_eq fun _ he => he.released?_eq, List.append_nil, List.append_nil]

end Scene

namespace HostFunction

/-! ## The callback -/

section Effect

variable {function : HostFunction} {args : List HostArgument} {result : HostResult}
  {s t : Scene σ}

/-- A call that is answered has stored its callback, and one that fails has given it back. -/
theorem Effect.absorbs (h : Effect function args result s t)
    (hs : s.bindings.timers.WellFormed) :
    ∃ displaced,
      match result with
      | .ok _ => s.Absorbs (function.callback? args).toList [] displaced t
      | .error _ => s.Absorbs [] (function.callback? args).toList displaced t := by
  cases h with
  | refused s h =>
    refine ⟨[], ?_⟩
    rw [h]
    exact Scene.absorbs_of_quiet rfl (.refl _)
  | @gaveBack function args e callback s h =>
    refine ⟨[], ?_⟩
    rw [h]
    exact ⟨List.Perm.refl _, by simp [Entry.released?], by simp [Entry.retained?]⟩
  | @createdTimer delayIndex once args callback s delay h =>
    have hread : (setTimer delayIndex once).callback? args = some callback :=
      callback?_eq_some rfl h
    have hperm := TimerTable.create_callbacks_perm hs (milliseconds delay.toNat) callback once
      s.machine.now
    refine ⟨(s.bindings.timers.create (milliseconds delay.toNat) callback once
      s.machine.now).2.1.toList, ?_, ?_, ?_⟩
    · rw [hread]
      refine List.perm_iff_count.mpr fun f => ?_
      have hcount := hperm.count_eq f
      rw [List.count_append, List.count_cons] at hcount
      simp only [Scene.bindings_createTimer, Bindings.callbacks, List.count_append,
        Option.toList_some, List.count_singleton]
      omega
    · rw [Scene.journal_createTimer, Journal.viewed_append, Entry.filterMap_released?_map]
      rfl
    · rw [Scene.journal_createTimer]
      exact Journal.viewed_append_map _ (fun _ => rfl) _ _
  | clearedTimer s id =>
    refine ⟨[], Scene.absorbs_of_quiet ?_ (.refl _)⟩
    rw [Scene.bindings_removeTimer, Bindings.callbacks, TimerTable.remove_callbacks]
    rfl
  | @subscribedCustom locality args callback s name h =>
    have hread : (onCustom locality).callback? args = some callback := callback?_eq_some rfl h
    refine ⟨[], ?_, by simp [Entry.released?], by simp [Entry.retained?]⟩
    rw [hread]
    refine List.perm_iff_count.mpr fun f => ?_
    simp only [Scene.bindings_registerCustomHandler, Bindings.callbacks, CustomHandlers.register,
      CustomHandlers.callbacks, List.map_append, List.map_cons, List.map_nil, List.count_append,
      List.count_nil, Option.toList_some]
    omega
  | @subscribed type args callback s h =>
    have hread : (onEvent type).callback? args = some callback := callback?_eq_some rfl h
    refine ⟨[], ?_, by simp [Entry.released?], by simp [Entry.retained?]⟩
    rw [hread]
    refine List.perm_iff_count.mpr fun f => ?_
    simp only [Scene.bindings_registerHandler, Bindings.callbacks, List.map_append, List.map_cons,
      List.map_nil, List.count_append, List.count_nil, Option.toList_some]
    omega
  | @createdArray kind args array s engine notices hn =>
    refine ⟨[], Scene.absorbs_of_quiet rfl ?_⟩
    exact (Journal.Grows.refl _).append (by simp [Entry.Quiet])
  | @logged args s resource text =>
    refine ⟨[], Scene.absorbs_of_quiet rfl ?_⟩
    exact (Journal.Grows.refl _).push trivial

/-- Whichever way the call ends, the reference to its callback is consumed. -/
theorem Effect.consumes_callback (h : Effect function args result s t)
    (hs : s.bindings.timers.WellFormed) : s.Consumes (function.callback? args).toList t := by
  obtain ⟨displaced, habsorbs⟩ := h.absorbs hs
  cases result with
  | ok answer => exact ⟨_, [], displaced, by rw [List.append_nil], habsorbs⟩
  | error e => exact ⟨[], _, displaced, List.Perm.refl _, habsorbs⟩

end Effect

/-! ## The other handles -/

theorem two_le_length_filterMap {α β : Type} {view : α → Option β} {l : List α} {i j : Nat}
    {a b : α} {x y : β} (hij : i < j) (hi : l[i]? = some a) (hj : l[j]? = some b)
    (ha : view a = some x) (hb : view b = some y) : 2 ≤ (l.filterMap view).length := by
  -- one of the two is before the cut at `j`, the other after it
  have hbefore : x ∈ (l.take j).filterMap view := by
    refine List.mem_filterMap.mpr ⟨a, ?_, ha⟩
    exact List.mem_of_getElem? ((List.getElem?_take_of_lt hij).trans hi)
  have hafter : y ∈ (l.drop j).filterMap view := by
    refine List.mem_filterMap.mpr ⟨b, ?_, hb⟩
    have hzero : (l.drop j)[0]? = some b := by
      rw [List.getElem?_drop, Nat.add_zero, hj]
    exact List.mem_of_getElem? hzero
  have hone := List.length_pos_of_mem hbefore
  have htwo := List.length_pos_of_mem hafter
  rw [← List.take_append_drop j l, List.filterMap_append, List.length_append]
  omega

/-- The callback is the only function handle exactly if all handles are well placed. -/
theorem wellPlaced_iff {function : HostFunction} {args : List HostArgument} :
    function.WellPlaced args ↔ functionHandles args = (function.callback? args).toList := by
  refine ⟨WellPlaced.functionHandles_eq, ?_⟩
  intro heq index handle hhandle
  have hmem : handle ∈ functionHandles args :=
    List.mem_filterMap.mpr ⟨_, List.mem_of_getElem? hhandle, rfl⟩
  have hlength : (functionHandles args).length ≤ 1 := by
    rw [heq]
    exact Option.length_toList_le
  cases hcallback : function.callback? args with
  | none =>
    rw [heq, hcallback] at hmem
    cases hmem
  | some callback =>
    rw [callback?_eq, Option.bind_eq_some_iff] at hcallback
    obtain ⟨place, hplace, hcallback⟩ := hcallback
    obtain ⟨argument, hargument, hfunction⟩ := Option.bind_eq_some_iff.mp hcallback
    have hshown : (HostArgument.function handle).function? = some handle := rfl
    rw [functionHandles_eq] at hlength
    rcases Nat.lt_trichotomy index place with hlt | rfl | hgt
    · have htwo := two_le_length_filterMap hlt hhandle hargument hshown hfunction
      omega
    · exact hplace
    · have htwo := two_le_length_filterMap hgt hargument hhandle hfunction hshown
      omega

section Run

variable (interpreter : Interpreter σ) (function : HostFunction) (userData : UserData)
  (args : List HostArgument) {s : Scene σ}

/-- What a call consumes is the callback and nothing else. -/
theorem perm_callback_of_consumes (hs : s.bindings.timers.WellFormed)
    {handles : List FunctionHandle}
    (h : s.Consumes handles (function.run interpreter userData args s).2) :
    handles.Perm (function.callback? args).toList := by
  obtain ⟨stored, returned, displaced, hperm, habsorbs⟩ := h
  refine hperm.trans (List.perm_iff_count.mpr fun f => ?_)
  have hconsumed := habsorbs.surplus_eq f
  have hcallback := (function.run_effect interpreter userData args s).surplus_eq hs f
  omega

/-- A call consumes the references that come with all its arguments exactly if each function handle
stands where the host function expects its callback.  The callback is consumed in any case; a
reference to any other handle stays, and no entry accounts for it. -/
theorem consumes_iff_wellPlaced (hs : s.bindings.timers.WellFormed) :
    (s.Consumes (functionHandles args) (function.run interpreter userData args s).2
      ↔ function.WellPlaced args) ∧
    s.Consumes (function.callback? args).toList (function.run interpreter userData args s).2 ∧
    ∀ f, (function.runCounted interpreter userData args s).2.surplus f
        + (function.callback? args).toList.count f
      = s.surplus f + (functionHandles args).count f := by
  have hcallback := (function.run_effect interpreter userData args s).consumes_callback hs
  refine ⟨⟨?_, ?_⟩, hcallback, ?_⟩
  · intro hconsumes
    have hperm := perm_callback_of_consumes interpreter function userData args hs hconsumes
    apply wellPlaced_iff.mpr
    cases hread : function.callback? args with
    | none =>
      rw [hread] at hperm
      exact hperm.eq_nil
    | some callback =>
      rw [hread] at hperm
      exact List.perm_singleton.mp hperm
  · intro hplaced
    rwa [hplaced.functionHandles_eq]
  · intro f
    obtain ⟨result, t, heffect, hrun⟩ := runCounted_effect interpreter function userData args s
    rw [hrun]
    exact heffect.surplus_served userData hs f

end Run

end HostFunction

/-! ## A sample run -/

namespace Sample

/-- The bindings of a resource that has just started, and what it has to do with. -/
def fresh : Scene Unit := ⟨machine, .new "sample"⟩

/-- A subscription stores the one function handle that it is given. -/
theorem subscription_consumes :
    fresh.bindings.timers.WellFormed ∧
      (HostFunction.onEvent .tick).WellPlaced [.function greeter] ∧
      fresh.Consumes [greeter]
        ((HostFunction.onEvent .tick).run interpreter .bindings [.function greeter] fresh).2 := by
  have hplaced : (HostFunction.onEvent .tick).WellPlaced [.function greeter] :=
    HostFunction.wellPlaced_iff.mpr rfl
  exact ⟨TimerTable.wellFormed_empty, hplaced,
    (HostFunction.consumes_iff_wellPlaced interpreter (.onEvent .tick) .bindings
      [.function greeter] TimerTable.wellFormed_empty).1.mpr hplaced⟩

/-- Clearing a timer neither stores a function handle passed in place of the id, nor gives it
back: the reference that came with it stays. -/
theorem clear_leaks :
    ¬ fresh.Consumes [greeter]
        (HostFunction.clearTimer.run interpreter .bindings [.function greeter] fresh).2 ∧
      (HostFunction.clearTimer.runCounted interpreter .bindings [.function greeter] fresh).2.surplus
        greeter = 1 := by
  constructor
  · intro hconsumes
    have hperm := HostFunction.perm_callback_of_consumes interpreter .clearTimer .bindings
      [.function greeter] TimerTable.wellFormed_empty hconsumes
    exact List.cons_ne_nil _ _ hperm.eq_nil
  · decide +kernel

end Sample

end ScriptHost
