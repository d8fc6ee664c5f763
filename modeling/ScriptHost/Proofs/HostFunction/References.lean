import ScriptHost.Proofs.HostFunction.Effect
import ScriptHost.Proofs.Journal.History
import ScriptHost.Proofs.Timer.Table

/-!
# The references that host functions take over

With every function handle that a script passes comes a reference.  The callback's goes into an
entry of the bindings or is given back; those of other arguments, which no host function asks for,
stay.  `surplus` counts the references on a function that no entry accounts for, and
`Effect.surplus_served` says by how much one call changes it.
-/

namespace ScriptHost

variable {σ : Type}

/-- The references held on a function beyond those that the entries of the bindings account for. -/
def Scene.surplus (s : Scene σ) (f : FunctionHandle) : Int :=
  s.machine.journal.functionBalance f - s.bindings.callbacks.count f

/-- The references held on an array type beyond those that the bindings account for. -/
def Scene.typeSurplus (s : Scene σ) (t : ArrayTypeHandle) : Int :=
  s.machine.journal.typeBalance t - s.bindings.arrays.held.count t

/-- The function handle that an argument is. -/
def HostArgument.function? : HostArgument → Option FunctionHandle
  | function handle => some handle
  | _ => none

namespace Scene

/-- The interpreter counts one more reference to each of the functions. -/
def retainAll (s : Scene σ) (functions : List FunctionHandle) : Scene σ :=
  { s with machine := s.machine.recordAll (functions.map .retained) }

@[simp] theorem bindings_retainAll (s : Scene σ) (functions : List FunctionHandle) :
    (s.retainAll functions).bindings = s.bindings := rfl

@[simp] theorem journal_retainAll (s : Scene σ) (functions : List FunctionHandle) :
    (s.retainAll functions).machine.journal
      = s.machine.journal.append (functions.map .retained) := rfl

end Scene

namespace HostFunction

/-- Function handles are passed only where a callback is expected. -/
def WellPlaced (function : HostFunction) (args : List HostArgument) : Prop :=
  ∀ index handle, args[index]? = some (.function handle) → function.callbackIndex? = some index

theorem functionHandles_eq (args : List HostArgument) :
    functionHandles args = args.filterMap HostArgument.function? := rfl

theorem toOption_functionAt (args : List HostArgument) (index : Nat) :
    (functionAt args index).toOption = args[index]?.bind HostArgument.function? := by
  unfold functionAt
  cases args[index]? with
  | none => rfl
  | some argument => cases argument <;> rfl

/-- If `view` shows something at one place at most, that is all it shows. -/
theorem filterMap_of_placed {α β : Type} {view : α → Option β} (place : Option Nat)
    (l : List α) (h : ∀ i a b, l[i]? = some a → view a = some b → place = some i) :
    l.filterMap view = (place.bind fun i => l[i]?.bind view).toList := by
  induction l generalizing place with
  | nil => cases place <;> rfl
  | cons a rest ih =>
    -- what the rest shows is one place further
    have hrest : ∀ place' : Option Nat, (∀ i, place = some (i + 1) → place' = some i) →
        rest.filterMap view = (place'.bind fun i => rest[i]?.bind view).toList := by
      intro place' hplace
      exact ih place' fun i c b hc hb => hplace i (h (i + 1) c b hc hb)
    have hhead : place ≠ some 0 → view a = none := by
      intro hplace
      cases hview : view a with
      | none => rfl
      | some b => exact absurd (h 0 a b rfl hview) hplace
    rcases place with _ | _ | i
    · rw [List.filterMap_cons_none (hhead (by simp)), hrest none (by simp)]
      rfl
    · rw [List.filterMap_cons, hrest none (by simp)]
      cases hview : view a <;> simp [hview]
    · rw [List.filterMap_cons_none (hhead (by simp)), hrest (some i) (by simp)]
      rfl

theorem callback?_eq (function : HostFunction) (args : List HostArgument) :
    function.callback? args
      = function.callbackIndex?.bind fun i => args[i]?.bind HostArgument.function? := by
  simp only [callback?, toOption_functionAt]

theorem WellPlaced.functionHandles_eq {function : HostFunction} {args : List HostArgument}
    (h : function.WellPlaced args) : functionHandles args = (function.callback? args).toList := by
  rw [HostFunction.functionHandles_eq, callback?_eq]
  apply filterMap_of_placed
  intro i argument handle hargument hhandle
  cases argument with
  | function f => exact h i f hargument
  | scalar _ => cases hhandle
  | object _ => cases hhandle

/-- The callback is one of the function handles that are passed. -/
theorem callback?_count_le (function : HostFunction) (args : List HostArgument)
    (f : FunctionHandle) :
    (function.callback? args).toList.count f ≤ (functionHandles args).count f := by
  cases hcallback : function.callback? args with
  | none => exact Nat.zero_le _
  | some callback =>
    have hmem : callback ∈ functionHandles args := by
      rw [callback?_eq, Option.bind_eq_some_iff] at hcallback
      rcases hcallback with ⟨i, -, hi⟩
      rcases Option.bind_eq_some_iff.mp hi with ⟨argument, hargument, hfunction⟩
      exact List.mem_filterMap.mpr ⟨argument, List.mem_of_getElem? hargument, hfunction⟩
    exact (List.singleton_sublist.mpr hmem).count_le f

/-! ## What a call leaves behind -/

section Effect

variable {function : HostFunction} {args : List HostArgument} {result : HostResult}
  {s t : Scene σ}

/-- What host functions record themselves: callbacks given back, and notices. -/
def Records (entry : Entry) : Prop :=
  (∃ f, entry = .released f) ∨ ∃ notice : Notice, entry = .logged notice ∧ notice.isStarted = false

theorem Effect.grows (h : Effect function args result s t) :
    s.machine.journal.Grows Records t.machine.journal := by
  cases h with
  | refused s h => exact .refl _
  | gaveBack s h => exact (Journal.Grows.refl _).append (by simp [Records])
  | createdTimer s delay h => exact (Journal.Grows.refl _).append (by simp [Records])
  | clearedTimer s id => exact .refl _
  | subscribedCustom s name h =>
    exact (Journal.Grows.refl _).push (by simp [Records, Notice.isStarted])
  | subscribed s h => exact (Journal.Grows.refl _).push (by simp [Records, Notice.isStarted])
  | createdArray s engine h =>
    refine (Journal.Grows.refl _).append ?_
    simpa [Records] using h
  | logged s resource text =>
    exact (Journal.Grows.refl _).push (by simp [Records, Notice.isStarted])

theorem Effect.wellFormed (h : Effect function args result s t)
    (hs : s.bindings.timers.WellFormed) : t.bindings.timers.WellFormed := by
  cases h with
  | createdTimer s delay h => exact hs.create _ _ _ _
  | clearedTimer s id => exact hs.remove id
  | _ => exact hs

/-- The callback is in an entry afterwards, or has been given back. -/
theorem Effect.surplus_eq (h : Effect function args result s t)
    (hs : s.bindings.timers.WellFormed) (f : FunctionHandle) :
    t.surplus f + (function.callback? args).toList.count f = s.surplus f := by
  unfold Scene.surplus
  -- only a callback that has been read moves; the others are no concern of the host function
  cases h with
  | refused s h => simp [h]
  | @gaveBack function args callback e s h =>
    rw [h, Scene.journal_releaseFunctions, Journal.functionBalance_append_released,
      Scene.bindings_releaseFunctions, Option.toList_some]
    omega
  | @createdTimer delayIndex once args callback s delay h =>
    -- a timer that has the id already is replaced, and its callback given back
    have hperm := (TimerTable.create_callbacks_perm hs (milliseconds delay.toNat) callback once
      s.machine.now).count_eq f
    have hread : (setTimer delayIndex once).callback? args = some callback :=
      callback?_eq_some rfl h
    rw [List.count_append, List.count_cons] at hperm
    rw [hread, Scene.journal_createTimer, Journal.functionBalance_append_released,
      Scene.bindings_createTimer]
    simp only [Bindings.callbacks, List.count_append, Option.toList_some, List.count_singleton]
    omega
  | clearedTimer s id =>
    have hread : clearTimer.callback? args = none := rfl
    rw [hread, Scene.machine_removeTimer, Scene.bindings_removeTimer, Bindings.callbacks,
      TimerTable.remove_callbacks]
    simp [Bindings.callbacks]
  | @subscribedCustom locality args callback s name h =>
    have hread : (onCustom locality).callback? args = some callback := callback?_eq_some rfl h
    rw [hread]
    simp only [Scene.journal_registerCustomHandler, Journal.functionBalance_push,
      Journal.functionWeight, Scene.bindings_registerCustomHandler, Bindings.callbacks,
      CustomHandlers.register, CustomHandlers.callbacks, List.map_append, List.map_cons,
      List.map_nil, List.count_append, Option.toList_some]
    omega
  | @subscribed type args callback s h =>
    have hread : (onEvent type).callback? args = some callback := callback?_eq_some rfl h
    rw [hread]
    simp only [Scene.journal_registerHandler, Journal.functionBalance_push,
      Journal.functionWeight, Scene.bindings_registerHandler, Bindings.callbacks,
      List.map_append, List.map_cons, List.map_nil, List.count_append, Option.toList_some]
    omega
  | @createdArray kind args array s engine notices hn =>
    have hread : (createArray kind).callback? args = none := rfl
    have hgrows : s.machine.journal.Grows Entry.Quiet
        (s.machine.journal.append (notices.map .logged)) :=
      (Journal.Grows.refl _).append (by simp [Entry.Quiet])
    have hbalance := hgrows.functionBalance_eq f
    rw [hread]
    show Journal.functionBalance (s.machine.journal.append _) f - _ + _ = _
    rw [hbalance]
    simp
  | @logged args s resource text =>
    have hread : HostFunction.log.callback? args = none := rfl
    rw [hread, Scene.journal_log, Journal.functionBalance_push, Scene.bindings_log]
    simp [Journal.functionWeight]

/-! ## What a call does to the tables -/

theorem subscription?_error (function : HostFunction) (userData : UserData)
    (args : List HostArgument) (e : HostCallError) :
    (Entry.served function userData args (.error e)).subscription? = none := by
  cases function <;> rfl

theorem creation?_error (function : HostFunction) (userData : UserData)
    (args : List HostArgument) (e : HostCallError) :
    (Entry.served function userData args (.error e)).creation? = none := by
  cases function <;> rfl

/-- Handlers of host events are added at the end, and just those that the answer grants. -/
theorem Effect.handlers_eq (h : Effect function args result s t) (userData : UserData) :
    t.bindings.handlers
      = s.bindings.handlers
        ++ (Entry.served function userData args result).subscription?.toList := by
  cases h with
  | refused s h => simp [subscription?_error]
  | gaveBack s h => simp [subscription?_error]
  | subscribed s h => simp [Entry.subscription?, h, Except.toOption]
  | createdTimer | clearedTimer | subscribedCustom | createdArray | logged =>
    simp [Entry.subscription?]

theorem Effect.custom_prefix (h : Effect function args result s t) :
    s.bindings.custom.entries <+: t.bindings.custom.entries := by
  cases h with
  | subscribedCustom s name h => exact List.prefix_append _ _
  | _ => exact List.prefix_rfl

theorem Effect.arrays_eq (h : Effect function args result s t) :
    t.bindings.arrays = s.bindings.arrays := by
  cases h <;> rfl

theorem Effect.numbered (h : Effect function args result s t) (userData : UserData) {n : Nat}
    (hs : s.bindings.timers.Numbered n)
    (hn : n + (Entry.served function userData args result).creation?.toList.length
      < UInt32.size - 1) :
    t.bindings.timers.Numbered
      (n + (Entry.served function userData args result).creation?.toList.length) := by
  cases h with
  | refused s h => simpa [creation?_error] using hs
  | gaveBack s h => simpa [creation?_error] using hs
  | createdTimer s delay h => exact hs.create hn _ _ _ _
  | clearedTimer s id => exact hs.remove id
  | subscribedCustom | subscribed | createdArray | logged => exact hs

/-- A timer that is in the table stays there with its callback. -/
theorem Effect.callback_find? (h : Effect function args result s t) {n : Nat}
    (hs : s.bindings.timers.Numbered n) {id : UInt32} {timer : Timer}
    (hfind : s.bindings.timers.find? id = some timer) :
    t.bindings.timers.find? id = some timer := by
  cases h with
  | createdTimer s delay h =>
    -- the numbering rules out that the new timer takes the id of an old one
    rw [Scene.bindings_createTimer, TimerTable.find?_create (hs.find?_ne hfind), hfind]
  | clearedTimer s other =>
    rw [Scene.bindings_removeTimer, TimerTable.find?_remove, hfind]
  | _ => exact hfind

end Effect

/-! ## Calls that come from scripts -/

section Counted

variable (interpreter : Interpreter σ) (function : HostFunction) (userData : UserData)
  (args : List HostArgument) (s : Scene σ)

/-- The interpreter counts the references, the host function takes effect and the answer is
recorded. -/
theorem runCounted_effect :
    ∃ result t, Effect function args result (s.retainAll (functionHandles args)) t ∧
      function.runCounted interpreter userData args s
        = (result, t.record (.served function userData args result)) := by
  rcases hrun : function.run interpreter userData args (s.retainAll (functionHandles args))
    with ⟨result, t⟩
  refine ⟨result, t, ?_, ?_⟩
  · have heffect := function.run_effect interpreter userData args
      (s.retainAll (functionHandles args))
    rw [hrun] at heffect
    exact heffect
  · rw [Scene.retainAll] at hrun
    rw [runCounted]
    simp only [hrun]

variable {function args s} {result : HostResult} {t : Scene σ}

/-- A view that shows neither references nor notices shows the answer at most. -/
theorem Effect.viewed_eq {α : Type} (view : Entry → Option α)
    (h : Effect function args result (s.retainAll (functionHandles args)) t)
    (hretained : ∀ f, view (.retained f) = none) (hreleased : ∀ f, view (.released f) = none)
    (hlogged : ∀ notice : Notice, notice.isStarted = false → view (.logged notice) = none) :
    (t.record (.served function userData args result)).machine.journal.viewed view
      = s.machine.journal.viewed view
        ++ (view (.served function userData args result)).toList := by
  have ht : t.machine.journal.viewed view
      = (s.retainAll (functionHandles args)).machine.journal.viewed view := by
    apply h.grows.viewed_eq
    rintro e (⟨f, rfl⟩ | ⟨notice, rfl, hnotice⟩)
    · exact hreleased f
    · exact hlogged notice hnotice
  have hs : ((functionHandles args).map Entry.retained).filterMap view = [] := by
    apply List.filterMap_eq_nil_iff.mpr
    intro e he
    rcases List.mem_map.mp he with ⟨f, -, rfl⟩
    exact hretained f
  rw [Scene.journal_record, Journal.viewed_push, ht, Scene.journal_retainAll,
    Journal.viewed_append, hs, List.append_nil]

theorem Effect.typeBalance_eq
    (h : Effect function args result (s.retainAll (functionHandles args)) t)
    (type : ArrayTypeHandle) :
    (t.record (.served function userData args result)).machine.journal.typeBalance type
      = s.machine.journal.typeBalance type := by
  have ht : t.machine.journal.typeBalance type
      = (s.retainAll (functionHandles args)).machine.journal.typeBalance type := by
    apply h.grows.weigh_eq
    rintro e (⟨f, rfl⟩ | ⟨notice, rfl, -⟩) <;> rfl
  have hserved : Journal.typeWeight type (.served function userData args result) = 0 := rfl
  rw [Scene.journal_record, Journal.typeBalance_push, ht, Scene.journal_retainAll,
    Journal.typeBalance_append, Journal.weigh_map_eq_zero _ fun _ => rfl, hserved, Int.add_zero,
    Int.add_zero]

theorem Effect.surplus_served
    (h : Effect function args result (s.retainAll (functionHandles args)) t)
    (hs : s.bindings.timers.WellFormed) (f : FunctionHandle) :
    (t.record (.served function userData args result)).surplus f
        + (function.callback? args).toList.count f
      = s.surplus f + (functionHandles args).count f := by
  have hserved : (t.record (.served function userData args result)).surplus f = t.surplus f := by
    simp [Scene.surplus, Journal.functionWeight]
  have hretained : (s.retainAll (functionHandles args)).surplus f
      = s.surplus f + (functionHandles args).count f := by
    rw [Scene.surplus, Scene.surplus, Scene.journal_retainAll, Scene.bindings_retainAll,
      Journal.functionBalance_append_retained]
    omega
  rw [hserved, ← hretained]
  exact h.surplus_eq hs f

end Counted

end HostFunction

end ScriptHost
