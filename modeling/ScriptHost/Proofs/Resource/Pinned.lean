import ScriptHost.Proofs.Resource.Reachable

/-!
# No callback runs without a reference

The lists that the dispatch loops run over own no references.  A callback is safe all the same: as
long as it runs, the entry that it was registered with is in the bindings, because entries are only
added and timers only queued for removal until the dispatch is over.  `callback_pinned` states this
for every scene of every call that a dispatch makes.
-/

namespace ScriptHost.Resource

variable {σ : Type} {interpreter : Interpreter σ}

theorem dispatchStart_calls (r : Resource σ) (operation : Operation) (m : Machine σ) :
    (r.dispatchStart operation m).machine.journal.calls = m.journal.calls := by
  cases operation with
  | tick =>
    unfold dispatchStart
    cases hrun : r.isRunning with
    | true =>
      exact (r.scene m).viewed_flushTimers fun _ => rfl
    | false => rfl
  | start | tryStart | stop | event | dispatch | hostCall => rfl

/-- A dispatch of a resource calls callbacks, and the journal shows just these calls.  From the
moment at which such a callback is prepared until its execution has returned, the bindings contain
the entry that it is called for, and the resource holds a reference to it, whatever host functions
are called in the meantime; provided that fewer than `UInt32.size - 1` timers have been created. -/
theorem callback_pinned {history : Journal} {r : Resource σ} {m : Machine σ}
    (h : Reachable interpreter history r m) {operation : Operation}
    (hop : operation.IsDispatch) :
    ∃ calls t,
      (r.perform interpreter operation m).2 = (r.adopt t, t.machine) ∧
      r.Dispatches interpreter calls (r.dispatchStart operation m) t ∧
      t.machine.journal.calls = m.journal.calls ++ calls.map (·.summary) ∧
      ∀ c ∈ calls, ∃ context, r.context = some context ∧
        ∀ u, Scene.During interpreter context c.cause c.function c.args c.start u →
          (history.following m.journal u.machine.journal).creations < UInt32.size - 1 →
          u.bindings.Pins c.cause c.function ∧
            0 < (history.following m.journal u.machine.journal).functionBalance c.function := by
  have hsound := h.sound
  have hcontext : r.isRunning = true → r.context.isSome := hsound.lived.context_isSome
  have hasks : interpreter.AsksOnly anyCall := interpreter.asksOnly_anyCall
  rcases r.perform_dispatches interpreter hcontext hop m with ⟨t, calls, heq, hdispatch, hpins⟩
  have hcause : ∀ c ∈ calls, c.cause.IsCallback := fun c hc =>
    (hpins c hc).elim (·.isCallback) (·.isCallback)
  have hstarts := (hdispatch.continues hcontext hasks hcause).2
  have hopening : (r.scene m).Accounts anyCall (r.dispatchStart operation m) :=
    (r.dispatchStart_stage operation m).accounts
  refine ⟨calls, t, heq, hdispatch, ?_, ?_⟩
  · rw [hdispatch.calls_eq hcontext, r.dispatchStart_calls operation m]
  · intro c hc
    have hrun : r.isRunning = true := by
      cases hrun : r.isRunning with
      | true => rfl
      | false =>
        rw [(hdispatch.idle hrun).1] at hc
        cases hc
    rcases Option.isSome_iff_exists.mp (hcontext hrun) with ⟨context, hsome⟩
    refine ⟨context, hsome, ?_⟩
    intro u hduring hbound
    have hstart := hstarts c hc
    have hcall := ScriptCall.During.continues hasks (hcause c hc) hduring
    -- the entry is there at the start of the dispatch or, a timer's, at that of the call
    have hpinned : u.bindings.Pins c.cause c.function := by
      rcases hpins c hc with hbefore | hbefore
      · exact hsound.covers.pins hopening (hstart.trans hcall) hbound hbefore
      · exact hsound.covers.pins (hopening.trans hstart.toAccounts) hcall hbound hbefore
    refine ⟨hpinned, ?_⟩
    -- the entries are covered by references at that moment too, not only between operations
    have hcovers := hsound.covers.step
      ((hopening.trans hstart.toAccounts).trans hcall.toAccounts)
    have howned := hcovers.owned c.function
    have hcount : 0 < u.bindings.callbacks.count c.function :=
      List.count_pos_iff.mpr hpinned.mem_callbacks
    show 0 < (history.following (r.scene m).machine.journal u.machine.journal).functionBalance _
    omega

/-- A player connects: a callback is called, and has its entry throughout. -/
theorem greeter_pinned : ∃ calls : List (ScriptCall Unit), calls ≠ [] ∧
    ∀ c ∈ calls, ∃ context, Sample.started.context = some context ∧
      ∀ u, Scene.During Sample.interpreter context c.cause c.function c.args c.start u →
        (Sample.history.following Sample.after.journal u.machine.journal).creations
          < UInt32.size - 1 →
        u.bindings.Pins c.cause c.function := by
  have hop : (Operation.event (.playerConnect ⟨.player, 1⟩)).IsDispatch := trivial
  rcases callback_pinned Sample.reachable hop with ⟨calls, t, heq, -, hcalls, hpins⟩
  refine ⟨calls, ?_, ?_⟩
  · rintro rfl
    -- the journal shows one call more
    have hmore : (Sample.started.perform Sample.interpreter
          (.event (.playerConnect ⟨.player, 1⟩)) Sample.after).2.2.journal.calls.length
        ≠ Sample.after.journal.calls.length := by
      decide +kernel
    rw [heq, hcalls] at hmore
    exact hmore (congrArg List.length (List.append_nil _))
  · intro c hc
    rcases hpins c hc with ⟨context, hcontext, hpinned⟩
    exact ⟨context, hcontext, fun u hduring hbound => (hpinned u hduring hbound).1⟩

end ScriptHost.Resource
