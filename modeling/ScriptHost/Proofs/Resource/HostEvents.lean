import ScriptHost.Proofs.Resource.Reachable

/-!
# Host events reach their subscribers

A host event is sent to the functions that scripts have subscribed to its category, as the history
of the resource tells them, in the order of the subscriptions.  `onEvent_fold` says that the
dispatch is the fold `EventFold` over this list: each handler gets the same arguments, and the first
that decides about the event ends it.
-/

namespace ScriptHost

variable {σ : Type} {interpreter : Interpreter σ}

namespace Resource

/-- Events other than those of scripts go to the handlers of their category. -/
theorem onEvent_eq_dispatchHost (interpreter : Interpreter σ) (r : Resource σ)
    (hrun : r.phase = .running) {event : HostEvent} (hlocal : event.type ≠ .localScriptEvent)
    (hremote : event.type ≠ .remoteScriptEvent) (m : Machine σ) :
    r.onEvent interpreter event m = r.dispatchHost interpreter event m := by
  have hnot : (!r.isRunning) = false := by simp [isRunning, hrun]
  unfold onEvent
  rw [hnot]
  cases event with
  | localScriptEvent => exact absurd rfl hlocal
  | remoteScriptEvent => exact absurd rfl hremote
  | _ => rfl

/-- The dispatch of a host event is the fold over the functions that were subscribed before it, with
the arguments marshaled once.  Each call is carried out in the context of the resource, and nothing
else is called. -/
theorem onEvent_fold {history : Journal} {r : Resource σ} {m m' : Machine σ}
    (h : Reachable interpreter history r m) (hrun : r.phase = .running) {event : HostEvent}
    (hlocal : event.type ≠ .localScriptEvent) (hremote : event.type ≠ .remoteScriptEvent)
    {descriptor : EventDescriptor} (hlookup : r.registry.lookup? event.type = some descriptor)
    {args : List Argument}
    (hmarshal : descriptor.marshal interpreter event r.bindings.arrays m = (.ok args, m')) :
    ∃ context calls stands t,
      r.context = some context ∧
      r.onEvent interpreter event m = (.ok stands, r.adopt t, t.machine) ∧
      EventFold interpreter context descriptor args (history.subscribersOf event.type) calls
        stands ∧
      CallsBetween interpreter context LogMove calls
        (r.scene (if (history.subscribersOf event.type).isEmpty then m else m')) t ∧
      (∀ c ∈ calls, c.CarriedOut interpreter context) ∧
      t.machine.journal.calls = m.journal.calls ++ calls.map (·.summary) := by
  have hsound := h.sound
  rcases (hsound.lived.at_phase hrun).of_running with ⟨_, context, _, hcontext, _⟩
  have hhandlers : r.bindings.handlersOf event.type = history.subscribersOf event.type := by
    have hsubscribed := hsound.subscribed (by rw [hrun]; exact fun h => by cases h)
    rw [Bindings.handlersOf, hsubscribed, Journal.subscribersOf]
  rw [onEvent_eq_dispatchHost interpreter r hrun hlocal hremote, dispatchHost, hlookup]
  simp only [hhandlers, hmarshal, hcontext]
  -- without subscribers nothing is marshaled
  by_cases hempty : (history.subscribersOf event.type).isEmpty
  · have hnil : history.subscribersOf event.type = [] := List.isEmpty_iff.mp hempty
    simp only [hempty, if_true]
    refine ⟨context, [], true, r.scene m, rfl, rfl, ?_, .none .refl, by simp, ?_⟩
    · rw [hnil]
      exact .undecided
    · rw [List.map_nil, List.append_nil]
      rfl
  · simp only [hempty]
    rcases r.callHandlers_calls interpreter context descriptor args
      (history.subscribersOf event.type) (r.scene m') with ⟨calls, hcalls, hfold⟩
    refine ⟨context, calls, _, _, rfl, rfl, hfold, hcalls, ?_, ?_⟩
    · exact fun c hc => (hcalls.forall_made c hc).carriedOut
    · have hmoves := descriptor.marshal_moves interpreter event r.bindings.arrays (r.scene m)
      rw [show (r.scene m).machine = m from rfl, hmarshal] at hmoves
      have hmarshaled : m'.journal.calls = m.journal.calls :=
        calls_eq_of_moves (fun _ _ => HostMove.calls_eq) hmoves
      rw [hcalls.calls_eq fun _ _ => LogMove.calls_eq, ← hmarshaled]
      rfl

/-- A player connects: the subscription that the start made is served. -/
theorem onEvent_greets : ∃ descriptor calls stands t,
    Builtin.registry.lookup? .playerConnect = some descriptor ∧
      Sample.started.onEvent Sample.interpreter (.playerConnect ⟨.player, 1⟩) Sample.after
        = (.ok stands, Sample.started.adopt t, t.machine) ∧
      EventFold Sample.interpreter ⟨0⟩ descriptor [.object (.entity ⟨.player, 1⟩)]
        [Sample.greeter] calls stands := by
  have hlookup : Sample.started.registry.lookup? .playerConnect
      = some ⟨.playerConnect, [⟨.entity .player, "player"⟩], none,
        Builtin.marshalingFor .playerConnect, .subscription⟩ := by
    rw [Sample.started_registry]
    rfl
  have hlocal : (HostEvent.playerConnect ⟨.player, 1⟩).type ≠ .localScriptEvent := by decide
  have hremote : (HostEvent.playerConnect ⟨.player, 1⟩).type ≠ .remoteScriptEvent := by decide
  rcases onEvent_fold Sample.reachable Sample.started_phase hlocal hremote hlookup rfl
    with ⟨context, calls, stands, t, hcontext, heq, hfold, -⟩
  rw [Sample.started_context] at hcontext
  rw [← Option.some.inj hcontext] at hfold
  rw [Sample.started_registry] at hlookup
  refine ⟨_, calls, stands, t, hlookup, heq, ?_⟩
  rw [← Sample.subscribersOf_history]
  exact hfold

end Resource

end ScriptHost
