import ScriptHost.Proofs.Resource.Reachable
import ScriptHost.Proofs.Resource.SceneMoves

/-!
# Registrations of custom handlers

The history of a resource tells which functions its scripts have registered for custom events, under
which names and for which locality, and in which order.  `Registers` ties the table of handlers to
it: what is added to the one is added to the other, at the end.  Only the end of a resource empties
the table, so that until then it holds just the handlers of the history (`Reachable.registered`).
-/

namespace ScriptHost

variable {σ : Type} {interpreter : Interpreter σ}

/-! ## What the journal tells -/

namespace Entry

/-- A registration for custom events that was granted. -/
def customSubscription? : Entry → Option CustomHandler
  | served (.onCustom locality) _ args (.ok _) =>
    match functionAt args 1, stringAt args 0 with
    | .ok callback, .ok name => some ⟨name, locality, callback⟩
    | _, _ => none
  | _ => none

theorem customSubscription?_error (function : HostFunction) (userData : UserData)
    (args : List HostArgument) (e : HostCallError) :
    (served function userData args (.error e)).customSubscription? = none := by
  cases function <;> rfl

theorem Quiet.customSubscription?_eq {entry : Entry} (h : entry.Quiet) :
    entry.customSubscription? = none := by
  cases entry <;> first | rfl | exact h.elim

end Entry

namespace Journal

/-- The registrations for custom events, of all names and both localities. -/
def customSubscriptions (journal : Journal) : List CustomHandler :=
  journal.viewed Entry.customSubscription?

/-- The functions registered for the custom events of one name and one locality, in the order of
their registration. -/
def customSubscribersOf (journal : Journal) (name : String) (locality : Locality) :
    List FunctionHandle :=
  (journal.customSubscriptions.filter fun h => h.name = name && h.locality = locality).map
    (·.callback)

/-- A later history begins with the registrations of the earlier one. -/
theorem customSubscribersOf_following (history earlier later : Journal) (name : String)
    (locality : Locality) :
    history.customSubscribersOf name locality
      <+: (history.following earlier later).customSubscribersOf name locality := by
  have hsubscriptions : history.customSubscriptions
      <+: (history.following earlier later).customSubscriptions := by
    rw [customSubscriptions, customSubscriptions, following, viewed_append]
    exact List.prefix_append _ _
  exact (hsubscriptions.filter _).map _

end Journal

/-! ## Host functions -/

namespace HostFunction

theorem Effect.custom_eq {function : HostFunction} {args : List HostArgument} {result : HostResult}
    {s t : Scene σ} (h : Effect function args result s t)
    (hfunction : ∀ locality, function ≠ .onCustom locality) (userData : UserData) :
    t.bindings.custom = s.bindings.custom ∧
      (Entry.served function userData args result).customSubscription? = none := by
  cases h with
  | refused | gaveBack => exact ⟨rfl, Entry.customSubscription?_error _ _ _ _⟩
  | @subscribedCustom locality => exact absurd rfl (hfunction locality)
  | createdTimer | clearedTimer | subscribed | createdArray | logged => exact ⟨rfl, rfl⟩

/-- A call adds a handler to the table if it is answered as a registration, and nothing else. -/
theorem run_custom (interpreter : Interpreter σ) (function : HostFunction) (userData : UserData)
    (args : List HostArgument) (s : Scene σ) :
    (function.run interpreter userData args s).2.bindings.custom.entries
      = s.bindings.custom.entries
        ++ (Entry.served function userData args
            (function.run interpreter userData args s).1).customSubscription?.toList := by
  by_cases hfunction : ∃ locality, function = .onCustom locality
  · -- the effect of a registration does not tell under which name it was made
    obtain ⟨locality, rfl⟩ := hfunction
    unfold run
    cases hcallback : functionAt args 1 with
    | error e => simp [Entry.customSubscription?]
    | ok callback =>
      cases hname : stringAt args 0 with
      | error e => simp [giveBack, Entry.customSubscription?]
      | ok name =>
        by_cases hdata : userData = .bindings
        · simp [hdata, Entry.customSubscription?, hcallback, hname, CustomHandlers.register]
        · simp [hdata, giveBack, Entry.customSubscription?]
  · have heffect := function.run_effect interpreter userData args s
    obtain ⟨hcustom, hnone⟩ :=
      heffect.custom_eq (fun locality h => hfunction ⟨locality, h⟩) userData
    rw [hcustom, hnone]
    exact (List.append_nil _).symm

end HostFunction

/-! ## Scenes -/

namespace Scene

/-- The handlers of custom events that the later scene has besides are those that have been
registered on the way. -/
def Registers (s t : Scene σ) : Prop :=
  ∃ added, t.bindings.custom.entries = s.bindings.custom.entries ++ added ∧
    t.machine.journal.customSubscriptions = s.machine.journal.customSubscriptions ++ added

namespace Registers

variable {s t u : Scene σ}

theorem of_grows {kind : Entry → Prop} (hcustom : t.bindings.custom = s.bindings.custom)
    (hgrows : s.machine.journal.Grows kind t.machine.journal)
    (hkind : ∀ e, kind e → e.customSubscription? = none) : s.Registers t := by
  refine ⟨[], ?_, ?_⟩
  · rw [hcustom, List.append_nil]
  · rw [List.append_nil]
    exact hgrows.viewed_eq hkind

theorem of_quiet (hbindings : t.bindings = s.bindings)
    (hgrows : s.machine.journal.Grows Entry.Quiet t.machine.journal) : s.Registers t :=
  of_grows (by rw [hbindings]) hgrows fun _ he => he.customSubscription?_eq

theorem refl (s : Scene σ) : s.Registers s :=
  of_quiet rfl (.refl _)

theorem trans (h : s.Registers t) (h' : t.Registers u) : s.Registers u := by
  obtain ⟨added, hadded, hjournal⟩ := h
  obtain ⟨added', hadded', hjournal'⟩ := h'
  refine ⟨added ++ added', ?_, ?_⟩
  · rw [hadded', hadded, List.append_assoc]
  · rw [hjournal', hjournal, List.append_assoc]

theorem of_moves {move : Scene σ → Scene σ → Prop} (hmove : ∀ s t, move s t → s.Registers t)
    (h : Relation.ReflTransGen move s t) : s.Registers t := by
  induction h with
  | refl => exact refl s
  | tail _ hlast ih => exact ih.trans (hmove _ _ hlast)

theorem log (s : Scene σ) (notice : Notice) : s.Registers (s.log notice) :=
  of_quiet rfl ((Journal.Grows.refl _).push trivial)

theorem hostCall (interpreter : Interpreter σ) (function : HostFunction) (userData : UserData)
    (args : List HostArgument) (s : Scene σ) :
    s.Registers (function.runCounted interpreter userData args s).2 := by
  let counted := s.retainAll (functionHandles args)
  have hjournal := (function.run_effect interpreter userData args counted).viewed_eq userData
    Entry.customSubscription? (fun _ => rfl) (fun _ => rfl) fun _ _ => rfl
  exact ⟨_, function.run_custom interpreter userData args counted, hjournal⟩

theorem flushTimers (s : Scene σ) : s.Registers s.flushTimers := by
  refine of_grows rfl s.flushTimers_grows ?_
  rintro e ⟨f, rfl⟩
  rfl

theorem pinArrayTypes (s : Scene σ) (module : ScriptModule) : s.Registers (s.pinArrayTypes module) := by
  refine of_grows rfl (s.pinArrayTypes_grows module) ?_
  intro e he
  cases e <;> first | rfl | exact he.elim

end Registers

end Scene

theorem ScriptMove.registers {allowed : HostFunction → List HostArgument → Prop} {s t : Scene σ}
    (h : ScriptMove interpreter allowed s t) : s.Registers t := by
  cases h with
  | work engine => exact .of_quiet rfl (.refl _)
  | report report => exact .of_quiet rfl ((Journal.Grows.refl _).push trivial)
  | wait offset => exact .of_quiet rfl (.refl _)
  | hostCall function userData args => exact .hostCall interpreter function userData args s

theorem HostMove.registers {s t : Scene σ} (h : HostMove s t) : s.Registers t := by
  cases h with
  | log h =>
    cases h with
    | log hnotice => exact .log s _
  | work engine => exact .of_quiet rfl (.refl _)
  | pollTimer id => exact .of_grows rfl (.refl _) fun _ h => h
  | removeTimer id => exact .of_grows rfl (.refl _) fun _ h => h

/-- A call registers what its script does while it runs. -/
theorem Scene.call_registers (context : ContextHandle) (cause : CallCause)
    (function : FunctionHandle) (args : List Argument) (s : Scene σ) :
    s.Registers (s.call interpreter context cause function args).2 := by
  have hannounced : s.Registers (s.record (.called cause function args)) :=
    .of_quiet rfl ((Journal.Grows.refl _).push trivial)
  exact hannounced.trans
    (.of_moves (fun _ _ => ScriptMove.registers) (s.call_moves interpreter.asksOnly_anyCall))

theorem CallsBetween.registers {context : ContextHandle} {calls : List (ScriptCall σ)}
    {s t : Scene σ} (h : CallsBetween interpreter context HostMove calls s t) : s.Registers t := by
  induction h with
  | none hmoves => exact .of_moves (fun _ _ => HostMove.registers) hmoves
  | @next c calls s t hbefore hmade _ ih =>
    have hstart : s.Registers c.start := .of_moves (fun _ _ => HostMove.registers) hbefore
    have hcall : c.start.Registers c.finish := by
      have hcalled : c.start.Registers
          (c.start.call interpreter context c.cause c.function c.args).2 :=
        Scene.call_registers context c.cause c.function c.args c.start
      rwa [hmade] at hcalled
    exact (hstart.trans hcall).trans ih

/-! ## Starting -/

section Start

variable {r : Resource σ} {p q : StartPoint σ}

theorem StartStep.registers {stage : StartStage} (h : StartStep interpreter r stage p q) :
    (p.scene r).Registers (q.scene r) := by
  refine h.preserves (fun _ _ _ => .trans) ?_ ?_ .pinArrayTypes
  · exact fun s t hbindings hgrows => .of_quiet hbindings (hgrows.mono fun _ he => he.1)
  · exact fun s context function => s.call_registers context .entrypoint function []

theorem StartPath.registers {stages : List StartStage} (h : StartPath interpreter r stages p q) :
    (p.scene r).Registers (q.scene r) := by
  induction h with
  | here => exact .refl _
  | step hstep _ ih => exact hstep.registers.trans ih

end Start

/-! ## Operations -/

namespace Resource

section Operations

variable (interpreter)

theorem tryStart_registers (r : Resource σ) (m : Machine σ) :
    (r.tryStart interpreter m).2.1.phase ≠ .stopped → (r.scene m).Registers
      ((r.tryStart interpreter m).2.1.scene (r.tryStart interpreter m).2.2) := by
  unfold tryStart
  by_cases hphase : r.phase = .uninitialized
  · let r₀ : Resource σ := { r with phase := .compiling }
    have hlog : (r.scene m).Registers (r₀.scene (m.log (.startingResource r.name))) :=
      .log (r.scene m) _
    obtain ⟨stages, last, hpath, hresult⟩ :=
      r₀.startModule_path interpreter (m.log (.startingResource r.name))
    have hstart := hlog.trans hpath.registers
    rw [← StartPoint.scene_of_result? hresult] at hstart
    simp only [ne_eq, hphase, not_true_eq_false, if_false]
    rcases hmodule : r₀.startModule interpreter (m.log (.startingResource r.name))
      with ⟨e | ⟨⟩, r₁, m₁⟩
    · -- whatever has been registered by then is given up
      exact fun h => absurd rfl h
    · rw [hmodule] at hstart
      exact fun _ => hstart.trans (.log (r₁.scene m₁) _)
  · simp only [ne_eq, hphase, not_false_eq_true, if_true]
    exact fun _ => .refl _

theorem start_registers (r : Resource σ) (m : Machine σ) :
    (r.start interpreter m).2.1.phase ≠ .stopped → (r.scene m).Registers
      ((r.start interpreter m).2.1.scene (r.start interpreter m).2.2) := by
  have htry := r.tryStart_registers interpreter m
  unfold start
  rcases hresult : r.tryStart interpreter m with ⟨e | ⟨⟩, r', m'⟩
  · rw [hresult] at htry
    exact fun h => (htry h).trans (.log (r'.scene m') _)
  · rw [hresult] at htry
    exact htry

/-- A dispatch comes to calls and what the host does between them, and before them a tick drops
timers. -/
theorem dispatch_registers (r : Resource σ) (m : Machine σ)
    (hcontext : r.isRunning = true → r.context.isSome) {operation : Operation}
    (hop : operation.IsDispatch) :
    (r.scene m).Registers
      ((r.perform interpreter operation m).2.1.scene (r.perform interpreter operation m).2.2) := by
  obtain ⟨t, calls, heq, hcalls, -⟩ := r.perform_dispatches interpreter hcontext hop m
  have hbegun : (r.scene m).Registers (r.dispatchStart operation m) := by
    cases operation with
    | tick =>
      unfold dispatchStart
      cases r.isRunning with
      | true => exact .flushTimers _
      | false => exact .refl _
    | start | tryStart | stop | event | dispatch | hostCall => exact .refl _
  rw [heq]
  cases hrun : r.isRunning with
  | false =>
    obtain ⟨-, rfl⟩ := hcalls.idle hrun
    exact hbegun
  | true =>
    obtain ⟨context, hsome⟩ := Option.isSome_iff_exists.mp (hcontext hrun)
    exact hbegun.trans (hcalls.called context hsome).registers

/-- Unless a resource is stopped, its table of custom handlers gets what is registered. -/
theorem perform_registers (r : Resource σ) (m : Machine σ)
    (hcontext : r.isRunning = true → r.context.isSome) (operation : Operation)
    (h : (r.perform interpreter operation m).2.1.phase ≠ .stopped) :
    (r.scene m).Registers
      ((r.perform interpreter operation m).2.1.scene (r.perform interpreter operation m).2.2) := by
  cases operation with
  | start => exact r.start_registers interpreter m h
  | tryStart => exact r.tryStart_registers interpreter m h
  | stop => exact absurd rfl h
  | event | tick | dispatch => exact r.dispatch_registers interpreter m hcontext trivial
  | hostCall function userData args => exact .hostCall interpreter function userData args _

end Operations

/-- Until a resource is stopped, its custom handlers are those that its history tells of. -/
theorem Reachable.registered {history : Journal} {r : Resource σ} {m : Machine σ}
    (h : Reachable interpreter history r m) (hphase : r.phase ≠ .stopped) :
    r.bindings.custom.entries = history.customSubscriptions := by
  induction h with
  | created => rfl
  | @performed history r m operation h ih =>
    have hlived := h.sound.lived
    have hstep := perform_step interpreter.asksOnly_anyCall r m operation.asks_anyCall hlived
    have hbefore := ih (hstep.phase.ne_stopped hphase)
    obtain ⟨added, hadded, hregistered⟩ :=
      r.perform_registers interpreter m hlived.context_isSome operation hphase
    have hafter : (history.following m.journal
        (r.perform interpreter operation m).2.2.journal).customSubscriptions
          = history.customSubscriptions ++ added :=
      history.viewed_following hstep.accounts.grows hregistered
    rw [hafter, ← hbefore]
    exact hadded
  | elsewhere _ _ ih => exact ih hphase

end Resource

end ScriptHost
