import ScriptHost.Proofs.Event.Exactness
import ScriptHost.Proofs.Isolation.Later
import ScriptHost.Proofs.Resource.HostEvents

/-!
# The gate between marshaling and scripts

Whatever a descriptor's marshaling gives is checked against the parameters.  `Verdict` says which
arguments pass, as they are, and what is reported of the others.  A host event whose arguments do not
pass ends before anything is called: the resource is as before, and the machine has new arrays and new
log entries at most (`ArraysMade`).
-/

namespace ScriptHost

variable {σ : Type} {interpreter : Interpreter σ}

/-! ## The verdict -/

/-- An argument can fill a parameter, and is passed the way that the parameter asks for. -/
structure Passes (argument : Argument) (parameter : Parameter) : Prop where
  fits : argument.fits parameter.type = true
  isScalar_eq : argument.isScalar = parameter.type.isScalar

/-- What fits is passed by address exactly if the parameter is a scalar. -/
theorem Argument.isScalar_eq_of_fits {argument : Argument} {type : ParameterType}
    (h : argument.fits type = true) : argument.isScalar = type.isScalar := by
  cases argument with
  | scalar value =>
    obtain rfl : type = .scalar value.type := of_decide_eq_true h
    rfl
  | object object =>
    -- no object fits a scalar
    cases type with
    | scalar => cases object <;> cases h
    | string | vector3 | entity | array => rfl

theorem passes_iff {argument : Argument} {parameter : Parameter} :
    Passes argument parameter ↔ argument.fits parameter.type = true :=
  ⟨Passes.fits, fun h => ⟨h, argument.isScalar_eq_of_fits h⟩⟩

/-- What becomes of the arguments that a descriptor's marshaling has given. -/
inductive Verdict (type : EventType) (parameters : List Parameter) (args : List Argument) :
    Except MarshalFault (List Argument) → Prop
  | passed (h : List.Forall₂ Passes args parameters) : Verdict type parameters args (.ok args)
  | arity (h : args.length ≠ parameters.length) :
      Verdict type parameters args (.error (.arity type args.length parameters.length))
  /-- The first argument that does not fit is reported, if the numbers agree. -/
  | misfit {argument : Argument} {parameter : Parameter} {before rest : List Argument}
      {parametersBefore parametersRest : List Parameter}
      (hlength : args.length = parameters.length)
      (hargs : args = before ++ argument :: rest)
      (hparameters : parameters = parametersBefore ++ parameter :: parametersRest)
      (hbefore : List.Forall₂ Passes before parametersBefore)
      (hmisfit : argument.fits parameter.type = false) :
      Verdict type parameters args (.error (.misfit type argument parameter))

/-- Where a pair of two lists fails a test for the first time, the lists are in step before it. -/
theorem forall₂_before_of_find?_zip {args : List Argument} {parameters : List Parameter}
    {argument : Argument} {parameter : Parameter}
    (h : (args.zip parameters).find? (fun (argument, parameter) => !argument.fits parameter.type)
      = some (argument, parameter)) :
    ∃ before rest parametersBefore parametersRest, args = before ++ argument :: rest ∧
      parameters = parametersBefore ++ parameter :: parametersRest ∧
      List.Forall₂ Passes before parametersBefore ∧ argument.fits parameter.type = false := by
  induction args generalizing parameters with
  | nil => cases h
  | cons first args ih =>
    cases parameters with
    | nil => cases h
    | cons firstParameter parameters =>
      rw [List.zip_cons_cons, List.find?_cons] at h
      cases hfits : first.fits firstParameter.type with
      | false =>
        simp only [hfits, Bool.not_false] at h
        obtain ⟨rfl, rfl⟩ := Prod.mk.inj (Option.some.inj h)
        exact ⟨[], args, [], parameters, rfl, rfl, .nil, hfits⟩
      | true =>
        simp only [hfits, Bool.not_true] at h
        obtain ⟨before, rest, parametersBefore, parametersRest, rfl, rfl, hbefore, hmisfit⟩ := ih h
        exact ⟨first :: before, rest, firstParameter :: parametersBefore, parametersRest, rfl, rfl,
          .cons (passes_iff.mpr hfits) hbefore, hmisfit⟩

theorem checkArguments_verdict (type : EventType) (parameters : List Parameter)
    (args : List Argument) :
    Verdict type parameters args (checkArguments type parameters args) := by
  cases hchecked : checkArguments type parameters args with
  | ok passed =>
    obtain rfl := Builtin.eq_of_checkArguments hchecked
    exact .passed ((checkArguments_eq_ok_iff.mp hchecked).imp fun _ _ => passes_iff.mpr)
  | error fault =>
    unfold checkArguments at hchecked
    split at hchecked
    · next hlength =>
      cases hchecked
      exact .arity hlength
    · next hlength =>
      split at hchecked
      · next argument parameter hfind =>
        cases hchecked
        obtain ⟨before, rest, parametersBefore, parametersRest, hargs, hparameters, hbefore,
          hmisfit⟩ := forall₂_before_of_find?_zip hfind
        exact .misfit (not_not.mp hlength) hargs hparameters hbefore hmisfit
      · cases hchecked

/-! ## What marshaling does to the machine -/

/-- Nothing has become of a machine but that arrays were asked for. -/
inductive ArraysMade (interpreter : Interpreter σ) (types : ArrayTypes) :
    Machine σ → Machine σ → Prop
  | none (m : Machine σ) : ArraysMade interpreter types m m
  | made {m m' : Machine σ} (kind : ArrayKind) (items : List Value)
      (h : ArraysMade interpreter types (types.create interpreter kind items m).2 m') :
      ArraysMade interpreter types m m'

/-- A log entry. -/
def Entry.IsLog (entry : Entry) : Prop :=
  ∃ notice, entry = .logged notice

namespace ArraysMade

variable {types : ArrayTypes} {m m' : Machine σ}

theorem create_unchanged (interpreter : Interpreter σ) (types : ArrayTypes) (kind : ArrayKind)
    (items : List Value) (m : Machine σ) :
    (types.create interpreter kind items m).2.now = m.now ∧
      m.journal.Grows Entry.IsLog (types.create interpreter kind items m).2.journal := by
  unfold ArrayTypes.create
  cases types.get? kind with
  | none => exact ⟨rfl, (Journal.Grows.refl _).push ⟨_, rfl⟩⟩
  | some type =>
    simp only
    split
    · exact ⟨rfl, .refl _⟩
    · exact ⟨rfl, (Journal.Grows.refl _).push ⟨_, rfl⟩⟩

theorem unchanged (h : ArraysMade interpreter types m m') :
    m'.now = m.now ∧ m.journal.Grows Entry.IsLog m'.journal := by
  induction h with
  | none m => exact ⟨rfl, .refl _⟩
  | @made m _ kind items _ ih =>
    obtain ⟨hnow, hgrows⟩ := create_unchanged interpreter types kind items m
    exact ⟨ih.1.trans hnow, hgrows.trans ih.2⟩

theorem calls_eq (h : ArraysMade interpreter types m m') : m'.journal.calls = m.journal.calls := by
  refine h.unchanged.2.viewed_eq ?_
  rintro _ ⟨notice, rfl⟩
  rfl

end ArraysMade

theorem Marshaling.run_arraysMade (interpreter : Interpreter σ) (types : ArrayTypes)
    (marshaling : Marshaling) (m : Machine σ) :
    ArraysMade interpreter types m (marshaling.run interpreter types m).2 := by
  induction marshaling generalizing m with
  | done args => exact .none m
  | array kind items next ih => exact .made kind items (ih _ _)

/-! ## Events that do not get through -/

namespace Resource

variable {r : Resource σ} {m : Machine σ}

/-- An event is handed to a descriptor for marshaling: somebody has subscribed to its category. -/
structure Marshals (r : Resource σ) (event : HostEvent) (descriptor : EventDescriptor) : Prop where
  running : r.phase = .running
  notLocal : event.type ≠ .localScriptEvent
  notRemote : event.type ≠ .remoteScriptEvent
  lookup : r.registry.lookup? event.type = some descriptor
  subscribed : r.bindings.handlersOf event.type ≠ []

theorem Marshals.onEvent_eq {event : HostEvent} {descriptor : EventDescriptor} {fault : MarshalFault}
    {m' : Machine σ} (h : r.Marshals event descriptor)
    (hmarshal : descriptor.marshal interpreter event r.bindings.arrays m = (.error fault, m')) :
    r.onEvent interpreter event m = (.error fault, r, m') := by
  have hsome : (r.bindings.handlersOf event.type).isEmpty = false := by
    simpa using h.subscribed
  rw [onEvent_eq_dispatchHost interpreter r h.running h.notLocal h.notRemote, dispatchHost, h.lookup]
  simp [hsome, hmarshal]

/-- Script events never fail. -/
theorem onEvent_scriptEvent (interpreter : Interpreter σ) (r : Resource σ) {event : HostEvent}
    (h : event.type = .localScriptEvent ∨ event.type = .remoteScriptEvent) (m : Machine σ) :
    (r.onEvent interpreter event m).1 = .ok true := by
  unfold onEvent
  split
  · rfl
  · cases event with
    | localScriptEvent | remoteScriptEvent => rfl
    | _ => rcases h with h | h <;> cases h

/-- A category without subscribers is not marshaled, so its descriptor does not matter. -/
theorem onEvent_unsubscribed (interpreter : Interpreter σ) {event : HostEvent}
    (h : r.bindings.handlersOf event.type = []) (m : Machine σ) :
    (r.onEvent interpreter event m).1 = .ok true ∧
      (event.type ≠ .localScriptEvent → event.type ≠ .remoteScriptEvent →
        ∀ descriptor, r.registry.lookup? event.type = some descriptor →
          r.onEvent interpreter event m = (.ok true, r, m)) := by
  by_cases hscript : event.type = .localScriptEvent ∨ event.type = .remoteScriptEvent
  · exact ⟨onEvent_scriptEvent interpreter r hscript m,
      fun hlocal hremote => absurd hscript (not_or.mpr ⟨hlocal, hremote⟩)⟩
  · obtain ⟨hlocal, hremote⟩ := not_or.mp hscript
    by_cases hrun : r.phase = .running
    · rw [onEvent_eq_dispatchHost interpreter r hrun hlocal hremote, dispatchHost, h]
      cases hlookup : r.registry.lookup? event.type with
      | none => exact ⟨rfl, fun _ _ _ hfound => by cases hfound⟩
      | some descriptor => exact ⟨rfl, fun _ _ _ _ => rfl⟩
    · have hidle : r.onEvent interpreter event m = (.ok true, r, m) := by
        simp [onEvent, isRunning, hrun]
      rw [hidle]
      exact ⟨rfl, fun _ _ _ _ => rfl⟩

/-- The only failure of an event is one of marshaling, and it leaves the resource alone. -/
theorem onEvent_eq_error_iff {event : HostEvent} {fault : MarshalFault} {r' : Resource σ}
    {m' : Machine σ} :
    r.onEvent interpreter event m = (.error fault, r', m') ↔
      r' = r ∧ ∃ descriptor, r.Marshals event descriptor ∧
        descriptor.marshal interpreter event r.bindings.arrays m = (.error fault, m') := by
  refine ⟨fun h => ?_, ?_⟩
  · have hfailed : (r.onEvent interpreter event m).1 ≠ .ok true := by
      rw [h]
      exact nofun
    have hscript : ¬ (event.type = .localScriptEvent ∨ event.type = .remoteScriptEvent) :=
      fun hscript => hfailed (onEvent_scriptEvent interpreter r hscript m)
    obtain ⟨hlocal, hremote⟩ := not_or.mp hscript
    have hsubscribed : r.bindings.handlersOf event.type ≠ [] :=
      fun hnone => hfailed (onEvent_unsubscribed interpreter hnone m).1
    have hrun : r.phase = .running := by
      by_contra hrun
      exact hfailed (by simp [onEvent, isRunning, hrun])
    rw [onEvent_eq_dispatchHost interpreter r hrun hlocal hremote, dispatchHost] at h
    cases hlookup : r.registry.lookup? event.type with
    | none =>
      rw [hlookup] at h
      cases h
    | some descriptor =>
      have hmarshals : r.Marshals event descriptor :=
        ⟨hrun, hlocal, hremote, hlookup, hsubscribed⟩
      rcases hmarshal : descriptor.marshal interpreter event r.bindings.arrays m
        with ⟨cause | args, next⟩
      · have hsent := hmarshals.onEvent_eq hmarshal
        rw [onEvent_eq_dispatchHost interpreter r hrun hlocal hremote, dispatchHost] at hsent
        rw [hsent] at h
        cases h
        exact ⟨rfl, descriptor, hmarshals, hmarshal⟩
      · -- arguments that get through are no failure, whatever the handlers do
        rw [hlookup] at h
        simp only [hmarshal] at h
        split at h
        · cases h
        · split at h <;> cases h
  · rintro ⟨rfl, descriptor, hmarshals, hmarshal⟩
    exact hmarshals.onEvent_eq hmarshal

/-- The marshaling of host events is a gate: arguments that do not fit get nowhere.

What a descriptor's marshaling gives, whatever its parameters and its marshaling are, passes as it is
if there is one argument for each parameter and each fits, and is then passed the way its parameter
asks for.  Else the numbers are reported if they differ, and the first misfit if they do not.

An event fails exactly if this happens to its arguments.  Then no function has been called and nothing
has become of the resource.  The machine has new arrays and new log entries at most, and as the log has
no effect, all that comes later is as it is without the event, once the arrays are there.  Where the
resource cannot tell whether they are there, all is simply as it is without the event.

Without subscribers nothing is marshaled: the event stands, and nothing has happened. -/
theorem onEvent_gate {history : Journal} (h : Reachable interpreter history r m)
    (event : HostEvent) :
    (∀ (descriptor : EventDescriptor) (types : ArrayTypes) (before : Machine σ),
      let (args, after) := (descriptor.marshaling event).run interpreter types before
      ∃ verdict, descriptor.marshal interpreter event types before = (verdict, after) ∧
        Verdict descriptor.type descriptor.parameters args verdict) ∧
    (∀ fault r' m', r.onEvent interpreter event m = (.error fault, r', m') ↔
      r' = r ∧ ∃ descriptor, r.Marshals event descriptor ∧
        descriptor.marshal interpreter event r.bindings.arrays m = (.error fault, m')) ∧
    (∀ fault r' m', r.onEvent interpreter event m = (.error fault, r', m') →
      m'.journal.calls = m.journal.calls ∧ m'.now = m.now ∧
      m.journal.Grows Entry.IsLog m'.journal ∧
      ArraysMade interpreter r.bindings.arrays m m' ∧
      (∀ later, ∃ shown r₁ m₁ m₁', r'.goOn interpreter later m' = (shown, r₁, m₁) ∧
        r.goOn interpreter later { m with engine := m'.engine } = (shown, r₁, m₁') ∧
        m₁.engine = m₁'.engine ∧ m₁.now = m₁'.now) ∧
      ∀ (T : Tenancy σ) slot, T.Isolated interpreter → T.Twins slot r r →
        T.Alike slot ⟨m'.engine, r.hand⟩ ⟨m.engine, r.hand⟩ →
        ∀ later, (∀ step ∈ later, T.Admits slot step) →
          (r'.goOn interpreter later m').1 = (r.goOn interpreter later m).1 ∧
          (r'.goOn interpreter later m').2.1.phase = (r.goOn interpreter later m).2.1.phase ∧
          (r'.goOn interpreter later m').2.1.bindings
            = (r.goOn interpreter later m).2.1.bindings) ∧
    (r.bindings.handlersOf event.type = [] →
      (r.onEvent interpreter event m).1 = .ok true ∧
      (event.type ≠ .localScriptEvent → event.type ≠ .remoteScriptEvent →
        ∀ descriptor, r.registry.lookup? event.type = some descriptor →
          r.onEvent interpreter event m = (.ok true, r, m))) := by
  refine ⟨?_, fun _ _ _ => onEvent_eq_error_iff, ?_, fun hnone =>
    onEvent_unsubscribed interpreter hnone m⟩
  · intro descriptor types before
    exact ⟨_, rfl, checkArguments_verdict _ _ _⟩
  · intro fault r' m' hfailed
    obtain ⟨rfl, descriptor, hmarshals, hmarshal⟩ := onEvent_eq_error_iff.mp hfailed
    have hmade : ArraysMade interpreter r'.bindings.arrays m m' := by
      have hrun := (descriptor.marshaling event).run_arraysMade interpreter r'.bindings.arrays m
      rwa [show ((descriptor.marshaling event).run interpreter r'.bindings.arrays m).2 = m'
        from congrArg Prod.snd hmarshal] at hrun
    obtain ⟨hnow, hgrows⟩ := hmade.unchanged
    refine ⟨hmade.calls_eq, hnow, hgrows, hmade, ?_, ?_⟩
    · intro later
      have hphase : r'.phase ≠ .uninitialized := by
        rw [hmarshals.running]
        exact nofun
      exact goOn_unlogged interpreter h.sound.covers.wellFormed hphase later rfl hnow
    · intro T slot hT htwins halike later hlater
      rcases Tenancy.goOn_agree hT hlater htwins halike hnow with ⟨shown, p, p', hx, hx', hlast, -⟩
      rw [hx, hx']
      exact ⟨rfl, hlast.phase.symm, hlast.bindings.symm⟩

end Resource

namespace Sample

/-- A descriptor whose marshaling makes an array and then gives an argument for which there is no
parameter. -/
def careless : EventDescriptor :=
  { type := .playerConnect, parameters := [],
    marshaling := fun _ => .array .string [] fun _ => .done [.scalar (.bool true)] }

/-- A resource with that descriptor after its start. -/
def startedCareless : Except StartError Unit × Resource Unit × Machine Unit :=
  (Resource.new "sample" "main" package ⟨[careless]⟩ false).tryStart Sample.interpreter machine

theorem reachable_careless :
    Resource.Reachable Sample.interpreter
      (Journal.empty.following machine.journal startedCareless.2.2.journal)
      startedCareless.2.1 startedCareless.2.2 :=
  .performed .tryStart (.created "sample" "main" package ⟨[careless]⟩ false machine)

/-- A player connects, which nobody gets to know: the next tick is as if there had been nothing.  The
death of a player, to which nobody has subscribed, stands. -/
theorem onEvent_gate_careless :
    let r := startedCareless.2.1
    let m := startedCareless.2.2
    let connected := r.onEvent Sample.interpreter (.playerConnect ⟨.player, 1⟩) m
    let later : List (Happening Unit) := [.elsewhere ⟨5⟩ id, .operation .tick]
    connected.1 = .error (.arity .playerConnect 1 0) ∧ connected.2.1 = r ∧
      connected.2.2.journal.calls = m.journal.calls ∧
      (connected.2.1.goOn Sample.interpreter later connected.2.2).1 = (r.goOn Sample.interpreter later m).1 ∧
      (r.onEvent Sample.interpreter (.playerDeath ⟨.player, 1⟩ none 0) m).1 = .ok true := by
  intro r m connected later
  have hrun : r.phase = .running := by decide +kernel
  have hlookup : r.registry.lookup? .playerConnect = some careless := by with_unfolding_all rfl
  have hmarshals : r.Marshals (.playerConnect ⟨.player, 1⟩) careless :=
    ⟨hrun, by decide, by decide, hlookup, by decide +kernel⟩
  obtain ⟨-, hfails, hafter, -⟩ :=
    Resource.onEvent_gate reachable_careless (.playerConnect ⟨.player, 1⟩)
  obtain ⟨-, -, -, hunsubscribed⟩ :=
    Resource.onEvent_gate reachable_careless (.playerDeath ⟨.player, 1⟩ none 0)
  have hconnected : connected = (.error (.arity .playerConnect 1 0), r, connected.2.2) :=
    (hfails _ _ _).mpr ⟨rfl, careless, hmarshals, by with_unfolding_all rfl⟩
  obtain ⟨hcalls, -, -, -, -, hlater⟩ := hafter _ _ _ hconnected
  have htwins : (Tenancy.sole r).Twins r.name r r :=
    Tenancy.twins_sole reachable_careless.sound.covers.wellFormed (by rw [hrun]; exact nofun)
  have hadmits : ∀ step ∈ later, (Tenancy.sole r).Admits r.name step := by
    simp only [later, List.forall_mem_cons, List.not_mem_nil, false_imp_iff, forall_true_iff,
      and_true]
    exact ⟨fun _ _ _ _ halike => halike, trivial⟩
  have hsame := (hlater _ r.name (Tenancy.sole_isolated Sample.interpreter r) htwins
    (Tenancy.alike_sole_iff.mpr ⟨rfl, rfl⟩) later hadmits).1
  rw [hconnected]
  exact ⟨rfl, rfl, hcalls, hsame, (hunsubscribed (by decide +kernel)).1⟩

end Sample

end ScriptHost
