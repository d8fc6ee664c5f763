import Mathlib.Data.List.Forall2
import ScriptHost.HostFunction.Catalog
import ScriptHost.Proofs.Resource.Reachable

/-!
# The arguments of custom events

The callbacks of custom events are declared with parameters, as those of host events are.  The
arguments of a host event are checked against them before anything is called.  Those of a custom
event are put together without a check: `custom_arguments_fit_iff` says that they fit exactly if the
sender of a remote event is a player.
-/

namespace ScriptHost

variable {σ : Type} {interpreter : Interpreter σ}

/-! ## Parameters -/

/-- The parameters of the callback that handles custom events of a locality. -/
def Locality.callbackParameters : Locality → List Parameter
  | here => [⟨.array .any, "args"⟩]
  | remote => [⟨.entity .player, "player"⟩, ⟨.array .any, "args"⟩]

/-- The type of these callbacks. -/
def Locality.callbackDeclaration (locality : Locality) : String :=
  let name :=
    match locality with
    | here => "LocalEventCallback"
    | remote => "RemoteEventCallback"
  "void " ++ name ++ "(" ++ Parameter.listDeclaration locality.callbackParameters ++ ")"

/-- Scripts are compiled against callback types with these parameters. -/
theorem Locality.callbackDeclaration_mem (locality : Locality) :
    .callbackType locality.callbackDeclaration ∈ hostCatalog := by
  cases locality <;> decide

/-- There is one argument for each parameter, and it can fill it. -/
def ArgumentsFit (args : List Argument) (parameters : List Parameter) : Prop :=
  List.Forall₂ (fun argument parameter => argument.fits parameter.type = true) args parameters

/-- The check that the arguments of host events go through lets just those pass that fit. -/
theorem checkArguments_eq_ok_iff {type : EventType} {parameters : List Parameter}
    {args : List Argument} :
    checkArguments type parameters args = .ok args ↔ ArgumentsFit args parameters := by
  rw [ArgumentsFit, List.forall₂_iff_zip, checkArguments]
  by_cases hlength : args.length = parameters.length
  · rw [if_neg (not_not_intro hlength)]
    split
    · next misfit parameter hmisfit =>
      refine iff_of_false (fun h => by cases h) ?_
      rintro ⟨-, hfits⟩
      have hnot := List.find?_some hmisfit
      rw [Bool.not_eq_true', hfits (List.mem_of_find?_eq_some hmisfit)] at hnot
      cases hnot
    · next hmisfit =>
      refine iff_of_true rfl ⟨hlength, ?_⟩
      intro argument parameter hmem
      simpa using List.find?_eq_none.mp hmisfit _ hmem
  · rw [if_pos hlength]
    exact iff_of_false (fun h => by cases h) fun h => hlength h.1

/-! ## Arguments -/

/-- An interpreter that makes arrays of a type, or reports why there is none. -/
def Interpreter.MakesArrays (interpreter : Interpreter σ) (type : ArrayTypeHandle) : Prop :=
  ∀ engine items array,
    (interpreter.createArray engine type items).1 = .ok array → ∃ object, array = .script object

/-- What a script gets for an array can fill an array parameter: if there is no array, it gets a
null handle. -/
theorem ArrayTypes.create_fits {types : ArrayTypes} {kind : ArrayKind}
    (h : ∀ type, types.get? kind = some type → interpreter.MakesArrays type)
    (items : List Value) (m : Machine σ) :
    (types.create interpreter kind items m).1.fits (.array kind) = true := by
  unfold create
  cases htype : types.get? kind with
  | none => rfl
  | some type =>
    simp only
    rcases hcreate : interpreter.createArray m.engine type items with ⟨cause | array, engine⟩
    · rfl
    · have hfirst : (interpreter.createArray m.engine type items).1 = .ok array :=
        congrArg Prod.fst hcreate
      obtain ⟨object, rfl⟩ := h type htype _ _ _ hfirst
      rfl

/-- The sender of a remote event, if there is one, is a player. -/
def SenderFits (locality : Locality) (sender : Option Entity) : Prop :=
  locality = .remote → ∀ entity, sender = some entity → entity.kind = .player

theorem ofEntity?_fits_iff {sender : Option Entity} :
    (ObjectRef.ofEntity? sender).fits (.entity .player) = true
      ↔ ∀ entity, sender = some entity → entity.kind = .player := by
  cases sender with
  | none => exact iff_of_true rfl fun _ h => by cases h
  | some entity => simp [ObjectRef.ofEntity?, ObjectRef.fits]

theorem customArguments_length (locality : Locality) (sender : Option Entity)
    (array : ObjectRef) :
    (Resource.customArguments locality sender array).length
      = locality.callbackParameters.length := by
  cases locality <;> rfl

theorem customArguments_fit_iff {locality : Locality} {sender : Option Entity}
    {array : ObjectRef} (harray : array.fits (.array .any) = true) :
    ArgumentsFit (Resource.customArguments locality sender array) locality.callbackParameters
      ↔ SenderFits locality sender := by
  unfold ArgumentsFit SenderFits
  cases locality with
  | here => simpa [Resource.customArguments, Locality.callbackParameters, Argument.fits] using harray
  | remote =>
    simp only [Resource.customArguments, Locality.callbackParameters, List.forall₂_cons,
      Argument.fits, harray, ofEntity?_fits_iff]
    simp

/-! ## Custom events -/

/-- What is sent to custom handlers. -/
structure CustomEvent where
  name : String
  locality : Locality
  sender : Option Entity
  values : List Value

/-- The custom event that an operation sends: host events of two categories carry one, and others
are sent directly. -/
def Operation.customEvent? : Operation → Option CustomEvent
  | .event (.localScriptEvent name values) => some ⟨name, .here, none, values⟩
  | .event (.remoteScriptEvent name player values) => some ⟨name, .remote, some player, values⟩
  | .dispatch name locality sender values => some ⟨name, locality, sender, values⟩
  | _ => none

namespace Resource

variable {history : Journal} {r : Resource σ} {m : Machine σ}

theorem perform_customEvent (hrun : r.isRunning = true) {operation : Operation}
    {event : CustomEvent} (h : operation.customEvent? = some event) :
    (r.perform interpreter operation m).2
      = r.dispatchCustom interpreter event.name event.locality event.sender event.values m := by
  unfold Operation.customEvent? at h
  split at h
  · cases h
    simp [perform, onEvent, hrun]
  · cases h
    simp [perform, onEvent, hrun]
  · cases h
    rfl
  · cases h

/-- The handlers of a custom event get one argument for each parameter of the callback type that
they are declared with, which is one of those exposed to scripts.  All arguments fit their
parameters unless the event is remote and comes from an entity that is no player. -/
theorem custom_arguments_fit_iff (h : Reachable interpreter history r m)
    (hrun : r.phase = .running)
    (harrays : ∀ type, r.bindings.arrays.any = some type → interpreter.MakesArrays type)
    {operation : Operation} {event : CustomEvent} (hevent : operation.customEvent? = some event) :
    .callbackType event.locality.callbackDeclaration ∈ hostCatalog ∧
    ∃ context calls t,
      r.context = some context ∧
      (r.perform interpreter operation m).2 = (r.adopt t, t.machine) ∧
      CallsBetween interpreter context HostMove calls (r.scene m) t ∧
      t.machine.journal.calls = m.journal.calls ++ calls.map (·.summary) ∧
      calls.map (·.function) = r.bindings.custom.callbacksOf event.name event.locality ∧
      ∀ c ∈ calls, c.CarriedOut interpreter context ∧
        c.args.length = event.locality.callbackParameters.length ∧
        (ArgumentsFit c.args event.locality.callbackParameters
          ↔ SenderFits event.locality event.sender) := by
  rcases (h.sound.lived.at_phase hrun).of_running with ⟨_, context, _, hcontext, _⟩
  have hrunning : r.isRunning = true := by simp [isRunning, hrun]
  have hsome : r.context.isSome := by simp [hcontext]
  rcases r.dispatchCustom_calls interpreter event.name event.locality event.sender event.values m
    with ⟨t, calls, heq, hdispatch, hfunctions, hcauses⟩
  have hcalls := hdispatch.called context hcontext
  refine ⟨event.locality.callbackDeclaration_mem, context, calls, t, hcontext, ?_, hcalls, ?_,
    hfunctions hrunning hsome, ?_⟩
  · rw [perform_customEvent hrunning hevent, heq]
  · exact hcalls.calls_eq fun _ _ => HostMove.calls_eq
  · intro c hc
    rcases hcauses c hc with ⟨-, hargs, -⟩
    have hany : ∀ type, r.bindings.arrays.get? .any = some type → interpreter.MakesArrays type :=
      harrays
    have harray := ArrayTypes.create_fits hany event.values m
    rw [hargs]
    exact ⟨(hcalls.forall_made c hc).carriedOut, customArguments_length _ _ _,
      customArguments_fit_iff harray⟩

end Resource

/-! ## A sample run -/

namespace Sample

/-- Whenever a function is called, it has the greeter handle the remote event `wave`. -/
def waving : Interpreter Unit :=
  { Sample.interpreter with
    execute := fun _ _ =>
      .called () (.onCustom .remote) .bindings [.object (.string "wave"), .function greeter]
        fun _ _ => .ended () (.ok .finished)
    createArray := fun _ type items => (.ok (.script (.array type.declaration items)), ()) }

theorem waving_makesArrays (type : ArrayTypeHandle) : waving.MakesArrays type := by
  intro engine items array h
  exact ⟨_, (Except.ok.inj h).symm⟩

theorem waving_phase : (startWith waving).2.1.phase = .running := by decide +kernel

theorem waving_context : (startWith waving).2.1.context = some ⟨0⟩ := by decide +kernel

theorem waving_handlers :
    (startWith waving).2.1.bindings.custom.callbacksOf "wave" .remote = [greeter] := by
  decide +kernel

end Sample

namespace Resource

/-- A player who waves is handed to the greeter as one. -/
theorem custom_arguments_fit_player : ∃ context calls t,
    ((Sample.startWith Sample.waving).2.1.perform Sample.waving
        (.event (.remoteScriptEvent "wave" ⟨.player, 1⟩ [])) (Sample.startWith Sample.waving).2.2).2
      = ((Sample.startWith Sample.waving).2.1.adopt t, t.machine) ∧
      CallsBetween Sample.waving context HostMove calls
        ((Sample.startWith Sample.waving).2.1.scene (Sample.startWith Sample.waving).2.2) t ∧
      calls.map (·.function) = [Sample.greeter] ∧
      ∀ c ∈ calls, ArgumentsFit c.args Locality.remote.callbackParameters := by
  have hevent : (Operation.event (.remoteScriptEvent "wave" ⟨.player, 1⟩ [])).customEvent?
      = some ⟨"wave", .remote, some ⟨.player, 1⟩, []⟩ := rfl
  obtain ⟨-, context, calls, t, -, heq, hcalls, -, hfunctions, hfits⟩ :=
    custom_arguments_fit_iff (Sample.reachable_startWith Sample.waving) Sample.waving_phase
      (fun type _ => Sample.waving_makesArrays type) hevent
  refine ⟨context, calls, t, heq, hcalls, hfunctions.trans Sample.waving_handlers, ?_⟩
  intro c hc
  apply (hfits c hc).2.2.mpr
  intro _ entity hentity
  rw [← Option.some.inj hentity]

/-- A vehicle that waves is handed to the greeter as well, in place of a player. -/
theorem custom_misfits_vehicle : ∃ calls t,
    ((Sample.startWith Sample.waving).2.1.perform Sample.waving
        (.event (.remoteScriptEvent "wave" ⟨.vehicle, 1⟩ [])) (Sample.startWith Sample.waving).2.2).2
      = ((Sample.startWith Sample.waving).2.1.adopt t, t.machine) ∧
      CallsBetween Sample.waving ⟨0⟩ HostMove calls
        ((Sample.startWith Sample.waving).2.1.scene (Sample.startWith Sample.waving).2.2) t ∧
      calls.map (·.function) = [Sample.greeter] ∧
      ∀ c ∈ calls, ¬ ArgumentsFit c.args Locality.remote.callbackParameters := by
  have hrun : (Sample.startWith Sample.waving).2.1.isRunning = true := by
    simp [isRunning, Sample.waving_phase]
  rcases (Sample.startWith Sample.waving).2.1.dispatchCustom_calls Sample.waving "wave" .remote
    (some ⟨.vehicle, 1⟩) [] (Sample.startWith Sample.waving).2.2
    with ⟨t, calls, heq, hdispatch, hfunctions, hcauses⟩
  refine ⟨calls, t, ?_, hdispatch.called _ Sample.waving_context, ?_, ?_⟩
  · have hevent : (Operation.event (.remoteScriptEvent "wave" ⟨.vehicle, 1⟩ [])).customEvent?
        = some ⟨"wave", .remote, some ⟨.vehicle, 1⟩, []⟩ := rfl
    rw [← heq]
    exact perform_customEvent hrun hevent
  · rw [hfunctions hrun (by rw [Sample.waving_context]; rfl), Sample.waving_handlers]
  · intro c hc hfits
    rw [(hcauses c hc).2.1] at hfits
    have hplayer := (List.forall₂_cons.mp hfits).1
    cases hplayer

end Resource

end ScriptHost
