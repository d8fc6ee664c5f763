import ScriptHost.HostFunction.Catalog
import ScriptHost.Proofs.Exposure.Listing
import ScriptHost.Proofs.Fleet.Turns
import ScriptHost.Proofs.HostFunction.Effect
import ScriptHost.Proofs.Timer.Runs

/-!
# Host functions are atomic

What a host function reads is a list of places with what is expected there (`HostFunction.reads`),
and that list and the user data decide whether and why a call is refused (`HostFunction.refusal?`).
A call that is refused changes no bindings, and one that is answered makes the one change that the
function is for (`HostFunction.Declared`).
-/

namespace ScriptHost

/-! ## Reading arguments -/

/-- Whether an argument is of the kind that is expected. -/
def ExpectedArgument.admits : ExpectedArgument → HostArgument → Bool
  | functionHandle, .function _ => true
  | string, .object (.string _) => true
  | uint, .scalar (.uint32 _) => true
  | _, _ => false

/-- Whether there is an argument at a place and it is of the kind that is expected there. -/
def readable (args : List HostArgument) (read : Nat × ExpectedArgument) : Bool :=
  args[read.1]?.any read.2.admits

/-- Whether an argument was read goes by the argument at its place, and the failure names that
place. -/
def ReadAt {α : Type} (args : List HostArgument) (read : Nat × ExpectedArgument) :
    Except HostCallError α → Prop
  | .ok _ => readable args read = true
  | .error e => readable args read = false ∧ e = .badArgument read.1 read.2

@[simp] theorem readAt_ok {α : Type} {args : List HostArgument} {read : Nat × ExpectedArgument}
    {value : α} : ReadAt args read (.ok value) ↔ readable args read = true := Iff.rfl

theorem functionAt_readAt (args : List HostArgument) (index : Nat) :
    ReadAt args (index, .functionHandle) (functionAt args index) := by
  unfold functionAt
  split
  · next h => simp [ReadAt, readable, h, ExpectedArgument.admits]
  · next h =>
    refine ⟨?_, rfl⟩
    rw [readable, Option.any_eq_false]
    rintro (_ | _ | _) hat
    · exact absurd hat (h _)
    · rfl
    · rfl

theorem stringAt_readAt (args : List HostArgument) (index : Nat) :
    ReadAt args (index, .string) (stringAt args index) := by
  unfold stringAt
  split
  · next h => simp [ReadAt, readable, h, ExpectedArgument.admits]
  · next h =>
    refine ⟨?_, rfl⟩
    rw [readable, Option.any_eq_false]
    rintro (_ | _ | object) hat
    · rfl
    · rfl
    · cases object <;> first | rfl | exact absurd hat (h _)

theorem uintAt_readAt (args : List HostArgument) (index : Nat) :
    ReadAt args (index, .uint) (uintAt args index) := by
  unfold uintAt
  split
  · next h => simp [ReadAt, readable, h, ExpectedArgument.admits]
  · next h =>
    refine ⟨?_, rfl⟩
    rw [readable, Option.any_eq_false]
    rintro (_ | scalar | _) hat
    · rfl
    · cases scalar <;> first | rfl | exact absurd hat (h _)
    · rfl

namespace HostFunction

/-- Where the host function looks for its arguments and what it expects there, in the order in which
it reads them. -/
def reads : HostFunction → List (Nat × ExpectedArgument)
  | setTimer delayIndex _ => (0, .functionHandle) :: (delayIndex.map (·, .uint)).toList
  | clearTimer => [(0, .uint)]
  | onCustom _ => [(1, .functionHandle), (0, .string)]
  | createArray _ => [(0, .uint)]
  | log => [(0, .string)]
  | onEvent _ => [(0, .functionHandle)]

/-- Whether the host function is for scripts of a resource only. -/
def needsBindings : HostFunction → Bool
  | log => false
  | _ => true

/-- Why a call is refused: for the first argument, as they are read, that is missing or of the wrong
kind, and only if there is none such for want of a resource. -/
def refusal? (function : HostFunction) (userData : UserData) (args : List HostArgument) :
    Option HostCallError :=
  match function.reads.find? fun read => !readable args read with
  | some (index, expected) => some (.badArgument index expected)
  | none =>
    if function.needsBindings && userData != .bindings then some .noActiveResource else none

/-! ## The declared changes -/

/-- What a call that is answered gives back, and what it makes of bindings.  A timer is new under the
id that is given back, an id is queued for removal once, and every handler comes last. -/
inductive Declared (now : Instant) (args : List HostArgument) (bindings : Bindings) :
    HostFunction → HostReturn → Bindings → Prop
  | timer {delayIndex : Option Nat} {once : Bool} {callback : FunctionHandle} {delay : UInt32}
      (hcallback : functionAt args 0 = .ok callback) (hdelay : delayOf delayIndex args = .ok delay)
      (hnew : bindings.timers.find? bindings.timers.nextId = none) :
      Declared now args bindings (.setTimer delayIndex once)
        (.scalar (.uint32 bindings.timers.nextId))
        { bindings with
          timers :=
            { bindings.timers with
              timers := bindings.timers.timers
                ++ [(bindings.timers.nextId, ⟨callback, milliseconds delay.toNat, now, once⟩)]
              nextId := bindings.timers.nextId + 1 } }
  | clear {id : UInt32} (hid : uintAt args 0 = .ok id) :
      Declared now args bindings .clearTimer .void
        { bindings with
          timers :=
            { bindings.timers with
              pending :=
                if id ∈ bindings.timers.pending then bindings.timers.pending
                else bindings.timers.pending ++ [id] } }
  | onCustom {locality : Locality} {name : String} {callback : FunctionHandle}
      (hcallback : functionAt args 1 = .ok callback) (hname : stringAt args 0 = .ok name) :
      Declared now args bindings (.onCustom locality) .void
        { bindings with custom := ⟨bindings.custom.entries ++ [⟨name, locality, callback⟩]⟩ }
  | createArray {kind : ArrayKind} {length : UInt32} (array : ObjectRef)
      (hlength : uintAt args 0 = .ok length) :
      Declared now args bindings (.createArray kind) (.object array) bindings
  | log {text : String} (htext : stringAt args 0 = .ok text) :
      Declared now args bindings .log .void bindings
  | onEvent {type : EventType} {callback : FunctionHandle}
      (hcallback : functionAt args 0 = .ok callback) :
      Declared now args bindings (.onEvent type) .void
        { bindings with handlers := bindings.handlers ++ [(type, callback)] }

/-- A call either is refused and changes no bindings, or makes the declared change. -/
def Atomic (function : HostFunction) (userData : UserData) (args : List HostArgument) (now : Instant)
    (before after : Bindings) : HostResult → Prop
  | .error e => function.refusal? userData args = some e ∧ after = before
  | .ok answer =>
    function.refusal? userData args = none ∧ Declared now args before function answer after

namespace Declared

variable {now : Instant} {args : List HostArgument} {before after : Bindings}
  {function : HostFunction} {answer : HostReturn}

/-- Only a handler of the category itself gets into the list of a category. -/
theorem handlersOf_eq (h : Declared now args before function answer after) (type : EventType) :
    after.handlersOf type = before.handlersOf type
      ++ if function = .onEvent type then (function.callback? args).toList else [] := by
  cases h with
  | @onEvent type' callback hcallback =>
    have hread : (HostFunction.onEvent type').callback? args = some callback :=
      callback?_eq_some rfl hcallback
    rw [hread]
    by_cases htype : type' = type
    · simp [Bindings.handlersOf, htype]
    · simp [Bindings.handlersOf, htype]
  | timer | clear | onCustom | createArray | log => simp [Bindings.handlersOf]

/-- Only a handler of that name and that locality gets into their list. -/
theorem callbacksOf_eq (h : Declared now args before function answer after) (name : String)
    (locality : Locality) :
    after.custom.callbacksOf name locality = before.custom.callbacksOf name locality
      ++ if function = .onCustom locality ∧ stringAt args 0 = .ok name then
          (function.callback? args).toList
        else [] := by
  cases h with
  | @onCustom locality' name' callback hcallback hname =>
    have hread : (HostFunction.onCustom locality').callback? args = some callback :=
      callback?_eq_some rfl hcallback
    rw [hread, hname]
    by_cases hlocality : locality' = locality <;> by_cases heq : name' = name <;>
      simp [CustomHandlers.callbacksOf, hlocality, heq]
  | timer | clear | createArray | log | onEvent => simp

end Declared

/-! ## Calls -/

section Atomic

variable {function : HostFunction} {userData : UserData} {args : List HostArgument} {now : Instant}
  {bindings after : Bindings}

/-- The first argument that cannot be read is the reason. -/
theorem atomic_of_bad {α : Type} (before : List (Nat × ExpectedArgument))
    {rest : List (Nat × ExpectedArgument)}
    {read : Nat × ExpectedArgument} {e : HostCallError}
    (h : ReadAt args read (.error e : Except HostCallError α))
    (hreads : function.reads = before ++ read :: rest)
    (hbefore : ∀ r ∈ before, readable args r = true) :
    Atomic function userData args now bindings bindings (.error e) := by
  obtain ⟨hbad, rfl⟩ := h
  have hfind : function.reads.find? (fun r => !readable args r) = some read := by
    rw [hreads, List.find?_append, List.find?_eq_none.mpr (by simpa using hbefore)]
    simp [hbad]
  exact ⟨by simp [refusal?, hfind], rfl⟩

theorem refusal?_of_good (h : ∀ r ∈ function.reads, readable args r = true) :
    function.refusal? userData args
      = if function.needsBindings && userData != .bindings then some .noActiveResource else none := by
  have hfind : function.reads.find? (fun r => !readable args r) = none :=
    List.find?_eq_none.mpr (by simpa using h)
  rw [refusal?, hfind]

theorem atomic_of_noResource (h : ∀ r ∈ function.reads, readable args r = true)
    (hneeds : function.needsBindings = true) (hdata : userData ≠ .bindings) :
    Atomic function userData args now bindings bindings (.error .noActiveResource) :=
  ⟨by simp [refusal?_of_good h, hneeds, hdata], rfl⟩

theorem atomic_of_declared {answer : HostReturn} (h : ∀ r ∈ function.reads, readable args r = true)
    (hdata : function.needsBindings = true → userData = .bindings)
    (hdeclared : Declared now args bindings function answer after) :
    Atomic function userData args now bindings after (.ok answer) := by
  refine ⟨?_, hdeclared⟩
  rw [refusal?_of_good h]
  cases hneeds : function.needsBindings with
  | false => rfl
  | true => simp [hdata hneeds]

end Atomic

section Run

variable {σ : Type} (interpreter : Interpreter σ) (userData : UserData) (args : List HostArgument)
  {s : Scene σ}

/-- The delay, if there is a place for it, is read after the callback. -/
theorem delayOf_cases (delayIndex : Option Nat) (once : Bool) :
    (∃ delay, delayOf delayIndex args = .ok delay ∧
        ∀ r ∈ (setTimer delayIndex once).reads.tail, readable args r = true) ∨
      ∃ read e, delayOf delayIndex args = .error e ∧
        (setTimer delayIndex once).reads = [(0, .functionHandle), read] ∧
        ReadAt args read (.error e : Except HostCallError UInt32) := by
  cases delayIndex with
  | none => exact .inl ⟨0, rfl, by simp [reads]⟩
  | some index =>
    have hread := uintAt_readAt args index
    simp only [delayOf]
    cases hdelay : uintAt args index with
    | ok delay =>
      rw [hdelay] at hread
      exact .inl ⟨delay, rfl, by simpa [reads] using hread⟩
    | error e =>
      rw [hdelay] at hread
      exact .inr ⟨(index, .uint), e, rfl, rfl, hread⟩

/-- What a call comes to is atomic. -/
def RunsAtomically (s : Scene σ) (function : HostFunction) : Prop :=
  function.Atomic userData args s.machine.now s.bindings
    (function.run interpreter userData args s).2.bindings
    (function.run interpreter userData args s).1

/-! Each host function reads its arguments one after the other and touches the bindings last. -/

theorem setTimer_runsAtomically (delayIndex : Option Nat) (once : Bool)
    (hnew : ∀ id ∈ s.bindings.timers.ids, id < s.bindings.timers.nextId) :
    RunsAtomically interpreter userData args s (.setTimer delayIndex once) := by
  have hcallback := functionAt_readAt args 0
  simp only [RunsAtomically, run]
  cases hread : functionAt args 0 with
  | error e =>
    rw [hread] at hcallback
    exact atomic_of_bad [] hcallback rfl (by simp)
  | ok callback =>
    rw [hread] at hcallback
    rcases delayOf_cases args delayIndex once with
      ⟨delay, hdelay, hrest⟩ | ⟨read, e, hdelay, hreads, hbad⟩
    · have hgood : ∀ r ∈ (setTimer delayIndex once).reads, readable args r = true :=
        List.forall_mem_cons.mpr ⟨hcallback, hrest⟩
      simp only [hdelay]
      split
      · next hdata =>
        have hinsert := Keyed.insert_eq_append
          (Timer.mk callback (milliseconds delay.toNat) s.machine.now once) hnew
        have hfree : s.bindings.timers.find? s.bindings.timers.nextId = none :=
          Keyed.find?_eq_none.mpr fun hmem => UInt32.lt_irrefl _ (hnew _ hmem)
        have hdeclared : Declared s.machine.now args s.bindings (.setTimer delayIndex once) _ _ :=
          .timer hread hdelay hfree
        rw [← hinsert] at hdeclared
        exact atomic_of_declared hgood (fun _ => hdata) hdeclared
      · next hdata => exact atomic_of_noResource hgood rfl hdata
    · simp only [hdelay]
      exact atomic_of_bad [(0, .functionHandle)] hbad hreads (by simpa using hcallback)

theorem clearTimer_runsAtomically : RunsAtomically interpreter userData args s .clearTimer := by
  have hid := uintAt_readAt args 0
  simp only [RunsAtomically, run]
  cases hread : uintAt args 0 with
  | error e =>
    rw [hread] at hid
    exact atomic_of_bad [] hid rfl (by simp)
  | ok id =>
    rw [hread] at hid
    have hgood : ∀ r ∈ clearTimer.reads, readable args r = true := by simpa [reads] using hid
    simp only
    split
    · next hdata =>
      have hdeclared : Declared s.machine.now args s.bindings .clearTimer _ _ := .clear hread
      have hremove : s.bindings.timers.remove id =
          { s.bindings.timers with
            pending :=
              if id ∈ s.bindings.timers.pending then s.bindings.timers.pending
              else s.bindings.timers.pending ++ [id] } := by
        rw [TimerTable.remove, TimerTable.isPending]
        by_cases hmem : id ∈ s.bindings.timers.pending <;> simp [hmem]
      rw [← hremove] at hdeclared
      exact atomic_of_declared hgood (fun _ => hdata) hdeclared
    · next hdata => exact atomic_of_noResource hgood rfl hdata

theorem onCustom_runsAtomically (locality : Locality) :
    RunsAtomically interpreter userData args s (.onCustom locality) := by
  have hcallback := functionAt_readAt args 1
  have hname := stringAt_readAt args 0
  simp only [RunsAtomically, run]
  cases hread : functionAt args 1 with
  | error e =>
    rw [hread] at hcallback
    exact atomic_of_bad [] hcallback rfl (by simp)
  | ok callback =>
    rw [hread] at hcallback
    cases htext : stringAt args 0 with
    | error e =>
      rw [htext] at hname
      exact atomic_of_bad [(1, .functionHandle)] hname rfl (by simpa using hcallback)
    | ok name =>
      rw [htext] at hname
      have hgood : ∀ r ∈ (onCustom locality).reads, readable args r = true :=
        List.forall_mem_cons.mpr ⟨hcallback, by simpa using hname⟩
      simp only
      split
      · next hdata => exact atomic_of_declared hgood (fun _ => hdata) (.onCustom hread htext)
      · next hdata => exact atomic_of_noResource hgood rfl hdata

theorem createArray_runsAtomically (kind : ArrayKind) :
    RunsAtomically interpreter userData args s (.createArray kind) := by
  have hlength := uintAt_readAt args 0
  simp only [RunsAtomically, run]
  cases hread : uintAt args 0 with
  | error e =>
    rw [hread] at hlength
    exact atomic_of_bad [] hlength rfl (by simp)
  | ok length =>
    rw [hread] at hlength
    have hgood : ∀ r ∈ (createArray kind).reads, readable args r = true := by
      simpa [reads] using hlength
    simp only
    split
    · next hdata => exact atomic_of_declared hgood (fun _ => hdata) (.createArray _ hread)
    · next hdata => exact atomic_of_noResource hgood rfl hdata

theorem log_runsAtomically : RunsAtomically interpreter userData args s .log := by
  have htext := stringAt_readAt args 0
  simp only [RunsAtomically, run]
  cases hread : stringAt args 0 with
  | error e =>
    rw [hread] at htext
    exact atomic_of_bad [] htext rfl (by simp)
  | ok text =>
    rw [hread] at htext
    have hgood : ∀ r ∈ log.reads, readable args r = true := by simpa [reads] using htext
    exact atomic_of_declared hgood (fun hneeds => by cases hneeds) (.log hread)

theorem onEvent_runsAtomically (type : EventType) :
    RunsAtomically interpreter userData args s (.onEvent type) := by
  have hcallback := functionAt_readAt args 0
  simp only [RunsAtomically, run]
  cases hread : functionAt args 0 with
  | error e =>
    rw [hread] at hcallback
    exact atomic_of_bad [] hcallback rfl (by simp)
  | ok callback =>
    rw [hread] at hcallback
    have hgood : ∀ r ∈ (onEvent type).reads, readable args r = true := by
      simpa [reads] using hcallback
    simp only
    split
    · next hdata => exact atomic_of_declared hgood (fun _ => hdata) (.onEvent hread)
    · next hdata => exact atomic_of_noResource hgood rfl hdata

theorem run_atomic (function : HostFunction)
    (hnew : ∀ id ∈ s.bindings.timers.ids, id < s.bindings.timers.nextId) :
    RunsAtomically interpreter userData args s function := by
  cases function with
  | setTimer delayIndex once =>
    exact setTimer_runsAtomically interpreter userData args delayIndex once hnew
  | clearTimer => exact clearTimer_runsAtomically interpreter userData args
  | onCustom locality => exact onCustom_runsAtomically interpreter userData args locality
  | createArray kind => exact createArray_runsAtomically interpreter userData args kind
  | log => exact log_runsAtomically interpreter userData args
  | onEvent type => exact onEvent_runsAtomically interpreter userData args type

end Run

end HostFunction

/-- A table in whose use fewer than 2³² - 1 timers have been created. -/
def TimerTable.HasRoom (table : TimerTable) : Prop :=
  ∃ operations, TimerOperation.creations operations < UInt32.size - 1 ∧
    table = ({} : TimerTable).performAll operations

theorem TimerTable.HasRoom.lt_nextId {table : TimerTable} (h : table.HasRoom) {id : UInt32}
    (hid : id ∈ table.ids) : id < table.nextId := by
  obtain ⟨operations, hcreations, rfl⟩ := h
  exact (numbered_performAll hcreations).lt_nextId hid

namespace HostFunction

/-- Counting the references that come with the arguments changes no bindings. -/
theorem runCounted_atomic {σ : Type} (interpreter : Interpreter σ) (function : HostFunction)
    (userData : UserData) (args : List HostArgument) {s : Scene σ}
    (hroom : s.bindings.timers.HasRoom) :
    Atomic function userData args s.machine.now s.bindings
      (function.runCounted interpreter userData args s).2.bindings
      (function.runCounted interpreter userData args s).1 := by
  let counted : Scene σ :=
    { s with machine := s.machine.recordAll ((functionHandles args).map .retained) }
  have hrun : RunsAtomically interpreter userData args counted function :=
    run_atomic interpreter userData args function fun _ => hroom.lt_nextId
  exact hrun

/-- Every call of a host function is atomic, whatever it is called with.

A call from a script acts on the bindings of that script's resource, and a call that a host makes in
a slot leaves all other slots as they are.  If it is refused, the bindings stay, and the reason is the
first argument that cannot be read or, with good arguments, the want of a resource.  If it is
answered, the bindings have the declared change and no other: only a subscription adds to the handlers
of a category or of a name and locality, and only to its own.  The subscription that a descriptor
exposes is to the descriptor's own category. -/
theorem call_atomic {σ : Type} (function : HostFunction) (userData : UserData)
    (args : List HostArgument) :
    (∀ (interpreter : Interpreter σ) (s : Scene σ), s.bindings.timers.HasRoom →
      ∀ result t, function.runCounted interpreter userData args s = (result, t) →
        Atomic function userData args s.machine.now s.bindings t.bindings result ∧
        (result.isOk →
          (∀ type, t.bindings.handlersOf type = s.bindings.handlersOf type
            ++ if function = .onEvent type then (function.callback? args).toList else []) ∧
          ∀ name locality, t.bindings.custom.callbacksOf name locality
            = s.bindings.custom.callbacksOf name locality
              ++ if function = .onCustom locality ∧ stringAt args 0 = .ok name then
                  (function.callback? args).toList
                else [])) ∧
    (∀ (fleet : Fleet σ) (slot : String) (r : Resource σ), fleet.member? slot = some r →
      r.bindings.timers.HasRoom →
      ∃ result after next,
        fleet.perform slot (.hostCall function userData args)
          = (some (.returned result), next) ∧
        next.member? slot = some { r with bindings := after } ∧
        Atomic function userData args fleet.machine.now r.bindings after result ∧
        ∀ other, other ≠ slot → next.member? other = fleet.member? other) ∧
    ∀ descriptor : EventDescriptor, descriptor.exposure = .subscription →
      ∀ f listed, .function descriptor.subscribeDeclaration f listed ∈ descriptor.exposureSteps →
        f = .onEvent descriptor.type := by
  refine ⟨?_, ?_, ?_⟩
  · intro interpreter s hroom result t h
    have hatomic := runCounted_atomic interpreter function userData args hroom
    rw [h] at hatomic
    refine ⟨hatomic, fun hok => ?_⟩
    cases result with
    | error e => cases hok
    | ok answer => exact ⟨hatomic.2.handlersOf_eq, hatomic.2.callbacksOf_eq⟩
  · intro fleet slot r hmember hroom
    have hatomic := runCounted_atomic fleet.host.interpreter function userData args
      (s := r.scene fleet.machine) hroom
    have hacts := fleet.act_acts slot (.operate (.hostCall function userData args))
    have hrun := hacts.run
    rw [hmember] at hrun
    obtain ⟨hanswer, hnext⟩ := Prod.mk.inj hrun
    refine ⟨_, _, _, Prod.ext hanswer.symm rfl, (Prod.mk.inj hnext).1.symm, hatomic,
      hacts.others⟩
  · intro descriptor hexposure f listed hmem
    rw [EventDescriptor.exposureSteps, hexposure] at hmem
    simp only [List.mem_cons, reduceCtorEq, ExposureStep.function.injEq, false_or,
      List.not_mem_nil, or_false, true_and] at hmem
    exact hmem.1

end HostFunction

namespace Sample

/-- A host with one resource, which has just started. -/
def greeting : Fleet Unit :=
  { host := ⟨interpreter, Builtin.registry, {}, .new "alt"⟩, machine := after,
    members := [("a", started)] }

/-- A subscription to waves adds to the local handlers of waves.  Without a callback it is refused, and
nothing is subscribed to. -/
theorem call_atomic_greeting :
    let wave : HostArgument := .object (.string "wave")
    started.bindings.timers.HasRoom ∧
    (∃ s, (HostFunction.onCustom .here).runCounted interpreter .bindings [wave, .function greeter]
        (started.scene after) = (.ok .void, s) ∧
      s.bindings.custom.callbacksOf "wave" .here = [greeter] ∧
      s.bindings.custom.callbacksOf "wave" .remote = []) ∧
    ∃ result bindings next,
      greeting.perform "a" (.hostCall (.onCustom .here) .bindings [wave, wave])
        = (some (.returned result), next) ∧
      result = .error (.badArgument 1 .functionHandle) ∧
      (HostFunction.onCustom .here).Atomic .bindings [wave, wave] after.now started.bindings bindings
        result ∧
      bindings = started.bindings := by
  intro wave
  have hroom : started.bindings.timers.HasRoom := ⟨[], by decide, by decide +kernel⟩
  refine ⟨hroom, ?_, ?_⟩
  · obtain ⟨hcall, -, -⟩ :=
      HostFunction.call_atomic (σ := Unit) (.onCustom .here) .bindings [wave, .function greeter]
    obtain ⟨-, hadds⟩ := hcall interpreter (started.scene after) hroom (.ok .void) _ rfl
    obtain ⟨-, hcallbacks⟩ := hadds rfl
    exact ⟨_, rfl, (hcallbacks "wave" .here).trans (by decide +kernel),
      (hcallbacks "wave" .remote).trans (by decide +kernel)⟩
  · obtain ⟨-, hfleet, -⟩ :=
      HostFunction.call_atomic (σ := Unit) (.onCustom .here) .bindings [wave, wave]
    obtain ⟨result, bindings, next, hperform, -, hatomic, -⟩ := hfleet greeting "a" started rfl hroom
    have hrefused : (HostFunction.onCustom .here).refusal? .bindings [wave, wave]
        = some (.badArgument 1 .functionHandle) := by decide
    cases result with
    | ok answer =>
      have hgood := hatomic.1
      rw [hrefused] at hgood
      cases hgood
    | error e =>
      have hsame : some e = _ := hatomic.1.symm.trans hrefused
      exact ⟨_, _, _, hperform, congrArg Except.error (Option.some.inj hsame), hatomic, hatomic.2⟩

end Sample

end ScriptHost
