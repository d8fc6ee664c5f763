import ScriptHost.HostFunction.Behaviour
import ScriptHost.Proofs.Journal.History

/-!
# What a host function does to the scene

`run_effect` says once what a call can come to, so that later arguments go through the eight cases
of `Effect` and never through the reading of arguments.  `callback?` is the function whose
reference the call takes over.
-/

namespace ScriptHost

variable {σ : Type}

/-- Creating an array moves the interpreter and logs at most why there is none. -/
theorem Scene.createArray_eq (interpreter : Interpreter σ) (s : Scene σ) (kind : ArrayKind)
    (items : List Value) :
    ∃ engine notices, (∀ n ∈ notices, Notice.isStarted n = false) ∧
      (s.createArray interpreter kind items).2
        = { s with machine := ({ s.machine with engine } : Machine σ).logAll notices } := by
  unfold Scene.createArray ArrayTypes.create
  cases s.bindings.arrays.get? kind with
  | none =>
    exact ⟨s.machine.engine, [.arrayTypeUnresolved kind], by simp [Notice.isStarted], rfl⟩
  | some type =>
    rcases hcreate : interpreter.createArray s.machine.engine type items with ⟨_ | array, engine⟩
    · exact ⟨engine, [.arrayNotCreated kind _], by simp [Notice.isStarted], by simp [hcreate]; rfl⟩
    · exact ⟨engine, [], by simp, by simp [hcreate]; rfl⟩

namespace HostFunction

/-- The place where the host function expects its callback. -/
def callbackIndex? : HostFunction → Option Nat
  | setTimer .. => some 0
  | onEvent _ => some 0
  | onCustom _ => some 1
  | _ => none

/-- The callback that a call passes. -/
def callback? (function : HostFunction) (args : List HostArgument) : Option FunctionHandle :=
  function.callbackIndex?.bind fun index => (functionAt args index).toOption

theorem callback?_eq_some {function : HostFunction} {args : List HostArgument} {index : Nat}
    {callback : FunctionHandle} (hindex : function.callbackIndex? = some index)
    (h : functionAt args index = .ok callback) : function.callback? args = some callback := by
  rw [callback?, hindex, Option.bind_some, h]
  rfl

theorem callback?_eq_none {function : HostFunction} {args : List HostArgument} {index : Nat}
    {e : HostCallError} (hindex : function.callbackIndex? = some index)
    (h : functionAt args index = .error e) : function.callback? args = none := by
  rw [callback?, hindex, Option.bind_some, h]
  rfl

/-- What calls of host functions come to. -/
inductive Effect :
    HostFunction → List HostArgument → HostResult → Scene σ → Scene σ → Prop
  /-- The call fails before it has taken a callback over. -/
  | refused {function : HostFunction} {args : List HostArgument} {e : HostCallError}
      (s : Scene σ) (h : function.callback? args = none) :
      Effect function args (.error e) s s
  /-- The call fails after that, and gives the callback back. -/
  | gaveBack {function : HostFunction} {args : List HostArgument} {e : HostCallError}
      {callback : FunctionHandle} (s : Scene σ) (h : function.callback? args = some callback) :
      Effect function args (.error e) s (s.releaseFunctions [callback])
  | createdTimer {delayIndex : Option Nat} {once : Bool} {args : List HostArgument}
      {callback : FunctionHandle} (s : Scene σ) (delay : UInt32)
      (h : functionAt args 0 = .ok callback) :
      Effect (.setTimer delayIndex once) args
        (.ok (.scalar (.uint32 (s.createTimer delay callback once).1))) s
        (s.createTimer delay callback once).2
  | clearedTimer {args : List HostArgument} (s : Scene σ) (id : UInt32)
      (h : uintAt args 0 = .ok id) :
      Effect .clearTimer args (.ok .void) s (s.removeTimer id)
  | subscribedCustom {locality : Locality} {args : List HostArgument} {callback : FunctionHandle}
      (s : Scene σ) (name : String) (h : functionAt args 1 = .ok callback) :
      Effect (.onCustom locality) args (.ok .void) s
        (s.registerCustomHandler name callback locality)
  | subscribed {type : EventType} {args : List HostArgument} {callback : FunctionHandle}
      (s : Scene σ) (h : functionAt args 0 = .ok callback) :
      Effect (.onEvent type) args (.ok .void) s (s.registerHandler type callback)
  | createdArray {kind : ArrayKind} {args : List HostArgument} {array : ObjectRef}
      (s : Scene σ) (engine : σ) {notices : List Notice}
      (h : ∀ n ∈ notices, n.isStarted = false) :
      Effect (.createArray kind) args (.ok (.object array)) s
        { s with machine := ({ s.machine with engine } : Machine σ).logAll notices }
  | logged {args : List HostArgument} (s : Scene σ) (resource : Option String) (text : String) :
      Effect .log args (.ok .void) s (s.log (.scriptMessage resource text))

theorem run_effect (interpreter : Interpreter σ) (function : HostFunction) (userData : UserData)
    (args : List HostArgument) (s : Scene σ) :
    Effect function args (function.run interpreter userData args s).1 s
      (function.run interpreter userData args s).2 := by
  cases function with
  | setTimer delayIndex once =>
    simp only [run]
    cases hcb : functionAt args 0 with
    | error e => exact .refused s (callback?_eq_none rfl hcb)
    | ok callback =>
      have hread : (setTimer delayIndex once).callback? args = some callback :=
        callback?_eq_some rfl hcb
      cases delayOf delayIndex args with
      | error e => exact .gaveBack s hread
      | ok delay =>
        by_cases hdata : userData = .bindings
        · simp only [hdata, if_true]
          exact .createdTimer s delay hcb
        · simp only [hdata, if_false]
          exact .gaveBack s hread
  | clearTimer =>
    simp only [run]
    cases hid : uintAt args 0 with
    | error e => exact .refused s rfl
    | ok id =>
      by_cases hdata : userData = .bindings
      · simp only [hdata, if_true]
        exact .clearedTimer s id hid
      · simp only [hdata, if_false]
        exact .refused s rfl
  | onCustom locality =>
    simp only [run]
    cases hcb : functionAt args 1 with
    | error e => exact .refused s (callback?_eq_none rfl hcb)
    | ok callback =>
      have hread : (onCustom locality).callback? args = some callback :=
        callback?_eq_some rfl hcb
      cases stringAt args 0 with
      | error e => exact .gaveBack s hread
      | ok name =>
        by_cases hdata : userData = .bindings
        · simp only [hdata, if_true]
          exact .subscribedCustom s name hcb
        · simp only [hdata, if_false]
          exact .gaveBack s hread
  | createArray kind =>
    simp only [run]
    cases uintAt args 0 with
    | error e => exact .refused s rfl
    | ok length =>
      by_cases hdata : userData = .bindings
      · simp only [hdata, if_true]
        rcases s.createArray_eq interpreter kind (List.replicate length.toNat kind.filling)
          with ⟨engine, notices, hn, heq⟩
        rw [heq]
        exact .createdArray s engine hn
      · simp only [hdata, if_false]
        exact .refused s rfl
  | log =>
    simp only [run]
    cases stringAt args 0 with
    | error e => exact .refused s rfl
    | ok text => exact .logged s _ text
  | onEvent type =>
    simp only [run]
    cases hcb : functionAt args 0 with
    | error e => exact .refused s (callback?_eq_none rfl hcb)
    | ok callback =>
      by_cases hdata : userData = .bindings
      · simp only [hdata, if_true]
        exact .subscribed s hcb
      · simp only [hdata, if_false]
        exact .gaveBack s (callback?_eq_some rfl hcb)

end HostFunction

end ScriptHost
