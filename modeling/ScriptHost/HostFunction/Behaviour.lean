import ScriptHost.Bindings

/-!
# What host functions do

A host function reads its arguments in a fixed order and stops at the first that is missing or of
the wrong kind; it asks for the bindings of the calling resource last.  It owns one reference to a
callback as soon as it has read it, and gives the reference back if it then fails.
-/

namespace ScriptHost

/-- What a new array of a kind is filled with. -/
def ArrayKind.filling : ArrayKind → Value
  | string => .string ""
  | int => .int 0
  | uint => .uint 0
  | any => .none

namespace HostFunction

variable {σ : Type}

/-- Fails on the way, with a callback already read. -/
def giveBack (callback : FunctionHandle) (error : HostCallError) (s : Scene σ) :
    HostResult × Scene σ :=
  (.error error, s.releaseFunctions [callback])

/-- The delay of a timer, none if it has no argument for it. -/
def delayOf (delayIndex : Option Nat) (args : List HostArgument) : Except HostCallError UInt32 :=
  match delayIndex with
  | some index => uintAt args index
  | none => .ok 0

/-- Carries out a call. -/
def run (interpreter : Interpreter σ) (function : HostFunction) (userData : UserData)
    (args : List HostArgument) (s : Scene σ) : HostResult × Scene σ :=
  match function with
  | .setTimer delayIndex once =>
    match functionAt args 0 with
    | .error e => (.error e, s)
    | .ok callback =>
      match delayOf delayIndex args with
      | .error e => giveBack callback e s
      | .ok delay =>
        if userData = .bindings then
          let (id, s) := s.createTimer delay callback once
          (.ok (.scalar (.uint32 id)), s)
        else giveBack callback .noActiveResource s
  | .clearTimer =>
    match uintAt args 0 with
    | .error e => (.error e, s)
    | .ok id =>
      if userData = .bindings then (.ok .void, s.removeTimer id)
      else (.error .noActiveResource, s)
  | .onCustom locality =>
    match functionAt args 1 with
    | .error e => (.error e, s)
    | .ok callback =>
      match stringAt args 0 with
      | .error e => giveBack callback e s
      | .ok name =>
        if userData = .bindings then
          (.ok .void, s.registerCustomHandler name callback locality)
        else giveBack callback .noActiveResource s
  | .createArray kind =>
    match uintAt args 0 with
    | .error e => (.error e, s)
    | .ok length =>
      if userData = .bindings then
        let (array, s) :=
          s.createArray interpreter kind (List.replicate length.toNat kind.filling)
        (.ok (.object array), s)
      else (.error .noActiveResource, s)
  | .log =>
    match stringAt args 0 with
    | .error e => (.error e, s)
    | .ok text =>
      let resource := if userData = .bindings then some s.bindings.resource else none
      (.ok .void, s.log (.scriptMessage resource text))
  | .onEvent type =>
    match functionAt args 0 with
    | .error e => (.error e, s)
    | .ok callback =>
      if userData = .bindings then (.ok .void, s.registerHandler type callback)
      else giveBack callback .noActiveResource s

/-- Carries out a call that comes from a script: the interpreter has counted one reference for each
function argument. -/
def runCounted (interpreter : Interpreter σ) (function : HostFunction) (userData : UserData)
    (args : List HostArgument) (s : Scene σ) : HostResult × Scene σ :=
  let machine := s.machine.recordAll ((functionHandles args).map .retained)
  let (result, s) := function.run interpreter userData args { s with machine }
  (result, s.record (.served function userData args result))

end HostFunction

end ScriptHost
