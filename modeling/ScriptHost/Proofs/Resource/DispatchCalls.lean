import ScriptHost.Proofs.Script.Calls
import ScriptHost.Resource.Dispatch
import ScriptHost.Resource.Tick

/-!
# The calls that a dispatch makes

Each of the three dispatch loops runs over a list that was read before the first call.  What the
callbacks do to the tables in the meantime changes nothing about whom the loop calls next; only the
outcome of a call can end it.

* `callHandlers_calls`: host events, with `EventFold` as the rule for going on and stopping;
* `callCustomHandlers_calls`: custom events, whose handlers are called one and all;
* `runTimers_calls`: timers, each of which is in the table when its callback is called; what the
  turn of one comes to is `TimerTurn.Taken`.
-/

namespace ScriptHost

variable {σ : Type}

/-- What a call of a handler decides about the event, if anything: an engine error lets it stand,
and a handler that finishes decides by what it returns, if the callback returns a value. -/
def ScriptCall.verdict? (interpreter : Interpreter σ) (context : ContextHandle)
    (descriptor : EventDescriptor) (c : ScriptCall σ) : Option Bool :=
  match c.result with
  | .error _ => some true
  | .ok .finished =>
    if descriptor.returns.isSome then
      some (interpreter.returnByte c.finish.machine.engine context = 1)
    else none
  | .ok _ => none

/-- The calls that the handlers of a host event get, and whether the event stands: the handlers are
called in order with the same arguments until one of them decides. -/
inductive EventFold (interpreter : Interpreter σ) (context : ContextHandle)
    (descriptor : EventDescriptor) (args : List Argument) :
    List FunctionHandle → List (ScriptCall σ) → Bool → Prop
  | undecided : EventFold interpreter context descriptor args [] [] true
  | decided {c : ScriptCall σ} {handlers : List FunctionHandle} {stands : Bool}
      (hcause : c.cause = .event descriptor.type) (hargs : c.args = args)
      (hverdict : c.verdict? interpreter context descriptor = some stands) :
      EventFold interpreter context descriptor args (c.function :: handlers) [c] stands
  | next {c : ScriptCall σ} {handlers : List FunctionHandle} {calls : List (ScriptCall σ)}
      {stands : Bool} (hcause : c.cause = .event descriptor.type) (hargs : c.args = args)
      (hverdict : c.verdict? interpreter context descriptor = none)
      (hrest : EventFold interpreter context descriptor args handlers calls stands) :
      EventFold interpreter context descriptor args (c.function :: handlers) (c :: calls) stands

variable {interpreter : Interpreter σ} {context : ContextHandle}

namespace EventFold

variable {descriptor : EventDescriptor} {args : List Argument} {handlers : List FunctionHandle}
  {calls : List (ScriptCall σ)} {stands : Bool}

/-- No handler is passed over. -/
theorem functions_prefix
    (h : EventFold interpreter context descriptor args handlers calls stands) :
    calls.map (·.function) <+: handlers := by
  induction h with
  | undecided => exact List.prefix_rfl
  | decided => exact ⟨_, rfl⟩
  | next _ _ _ _ ih => exact (List.prefix_cons_inj _).mpr ih

theorem forall_calls (h : EventFold interpreter context descriptor args handlers calls stands) :
    ∀ c ∈ calls, c.cause = .event descriptor.type ∧ c.args = args := by
  induction h with
  | undecided => simp
  | decided hcause hargs => simpa using ⟨hcause, hargs⟩
  | next hcause hargs _ _ ih => exact List.forall_mem_cons.mpr ⟨⟨hcause, hargs⟩, ih⟩

end EventFold

/-! ## Turns of timers -/

/-- The turn of a timer in a tick: the scene at its turn, the call of its callback if there is one,
and the scene after that. -/
structure TimerTurn (σ : Type) where
  id : UInt32
  start : Scene σ
  call? : Option (ScriptCall σ)
  finish : Scene σ

namespace TimerTurn

/-- A timer that is not due is passed over.  One that is due starts its interval anew, its callback
is called, lines are logged, and if it fires once, it is queued for removal. -/
inductive Taken (interpreter : Interpreter σ) (context : ContextHandle) : TimerTurn σ → Prop
  | passed {id : UInt32} {s : Scene σ}
      (h : ∀ timer, ¬ s.bindings.timers.Due id s.machine.now timer) :
      Taken interpreter context ⟨id, s, none, s⟩
  | fired {id : UInt32} {s t : Scene σ} {timer : Timer} {c : ScriptCall σ}
      (hdue : s.bindings.timers.Due id s.machine.now timer) (hmade : c.Made interpreter context)
      (hstart : c.start = (s.pollTimer id).2) (hcause : c.cause = .timer id)
      (hfunction : c.function = timer.callback) (hargs : c.args = [])
      (hlogs : Relation.ReflTransGen LogMove c.finish t) :
      Taken interpreter context ⟨id, s, some c, if timer.once then t.removeTimer id else t⟩

/-- A timer that is due is restarted by the poll, and keeps all else. -/
theorem find?_pollTimer {s : Scene σ} {id : UInt32} {timer : Timer}
    (h : s.bindings.timers.Due id s.machine.now timer) :
    (s.pollTimer id).2.bindings.timers.find? id
      = some { timer with lastRun := s.machine.now } := by
  rw [Scene.bindings_pollTimer, h.poll_eq]
  exact (Keyed.find?_insert id id _ s.bindings.timers.timers).trans (if_pos rfl)

variable {turn : TimerTurn σ}

theorem Taken.callsBetween (h : turn.Taken interpreter context) :
    CallsBetween interpreter context HostMove turn.call?.toList turn.start turn.finish := by
  cases h with
  | passed => exact .none .refl
  | @fired id s t timer c hdue hmade hstart hcause hfunction hargs hlogs =>
    have hpolled : Relation.ReflTransGen HostMove s c.start := by
      rw [hstart]
      exact .single (.pollTimer s id)
    have hlogged : Relation.ReflTransGen HostMove c.finish t :=
      Relation.ReflTransGen.mono (fun _ _ => .log) _ _ hlogs
    have hended : Relation.ReflTransGen HostMove t
        (if timer.once then t.removeTimer id else t) := by
      cases timer.once with
      | false => exact .refl
      | true => exact .single (.removeTimer t id)
    exact .next hpolled hmade (.none (hlogged.trans hended))

theorem Taken.call {c : ScriptCall σ} (h : turn.Taken interpreter context)
    (hcall : turn.call? = some c) :
    c.cause = .timer turn.id ∧ c.args = [] ∧
      ∃ timer, c.start.bindings.timers.find? turn.id = some timer ∧
        timer.callback = c.function := by
  cases h with
  | passed => cases hcall
  | fired hdue hmade hstart hcause hfunction hargs hlogs =>
    cases hcall
    rw [hstart]
    exact ⟨hcause, hargs, _, find?_pollTimer hdue, hfunction.symm⟩

end TimerTurn

/-- Turns that lead from one scene to another, each beginning where the one before has ended. -/
inductive TurnsBetween (interpreter : Interpreter σ) (context : ContextHandle) :
    List (TimerTurn σ) → Scene σ → Scene σ → Prop
  | none (s : Scene σ) : TurnsBetween interpreter context [] s s
  | next {turn : TimerTurn σ} {turns : List (TimerTurn σ)} {t : Scene σ}
      (htaken : turn.Taken interpreter context)
      (hrest : TurnsBetween interpreter context turns turn.finish t) :
      TurnsBetween interpreter context (turn :: turns) turn.start t

namespace TurnsBetween

variable {turns : List (TimerTurn σ)} {s t : Scene σ}

theorem callsBetween (h : TurnsBetween interpreter context turns s t) :
    CallsBetween interpreter context HostMove (turns.filterMap (·.call?)) s t := by
  induction h with
  | none => exact .none .refl
  | @next turn turns t htaken _ ih =>
    have hcalls := htaken.callsBetween.append ih
    cases hcall : turn.call? with
    | none =>
      rw [hcall] at hcalls
      rw [List.filterMap_cons_none hcall]
      exact hcalls
    | some c =>
      rw [hcall] at hcalls
      rw [List.filterMap_cons_some hcall]
      exact hcalls

theorem forall_taken (h : TurnsBetween interpreter context turns s t) :
    ∀ turn ∈ turns, turn.Taken interpreter context := by
  induction h with
  | none => simp
  | next htaken _ ih => exact List.forall_mem_cons.mpr ⟨htaken, ih⟩

/-- What comes before a turn, the turn, and what comes after it. -/
theorem split {earlier later : List (TimerTurn σ)} {turn : TimerTurn σ}
    (h : TurnsBetween interpreter context (earlier ++ turn :: later) s t) :
    TurnsBetween interpreter context earlier s turn.start ∧ turn.Taken interpreter context ∧
      TurnsBetween interpreter context later turn.finish t := by
  induction earlier generalizing s with
  | nil =>
    cases h with
    | next htaken hrest => exact ⟨.none _, htaken, hrest⟩
  | cons first earlier ih =>
    cases h with
    | next htaken hrest =>
      obtain ⟨hearlier, hturn, hlater⟩ := ih hrest
      exact ⟨.next htaken hearlier, hturn, hlater⟩

end TurnsBetween

namespace Resource

variable (interpreter context)

/-- The handlers of a host event are called as the rule says, with nothing but log lines between
the calls. -/
theorem callHandlers_calls (r : Resource σ) (descriptor : EventDescriptor) (args : List Argument)
    (handlers : List FunctionHandle) (s : Scene σ) :
    ∃ calls,
      CallsBetween interpreter context LogMove calls s
        (r.callHandlers interpreter context descriptor args handlers s).2 ∧
      EventFold interpreter context descriptor args handlers calls
        (r.callHandlers interpreter context descriptor args handlers s).1 := by
  induction handlers generalizing s with
  | nil => exact ⟨[], .none .refl, .undecided⟩
  | cons handler rest ih =>
    rcases hcall : s.call interpreter context (.event descriptor.type) handler args
      with ⟨result, u⟩
    -- the first call, and what follows it once it has been logged
    let c : ScriptCall σ := ⟨.event descriptor.type, handler, args, s, result, u⟩
    have hmade : c.Made interpreter context := hcall
    have hnext : ∀ {notice : Notice}, notice.isStarted = false →
        c.verdict? interpreter context descriptor = none → ∃ calls,
          CallsBetween interpreter context LogMove calls s
            (r.callHandlers interpreter context descriptor args rest (u.log notice)).2 ∧
          EventFold interpreter context descriptor args (handler :: rest) calls
            (r.callHandlers interpreter context descriptor args rest (u.log notice)).1 := by
      intro notice hnotice hverdict
      rcases ih (u.log notice) with ⟨calls, hcalls, hfold⟩
      exact ⟨c :: calls, .next .refl hmade (hcalls.before (.single (.log u hnotice))),
        .next rfl rfl hverdict hfold⟩
    rcases result with e | outcome
    · have heq : r.callHandlers interpreter context descriptor args (handler :: rest) s
          = (true, u.log (.handlerFailed r.name descriptor.type handler.declaration e)) := by
        simp only [callHandlers, hcall]
      rw [heq]
      exact ⟨[c], .next .refl hmade (.none (.single (.log u rfl))),
        .decided (c := c) rfl rfl rfl⟩
    · cases outcome with
      | finished =>
        have heq : r.callHandlers interpreter context descriptor args (handler :: rest) s
            = if descriptor.returns.isSome then
                (decide (interpreter.returnByte u.machine.engine context = 1), u)
              else r.callHandlers interpreter context descriptor args rest u := by
          simp only [callHandlers, hcall]
        rw [heq]
        by_cases hreturns : descriptor.returns.isSome
        · have hverdict : c.verdict? interpreter context descriptor
              = some (decide (interpreter.returnByte u.machine.engine context = 1)) :=
            if_pos hreturns
          rw [if_pos hreturns]
          exact ⟨[c], .next .refl hmade (.none .refl), .decided rfl rfl hverdict⟩
        · have hverdict : c.verdict? interpreter context descriptor = none := if_neg hreturns
          rw [if_neg hreturns]
          rcases ih u with ⟨calls, hcalls, hfold⟩
          exact ⟨c :: calls, .next .refl hmade hcalls, .next rfl rfl hverdict hfold⟩
      | suspended =>
        have heq : r.callHandlers interpreter context descriptor args (handler :: rest) s
            = r.callHandlers interpreter context descriptor args rest
              (u.log (.handlerUnfinished descriptor.type handler.declaration .suspended)) := by
          simp only [callHandlers, hcall]
        rw [heq]
        exact hnext rfl rfl
      | aborted =>
        have heq : r.callHandlers interpreter context descriptor args (handler :: rest) s
            = r.callHandlers interpreter context descriptor args rest
              (u.log (.handlerUnfinished descriptor.type handler.declaration .aborted)) := by
          simp only [callHandlers, hcall]
        rw [heq]
        exact hnext rfl rfl
      | exception info =>
        have heq : r.callHandlers interpreter context descriptor args (handler :: rest) s
            = r.callHandlers interpreter context descriptor args rest
              (u.log (r.exceptionNotice descriptor.type.name info)) := by
          simp only [callHandlers, hcall]
        rw [heq]
        exact hnext rfl rfl

/-- The handlers of a custom event are called one and all, whatever becomes of each call. -/
theorem callCustomHandlers_calls (r : Resource σ) (name : String) (locality : Locality)
    (args : List Argument) (handlers : List FunctionHandle) (s : Scene σ) :
    ∃ calls,
      CallsBetween interpreter context LogMove calls s
        (r.callCustomHandlers interpreter context name locality args handlers s) ∧
      calls.map (·.function) = handlers ∧
      ∀ c ∈ calls, c.cause = .custom locality name ∧ c.args = args := by
  induction handlers generalizing s with
  | nil => exact ⟨[], .none .refl, rfl, by simp⟩
  | cons handler rest ih =>
    rcases hcall : s.call interpreter context (.custom locality name) handler args
      with ⟨result, u⟩
    let c : ScriptCall σ := ⟨.custom locality name, handler, args, s, result, u⟩
    -- whatever the result, the loop goes on; at most a line is logged first
    have hmade : c.Made interpreter context := hcall
    have hlog : ∃ v, Relation.ReflTransGen LogMove u v ∧
        r.callCustomHandlers interpreter context name locality args (handler :: rest) s
          = r.callCustomHandlers interpreter context name locality args rest v := by
      rcases result with e | outcome
      · refine ⟨u.log (.customHandlerFailed r.name name handler.declaration e),
          .single (.log u rfl), ?_⟩
        simp only [callCustomHandlers, hcall]
      · cases outcome with
        | exception info =>
          refine ⟨u.log (r.exceptionNotice name info), .single (.log u rfl), ?_⟩
          simp only [callCustomHandlers, hcall]
        | finished | suspended | aborted =>
          refine ⟨u, .refl, ?_⟩
          simp only [callCustomHandlers, hcall]
    rcases hlog with ⟨v, hlog, heq⟩
    rcases ih v with ⟨calls, hcalls, hfunctions, hall⟩
    rw [heq]
    refine ⟨c :: calls, .next .refl hmade (hcalls.before hlog), ?_, ?_⟩
    · rw [List.map_cons, hfunctions]
    · exact List.forall_mem_cons.mpr ⟨⟨rfl, rfl⟩, hall⟩

/-! ## Timers -/

/-- A timer that is polled is passed over, or runs its callback once. -/
theorem runTimer_taken (r : Resource σ) (id : UInt32) (s : Scene σ) :
    ∃ call?, TimerTurn.Taken interpreter context
      ⟨id, s, call?, r.runTimer interpreter (some context) id s⟩ := by
  have hpass : (∀ callback exhausted, (s.pollTimer id).1 ≠ .fire callback exhausted) →
      ∀ timer, ¬ s.bindings.timers.Due id s.machine.now timer := by
    intro hanswer timer hdue
    apply hanswer timer.callback timer.once
    simp only [Scene.pollTimer, hdue.poll_eq]
  rcases s.bindings.timers.poll_cases id s.machine.now with hp | hp | ⟨timer, hdue, hp⟩
  · have hpoll : s.pollTimer id = (.idle, s) := by
      simp only [Scene.pollTimer, hp]
    have heq : r.runTimer interpreter (some context) id s = s := by
      simp only [runTimer, hpoll]
    rw [heq]
    exact ⟨none, .passed (hpass (by simp [hpoll]))⟩
  · have hpoll : s.pollTimer id = (.missing, s) := by
      simp only [Scene.pollTimer, hp]
    have heq : r.runTimer interpreter (some context) id s = s := by
      simp only [runTimer, hpoll]
    rw [heq]
    exact ⟨none, .passed (hpass (by simp [hpoll]))⟩
  · have hpoll : s.pollTimer id = (.fire timer.callback timer.once, (s.pollTimer id).2) := by
      simp only [Scene.pollTimer, hp]
    rcases hcall : (s.pollTimer id).2.call interpreter context (.timer id) timer.callback []
      with ⟨result, u⟩
    -- whatever the result, the timer is treated alike; at most a line is logged first
    have hlog : ∃ v, Relation.ReflTransGen LogMove u v ∧
        r.runTimer interpreter (some context) id s
          = if timer.once then v.removeTimer id else v := by
      rcases result with e | outcome
      · refine ⟨u.log (.timerFailed r.name id e), .single (.log u rfl), ?_⟩
        rw [runTimer, hpoll]
        simp only [hcall]
      · cases outcome with
        | exception info =>
          refine ⟨u.log (r.exceptionNotice "timer" info), .single (.log u rfl), ?_⟩
          rw [runTimer, hpoll]
          simp only [hcall]
        | finished | suspended | aborted =>
          refine ⟨u, .refl, ?_⟩
          rw [runTimer, hpoll]
          simp only [hcall]
    obtain ⟨v, hlog, heq⟩ := hlog
    rw [heq]
    exact ⟨some ⟨.timer id, timer.callback, [], (s.pollTimer id).2, result, u⟩,
      .fired hdue hcall rfl rfl rfl rfl hlog⟩

/-- A tick gives each timer that was in the table when it began its turn, in order. -/
theorem runTimers_turns (r : Resource σ) (ids : List UInt32) (s : Scene σ) :
    ∃ turns, turns.map (·.id) = ids ∧
      TurnsBetween interpreter context turns s
        (ids.foldl (fun s id => r.runTimer interpreter (some context) id s) s) := by
  induction ids generalizing s with
  | nil => exact ⟨[], rfl, .none s⟩
  | cons id rest ih =>
    -- the ids were read before the first call, so what that call does to the table is no matter
    obtain ⟨call?, htaken⟩ := r.runTimer_taken interpreter context id s
    obtain ⟨turns, hids, hturns⟩ := ih (r.runTimer interpreter (some context) id s)
    refine ⟨⟨id, s, call?, r.runTimer interpreter (some context) id s⟩ :: turns, ?_, ?_⟩
    · rw [List.map_cons, hids]
    · exact .next htaken hturns

/-- A tick runs the timers that were in the table when it began. -/
theorem runTimers_calls (r : Resource σ) (ids : List UInt32) (s : Scene σ) :
    ∃ calls,
      CallsBetween interpreter context HostMove calls s
        (ids.foldl (fun s id => r.runTimer interpreter (some context) id s) s) ∧
      ∀ c ∈ calls, ∃ id ∈ ids, c.cause = .timer id ∧ c.args = [] ∧
        ∃ timer, c.start.bindings.timers.find? id = some timer ∧ timer.callback = c.function := by
  obtain ⟨turns, rfl, hturns⟩ := r.runTimers_turns interpreter context ids s
  refine ⟨turns.filterMap (·.call?), hturns.callsBetween, ?_⟩
  intro c hc
  obtain ⟨turn, hturn, hcall⟩ := List.mem_filterMap.mp hc
  exact ⟨turn.id, List.mem_map_of_mem hturn, (hturns.forall_taken turn hturn).call hcall⟩

end Resource

end ScriptHost
