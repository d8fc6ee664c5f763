import ScriptHost.Resource.Basic

/-!
# Ticks

A tick drops the timers queued for removal and then asks each timer in the table, by ascending id,
whether it is due.  A timer that fires once is queued for removal after its callback has run,
however that ended.
-/

namespace ScriptHost.Resource

variable {σ : Type}

/-- Asks one timer whether it is due, and runs its callback if so. -/
def runTimer (interpreter : Interpreter σ) (r : Resource σ) (context : Option ContextHandle)
    (id : UInt32) (s : Scene σ) : Scene σ :=
  match s.pollTimer id with
  | (.idle, s) => s
  | (.missing, s) => s
  | (.fire callback exhausted, s) =>
    let s :=
      match context with
      | none => s
      | some context =>
        match s.call interpreter context (.timer id) callback [] with
        | (.error e, s) => s.log (.timerFailed r.name id e)
        | (.ok (.exception info), s) => s.log (r.exceptionNotice "timer" info)
        | (.ok _, s) => s
    if exhausted then s.removeTimer id else s

/-- Runs the timers that are due. -/
def onTick (interpreter : Interpreter σ) (r : Resource σ) (m : Machine σ) :
    Resource σ × Machine σ :=
  if !r.isRunning then (r, m)
  else
    let s := (r.scene m).flushTimers
    let s := s.bindings.timers.ids.foldl (fun s id => r.runTimer interpreter r.context id s) s
    (r.adopt s, s.machine)

end ScriptHost.Resource
