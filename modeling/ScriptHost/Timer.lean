import ScriptHost.Clock
import ScriptHost.Handle
import ScriptHost.Keyed

/-!
# Timers

The timers of one resource.  Removal is deferred: a timer that is cleared or spent is queued and
stays in the table until the next flush, so that a callback may clear its own timer while the tick
that called it is still under way.  A queued timer never fires again.
-/

namespace ScriptHost

/-- A scheduled callback. -/
structure Timer where
  callback : FunctionHandle
  /-- Nanoseconds from one run to the next. -/
  interval : Nat
  lastRun : Instant
  once : Bool
deriving DecidableEq, Repr

/-- The timers by ascending id, the next id to give, and the ids queued for removal. -/
structure TimerTable where
  timers : List (UInt32 × Timer) := []
  nextId : UInt32 := 1
  pending : List UInt32 := []
deriving DecidableEq, Repr

/-- The answer to asking whether a timer is due. -/
inductive TimerPoll where
  | idle
  /-- The callback is to run; a timer that fires once is exhausted by it. -/
  | fire (callback : FunctionHandle) (exhausted : Bool)
  /-- There is no such timer, or it is queued for removal. -/
  | missing
deriving DecidableEq, Repr

namespace TimerTable

/-- The timer with an id. -/
def find? (table : TimerTable) (id : UInt32) : Option Timer :=
  Keyed.find? id table.timers

def contains (table : TimerTable) (id : UInt32) : Bool :=
  (table.find? id).isSome

/-- Whether an id is queued for removal. -/
def isPending (table : TimerTable) (id : UInt32) : Bool :=
  table.pending.contains id

/-- The ids in the table, in ascending order. -/
def ids (table : TimerTable) : List UInt32 :=
  table.timers.map (·.1)

/-- The number of timers that are not queued for removal. -/
def activeCount (table : TimerTable) : Nat :=
  table.ids.countP fun id => !table.isPending id

/-- Every callback in the table, by ascending id. -/
def callbacks (table : TimerTable) : List FunctionHandle :=
  table.timers.map (·.2.callback)

/-- Schedules a callback every `interval` nanoseconds, or once after as many.  Gives the id and, if
the id was in use, the callback that had it. -/
def create (table : TimerTable) (interval : Nat) (callback : FunctionHandle) (once : Bool)
    (now : Instant) : UInt32 × Option FunctionHandle × TimerTable :=
  let id := table.nextId
  (id, (table.find? id).map (·.callback),
    { table with
      timers := Keyed.insert id ⟨callback, interval, now, once⟩ table.timers
      nextId := id + 1 })

/-- Queues an id for removal, once. -/
def remove (table : TimerTable) (id : UInt32) : TimerTable :=
  if table.isPending id then table else { table with pending := table.pending ++ [id] }

/-- Takes the queued timers out of the table and gives their callbacks, in the order of the
queue. -/
def flush (table : TimerTable) : List FunctionHandle × TimerTable :=
  (table.pending.filterMap fun id => (table.find? id).map (·.callback),
    { table with
      timers := table.timers.filter fun (id, _) => !table.isPending id
      pending := [] })

/-- Asks whether a timer is due; one that fires starts its interval anew. -/
def poll (table : TimerTable) (id : UInt32) (now : Instant) : TimerPoll × TimerTable :=
  if table.isPending id then (.missing, table)
  else
    match table.find? id with
    | none => (.missing, table)
    | some timer =>
      if timer.interval ≤ now.elapsedSince timer.lastRun then
        (.fire timer.callback timer.once,
          { table with timers := Keyed.insert id { timer with lastRun := now } table.timers })
      else (.idle, table)

/-- Takes every timer out and gives the callbacks, by ascending id.  The next id stays. -/
def clear (table : TimerTable) : List FunctionHandle × TimerTable :=
  (table.callbacks, { table with timers := [], pending := [] })

end TimerTable

end ScriptHost
