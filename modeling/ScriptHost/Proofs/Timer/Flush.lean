import Mathlib.Data.Finset.Card
import Mathlib.Data.List.DropRight
import ScriptHost.Proofs.Timer.Numbering

/-!
# Flushes are not seen

A timer that is queued for removal is in the table, and yet polls do not find it and the count
leaves it out.  So neither shows when it is taken out.  An id that is queued and has no timer is another
matter: a flush forgets it, and whoever gets the id afterwards is not queued.

* `pending_performAll`: the queue holds the ids whose removal was asked for since it was last
  emptied, each once, in the order in which this was done first.
* `flush_eq_drain`: the timers can be taken out one at a time, and the same callbacks come out.
* `flush_polls`: a flush before any polls is as good as one after them.
-/

namespace ScriptHost

/-- Of an item that has been there before, one more does not count. -/
theorem eraseDups_concat {α : Type} [DecidableEq α] (items : List α) (item : α) :
    (items ++ [item]).eraseDups
      = if item ∈ items then items.eraseDups else items.eraseDups ++ [item] := by
  rw [List.eraseDups_append, List.removeAll]
  split
  · next h => simp [h]
  · next h => simp [h, List.eraseDups_cons]

namespace TimerOperation

/-- The operation leaves nothing queued. -/
def empties : TimerOperation → Bool
  | .flush => true
  | .clear => true
  | _ => false

/-- The id whose removal is asked for. -/
def removed? : TimerOperation → Option UInt32
  | .remove id => some id
  | _ => none

/-- The ids whose removal a run asks for after its last flush or clear, as often as it does. -/
def removals (operations : List TimerOperation) : List UInt32 :=
  (operations.rtakeWhile fun operation => !operation.empties).filterMap removed?

theorem removals_concat (operations : List TimerOperation) (operation : TimerOperation) :
    removals (operations ++ [operation])
      = if operation.empties then [] else removals operations ++ operation.removed?.toList := by
  rw [removals, List.rtakeWhile_concat]
  cases operation.empties with
  | true => rfl
  | false =>
    rw [Bool.not_false, if_pos rfl, List.filterMap_append]
    cases operation <;> rfl

end TimerOperation

namespace TimerTable

open TimerOperation (creations removals)

variable {table : TimerTable} {id : UInt32}

/-! ## The queue -/

/-- The queue is the removals since it was last emptied, each where it was asked for first. -/
theorem pending_performAll (history : List TimerOperation) :
    (({} : TimerTable).performAll history).pending = (removals history).eraseDups := by
  induction history using List.reverseRecOn with
  | nil => rfl
  | append_singleton history operation ih =>
    rw [performAll_concat, TimerOperation.removals_concat]
    cases operation with
    | create interval callback once now =>
      simpa [perform, create, TimerOperation.empties, TimerOperation.removed?] using ih
    | remove id =>
      -- the queue takes an id exactly if it is new among the removals
      have hpending : (({} : TimerTable).performAll history).isPending id = true
          ↔ id ∈ removals history := by
        rw [isPending, ih, List.contains_iff_mem, List.mem_eraseDups]
      rw [perform, remove]
      simp only [TimerOperation.empties, TimerOperation.removed?, Option.toList, hpending,
        eraseDups_concat, Bool.false_eq_true, if_false]
      split
      · exact ih
      · rw [ih]
    | flush => rfl
    | poll id now =>
      rw [perform, pending_poll, ih]
      simp [TimerOperation.empties, TimerOperation.removed?]
    | clear => rfl

theorem activeCount_eq_length (table : TimerTable) :
    table.activeCount = table.activeIds.length :=
  List.countP_eq_length_filter

/-- The timers that are counted are those in the table that are not queued. -/
theorem activeCount_eq_card (h : table.WellFormed) :
    table.activeCount = (table.ids.toFinset \ table.pending.toFinset).card := by
  have hactive : table.ids.toFinset \ table.pending.toFinset = table.activeIds.toFinset := by
    ext id
    simp [activeIds, isPending]
  have hnodup : table.activeIds.Nodup := h.ascending.nodup.filter _
  rw [hactive, List.toFinset_card_of_nodup hnodup, activeCount_eq_length]

/-! ## What a flush takes out -/

/-- A flush gives one callback for each id that is queued and in the table. -/
theorem flush_callbacks (table : TimerTable) :
    table.flush.1.map some
      = (table.pending.filter table.contains).map fun id => (table.find? id).map (·.callback) := by
  rw [flush]
  induction table.pending with
  | nil => rfl
  | cons id rest ih =>
    cases hfind : table.find? id with
    | none => simpa [contains, hfind] using ih
    | some timer => simpa [contains, hfind] using ih

/-- An id is queued once however often it is removed, and one that has no timer gives nothing. -/
example :
    let greet : FunctionHandle := ⟨"greet", "void greet()"⟩
    let wave : FunctionHandle := ⟨"wave", "void wave()"⟩
    let table := ({} : TimerTable).performAll
      [.create 0 greet true ⟨0⟩, .create 5 wave false ⟨0⟩, .remove 2, .remove 7, .remove 1,
        .remove 2]
    table.pending = [2, 7, 1] ∧ table.flush.1 = [wave, greet] := by decide

/-- Takes the timers with the ids of a queue out one at a time.  An id under which there is no
timer, or none any more, gives nothing. -/
def drain : List UInt32 → List (UInt32 × Timer) → List FunctionHandle × List (UInt32 × Timer)
  | [], timers => ([], timers)
  | id :: rest, timers =>
    let (callbacks, left) := drain rest (timers.filter (·.1 ≠ id))
    (((Keyed.find? id timers).map (·.callback)).toList ++ callbacks, left)

theorem drain_eq {queue : List UInt32} (h : queue.Nodup) (timers : List (UInt32 × Timer)) :
    drain queue timers
      = (queue.filterMap fun id => (Keyed.find? id timers).map (·.callback),
        timers.filter fun e => !queue.contains e.1) := by
  induction queue generalizing timers with
  | nil => simp [drain]
  | cons id rest ih =>
    have hn := List.nodup_cons.mp h
    -- no id of the rest is the one that has been taken out
    have hfind : ∀ other ∈ rest,
        Keyed.find? other (timers.filter (·.1 ≠ id)) = Keyed.find? other timers := by
      intro other hother
      have hne : other ≠ id := ne_of_mem_of_not_mem hother hn.1
      have hfilter := Keyed.find?_filter_keys (fun key => decide (key ≠ id)) other timers
      rw [hfilter, if_pos (decide_eq_true hne)]
    have hrest : (rest.filterMap fun other =>
          (Keyed.find? other (timers.filter (·.1 ≠ id))).map (·.callback))
        = rest.filterMap fun other => (Keyed.find? other timers).map (·.callback) :=
      List.filterMap_congr fun other hother => by rw [hfind other hother]
    rw [drain, ih hn.2, hrest, List.filter_filter]
    refine Prod.ext ?_ ?_
    · cases hid : Keyed.find? id timers <;> simp [hid]
    · refine List.filter_congr fun e _ => ?_
      simp [Bool.and_comm]

/-- It makes no difference to a flush whether the timers are taken out all at once or one at a
time, as no id is queued twice. -/
theorem flush_eq_drain (h : table.WellFormed) :
    table.flush = ((drain table.pending table.timers).1,
      { table with timers := (drain table.pending table.timers).2, pending := [] }) := by
  rw [drain_eq h.pending_nodup]
  rfl

/-! ## What polls find -/

/-- The timer that a poll finds under an id. -/
def active? (table : TimerTable) (id : UInt32) : Option Timer :=
  if table.isPending id then none else table.find? id

theorem active?_flush (table : TimerTable) (id : UInt32) :
    table.flush.2.active? id = table.active? id :=
  find?_flush table id

theorem isPending_of_active? {timer : Timer} (h : table.active? id = some timer) :
    table.isPending id = false := by
  unfold active? at h
  split at h
  · cases h
  · next hactive => exact Bool.eq_false_iff.mpr hactive

/-- A poll looks at the timer that it finds and at nothing else. -/
theorem poll_eq_active (table : TimerTable) (id : UInt32) (now : Instant) :
    table.poll id now =
      match table.active? id with
      | none => (.missing, table)
      | some timer =>
        if timer.interval ≤ now.elapsedSince timer.lastRun then
          (.fire timer.callback timer.once,
            { table with timers := Keyed.insert id { timer with lastRun := now } table.timers })
        else (.idle, table) := by
  rw [poll, active?]
  split <;> rfl

/-- A timer that is not queued can be put in its place before a flush or after it. -/
theorem flush_insert (h : table.WellFormed) (hactive : table.isPending id = false)
    (timer : Timer) :
    { table with timers := Keyed.insert id timer table.timers }.flush.2
      = { table.flush.2 with timers := Keyed.insert id timer table.flush.2.timers } := by
  have hkeep : (!table.isPending id) = true := by rw [hactive, Bool.not_false]
  have htimers : (Keyed.insert id timer table.timers).filter (fun e => !table.isPending e.1)
      = Keyed.insert id timer (table.timers.filter fun e => !table.isPending e.1) :=
    Keyed.filter_keys_insert (fun key => !table.isPending key) hkeep timer h.ascending
  exact congrArg (fun timers => TimerTable.mk timers table.nextId []) htimers

/-- A poll answers after a flush what it answers before, and restarts the same timers. -/
theorem flush_poll (h : table.WellFormed) (id : UInt32) (now : Instant) :
    table.flush.2.poll id now = ((table.poll id now).1, (table.poll id now).2.flush.2) := by
  rw [poll_eq_active, poll_eq_active, active?_flush]
  cases hfind : table.active? id with
  | none => rfl
  | some timer =>
    -- a timer that is found is not queued, and the flush leaves it where it is
    by_cases hdue : timer.interval ≤ now.elapsedSince timer.lastRun
    · simp only [if_pos hdue, flush_insert h (isPending_of_active? hfind)]
    · simp only [if_neg hdue]

/-- Polls in a row: what they answer, and the table afterwards. -/
def polls (table : TimerTable) : List (UInt32 × Instant) → List TimerPoll × TimerTable
  | [] => ([], table)
  | (id, now) :: rest =>
    let (answer, table) := table.poll id now
    let (answers, table) := table.polls rest
    (answer :: answers, table)

/-- A flush before any polls is as good as one after them. -/
theorem flush_polls (h : table.WellFormed) (readings : List (UInt32 × Instant)) :
    table.flush.2.polls readings
      = ((table.polls readings).1, (table.polls readings).2.flush.2) := by
  induction readings generalizing table with
  | nil => rfl
  | cons reading rest ih =>
    rcases reading with ⟨id, now⟩
    simp only [polls, flush_poll h, ih (h.poll id now)]

/-- A flush leaves the timers counted as they were. -/
theorem activeCount_flush (table : TimerTable) :
    table.flush.2.activeCount = table.activeCount := by
  -- nothing is queued any more, so that all are counted
  have hall : table.flush.2.activeIds = table.flush.2.ids :=
    List.filter_eq_self.mpr fun _ _ => rfl
  rw [activeCount_eq_length, hall, ids_flush, activeCount_eq_length]

/-! ## All that is said of a table in use -/

/-- The queue is in step with what was done, and the count with the table and the queue. -/
structure Represents (history : List TimerOperation) (table : TimerTable) : Prop where
  ids_nodup : table.ids.Nodup
  pending_nodup : table.pending.Nodup
  pending_eq : table.pending = (removals history).eraseDups
  activeCount_eq : table.activeCount = (table.ids.toFinset \ table.pending.toFinset).card

/-- A flush takes out the timers that are queued, one after the other, and no others. -/
structure FlushesQueued (table : TimerTable) : Prop where
  callbacks_eq : table.flush.1.map some
    = (table.pending.filter table.contains).map fun id => (table.find? id).map (·.callback)
  ids_eq : table.flush.2.ids = table.activeIds
  find?_eq : ∀ id, table.flush.2.find? id = if table.isPending id then none else table.find? id
  pending_eq : table.flush.2.pending = []
  drained : table.flush = ((drain table.pending table.timers).1,
    { table with timers := (drain table.pending table.timers).2, pending := [] })

/-- A flush shows neither in the count nor in what polls answer and leave behind. -/
structure FlushUnseen (table : TimerTable) : Prop where
  activeCount_eq : table.flush.2.activeCount = table.activeCount
  poll_eq : ∀ id now, (table.flush.2.poll id now).1 = (table.poll id now).1
  lastRun_eq : ∀ id now, table.isPending id = false →
    ((table.flush.2.poll id now).2.find? id).map (·.lastRun)
      = ((table.poll id now).2.find? id).map (·.lastRun)
  /-- A poll of a timer that is taken out changes no last run, be it before or after. -/
  queued_poll : ∀ id now, table.isPending id = true →
    table.poll id now = (.missing, table) ∧
      table.flush.2.poll id now = (.missing, table.flush.2)
  polls_eq : ∀ readings, table.flush.2.polls readings
    = ((table.polls readings).1, (table.polls readings).2.flush.2)

/-- A clear gives every callback in the table, queued or not, and ids go on where they were. -/
structure ClearsAll (history : List TimerOperation) (table : TimerTable) : Prop where
  callbacks_eq : table.clear.1.map some
    = table.ids.map fun id => (table.find? id).map (·.callback)
  ids_eq : table.clear.2.ids = []
  pending_eq : table.clear.2.pending = []
  next : ∀ interval callback once now, (table.clear.2.create interval callback once now).1
    = UInt32.ofNat (creations history + 1)

theorem flushUnseen_of_wellFormed (h : table.WellFormed) : FlushUnseen table := by
  refine ⟨activeCount_flush table, fun id now => by rw [flush_poll h], ?_, ?_, flush_polls h⟩
  · intro id now hactive
    have hkept : (table.poll id now).2.isPending id = false :=
      (isPending_poll table id id now).trans hactive
    rw [flush_poll h, find?_flush, hkept]
    rfl
  · intro id now hqueued
    have hmissing : table.poll id now = (.missing, table) :=
      Missing.poll_eq (Or.inl hqueued) now
    exact ⟨hmissing, by rw [flush_poll h, hmissing]⟩

theorem clear_callbacks (h : table.WellFormed) :
    table.clear.1.map some = table.ids.map fun id => (table.find? id).map (·.callback) := by
  have hfound : table.ids.map table.find? = table.timers.map fun e => some e.2 :=
    Keyed.map_find?_keys h.ascending.nodup
  have hcallbacks := congrArg (List.map (Option.map (·.callback))) hfound
  rw [List.map_map, List.map_map] at hcallbacks
  rw [clear, callbacks, List.map_map]
  exact hcallbacks.symm

/-- Whatever has been done with a table, no id is queued twice and the count is that of the timers
in the table that are not queued.  A flush takes out the queued timers, each once and in the order
of the queue, and neither the count nor any polls show it.  A clear takes out all timers, each
once. -/
theorem flush_unseen (history : List TimerOperation) :
    Represents history (({} : TimerTable).performAll history) ∧
      FlushesQueued (({} : TimerTable).performAll history) ∧
      FlushUnseen (({} : TimerTable).performAll history) ∧
      ClearsAll history (({} : TimerTable).performAll history) := by
  have h := wellFormed_performAll history
  refine ⟨?_, ?_, flushUnseen_of_wellFormed h, ?_⟩
  · exact ⟨h.ascending.nodup, h.pending_nodup, pending_performAll history, activeCount_eq_card h⟩
  · exact ⟨flush_callbacks _, ids_flush _, find?_flush _, rfl, flush_eq_drain h⟩
  · exact ⟨clear_callbacks h, rfl, rfl, fun _ _ _ _ => nextId_performAll history⟩

end TimerTable

end ScriptHost
