import Mathlib.Data.List.Chain
import ScriptHost.Proofs.Timer.Runs

/-!
# The spacing of interval timers

A timer that fires again and again restarts its interval whenever it fires, at the reading of the
clock at which it was polled.  `Spaced` is what follows for the polls of such a timer:

* a poll fires exactly if the interval has passed since the last firing, or since the creation;
* if the clock never goes back and the polls are at most `gap` apart, two firings in a row are at
  least the interval and less than the interval and the gap apart, which bounds their number from
  both sides.

`interval_spacing` says when this holds while the timer is not cleared, whatever else is done with
the table in the meantime: exactly if its id was not queued before the timer was created.
-/

namespace ScriptHost

namespace Instant

theorem le_elapsedSince_iff {interval : Nat} {now earlier : Instant} :
    interval ≤ now.elapsedSince earlier
      ↔ interval = 0 ∨ earlier.nanoseconds + interval ≤ now.nanoseconds := by
  rw [elapsedSince]
  omega

/-- `later` is not before `earlier`, and not more than `gap` after it. -/
def Within (gap : Nat) (earlier later : Instant) : Prop :=
  earlier.nanoseconds ≤ later.nanoseconds ∧ later.nanoseconds ≤ earlier.nanoseconds + gap

/-- `later` is at least the interval after `earlier`, and less than the interval and the gap. -/
def Apart (interval gap : Nat) (earlier later : Instant) : Prop :=
  earlier.nanoseconds + interval ≤ later.nanoseconds ∧
    later.nanoseconds < earlier.nanoseconds + interval + gap

/-- How often an interval, and how often an interval with its gap, fits between two readings. -/
theorem elapsedSince_div_bounds {interval gap count : Nat} {earlier later : Instant}
    (hinterval : 0 < interval)
    (hleast : earlier.nanoseconds + (count * interval : Nat) ≤ later.nanoseconds)
    (hmost : later.nanoseconds
      < earlier.nanoseconds + ((count + 1) * (interval + gap) : Nat)) :
    count ≤ later.elapsedSince earlier / interval ∧
      later.elapsedSince earlier / (interval + gap) ≤ count := by
  constructor
  · rw [Nat.le_div_iff_mul_le hinterval, elapsedSince]
    omega
  · have hpositive : 0 < interval + gap := by omega
    have hproduct : 0 < (count + 1) * (interval + gap) := Nat.mul_pos count.succ_pos hpositive
    rw [← Nat.lt_add_one_iff, Nat.div_lt_iff_lt_mul hpositive, elapsedSince]
    omega

end Instant

/-! ## Polls of a single timer -/

def TimerPoll.fires : TimerPoll → Bool
  | fire .. => true
  | idle => false
  | missing => false

/-- A poll of a timer: the reading of the clock, and the answer. -/
abbrev Polled := Instant × TimerPoll

/-- The readings at which polls fired. -/
def firings (polls : List Polled) : List Instant :=
  (polls.filter fun poll => poll.2.fires).map (·.1)

@[simp] theorem firings_fire (now : Instant) (callback : FunctionHandle) (exhausted : Bool)
    (polls : List Polled) :
    firings ((now, .fire callback exhausted) :: polls) = now :: firings polls := rfl

@[simp] theorem firings_idle (now : Instant) (polls : List Polled) :
    firings ((now, .idle) :: polls) = firings polls := rfl

/-- The polls of a timer that fires every `interval` after its creation.  A poll fires exactly if
the interval has passed since the last firing before it, or since the creation if there is none, and
it restarts the interval.  If the clock never goes back, and polls are at most `gap` apart, then
firings in a row are `Apart`, and their number up to any poll is bounded by the time that has
passed. -/
structure Spaced (interval : Nat) (callback : FunctionHandle) (created : Instant)
    (polls : List Polled) : Prop where
  answers : ∀ earlier now answer later, polls = earlier ++ (now, answer) :: later →
    answer = .fire callback false ∨ answer = .idle
  fires_iff : ∀ earlier now answer later, polls = earlier ++ (now, answer) :: later →
    (answer = .fire callback false
      ↔ interval = 0 ∨
        ((firings earlier).getLastD created).nanoseconds + interval ≤ now.nanoseconds)
  apart : ∀ gap, 0 < gap → 0 < interval →
    (created :: polls.map (·.1)).IsChain (Instant.Within gap) →
    (created :: firings polls).IsChain (Instant.Apart interval gap)
  counted : ∀ gap, 0 < gap → 0 < interval →
    (created :: polls.map (·.1)).IsChain (Instant.Within gap) →
    ∀ earlier later, polls = earlier ++ later →
      let elapsed := ((earlier.map (·.1)).getLastD created).elapsedSince created
      (firings earlier).length ≤ elapsed / interval ∧
        elapsed / (interval + gap) ≤ (firings earlier).length

namespace Timer

/-- What polls at these readings answer if nothing else happens to the timer. -/
def answers (timer : Timer) : List Instant → List Polled
  | [] => []
  | now :: rest =>
    if timer.interval ≤ now.elapsedSince timer.lastRun then
      (now, .fire timer.callback timer.once) :: answers { timer with lastRun := now } rest
    else (now, .idle) :: answers timer rest

variable {timer : Timer} {now : Instant} {rest readings : List Instant}

theorem answers_of_due (h : timer.interval ≤ now.elapsedSince timer.lastRun) :
    timer.answers (now :: rest)
      = (now, .fire timer.callback timer.once) :: { timer with lastRun := now }.answers rest :=
  if_pos h

theorem answers_of_early (h : ¬ timer.interval ≤ now.elapsedSince timer.lastRun) :
    timer.answers (now :: rest) = (now, .idle) :: timer.answers rest :=
  if_neg h

theorem map_fst_answers (timer : Timer) (readings : List Instant) :
    (timer.answers readings).map (·.1) = readings := by
  induction readings generalizing timer with
  | nil => rfl
  | cons now rest ih =>
    by_cases hdue : timer.interval ≤ now.elapsedSince timer.lastRun
    · rw [answers_of_due hdue, List.map_cons, ih]
    · rw [answers_of_early hdue, List.map_cons, ih]

/-- The first answers do not depend on the later readings. -/
theorem answers_prefix {earlier later : List Polled}
    (h : timer.answers readings = earlier ++ later) :
    earlier = timer.answers (earlier.map (·.1)) := by
  induction earlier generalizing timer readings with
  | nil => rfl
  | cons poll earlier ih =>
    cases readings with
    | nil => cases h
    | cons now rest =>
      by_cases hdue : timer.interval ≤ now.elapsedSince timer.lastRun
      · rw [answers_of_due hdue, List.cons_append] at h
        obtain ⟨rfl, hrest⟩ := List.cons_eq_cons.mp h
        rw [List.map_cons, answers_of_due hdue, ← ih hrest]
      · rw [answers_of_early hdue, List.cons_append] at h
        obtain ⟨rfl, hrest⟩ := List.cons_eq_cons.mp h
        rw [List.map_cons, answers_of_early hdue, ← ih hrest]

/-- A poll fires exactly if the interval has passed since the last firing before it. -/
theorem answers_fire_iff {earlier later : List Polled} {answer : TimerPoll}
    (h : timer.answers readings = earlier ++ (now, answer) :: later) :
    (answer = .fire timer.callback timer.once ∨ answer = .idle) ∧
    (answer = .fire timer.callback timer.once
      ↔ timer.interval = 0 ∨
        ((firings earlier).getLastD timer.lastRun).nanoseconds + timer.interval
          ≤ now.nanoseconds) := by
  induction earlier generalizing timer readings with
  | nil =>
    cases readings with
    | nil => cases h
    | cons first rest =>
      by_cases hdue : timer.interval ≤ first.elapsedSince timer.lastRun
      · rw [answers_of_due hdue] at h
        obtain ⟨hpoll, -⟩ := List.cons_eq_cons.mp h
        obtain ⟨rfl, rfl⟩ := Prod.mk.inj hpoll
        exact ⟨Or.inl rfl, iff_of_true rfl (Instant.le_elapsedSince_iff.mp hdue)⟩
      · rw [answers_of_early hdue] at h
        obtain ⟨hpoll, -⟩ := List.cons_eq_cons.mp h
        obtain ⟨rfl, rfl⟩ := Prod.mk.inj hpoll
        refine ⟨Or.inr rfl, iff_of_false (fun e => by cases e) ?_⟩
        exact fun hpassed => hdue (Instant.le_elapsedSince_iff.mpr hpassed)
  | cons poll earlier ih =>
    cases readings with
    | nil => cases h
    | cons first rest =>
      by_cases hdue : timer.interval ≤ first.elapsedSince timer.lastRun
      · rw [answers_of_due hdue, List.cons_append] at h
        obtain ⟨rfl, hrest⟩ := List.cons_eq_cons.mp h
        rw [firings_fire, List.getLastD_cons]
        exact ih hrest
      · rw [answers_of_early hdue, List.cons_append] at h
        obtain ⟨rfl, hrest⟩ := List.cons_eq_cons.mp h
        exact ih hrest

/-! ## Steady polls

From here on the clock never goes back, and polls are at most `gap` apart.  `previous` is the
reading of the last poll; the interval had not passed by then, or the poll had fired. -/

section Steady

variable {gap : Nat} {previous : Instant}

theorem answers_isChain (timer : Timer) (hinterval : 0 < timer.interval)
    (hbefore : previous.nanoseconds < timer.lastRun.nanoseconds + timer.interval)
    (hsteady : (previous :: readings).IsChain (Instant.Within gap)) :
    (timer.lastRun :: firings (timer.answers readings)).IsChain
      (Instant.Apart timer.interval gap) := by
  induction readings generalizing timer previous with
  | nil => exact List.isChain_singleton _
  | cons now rest ih =>
    obtain ⟨⟨hle, hgap⟩, hrest⟩ := List.isChain_cons_cons.mp hsteady
    by_cases hdue : timer.interval ≤ now.elapsedSince timer.lastRun
    · have hpassed := Instant.le_elapsedSince_iff.mp hdue
      have hapart : Instant.Apart timer.interval gap timer.lastRun now := by
        unfold Instant.Apart
        omega
      have hnow : now.nanoseconds < now.nanoseconds + timer.interval := by omega
      rw [answers_of_due hdue, firings_fire]
      exact List.isChain_cons_cons.mpr
        ⟨hapart, ih { timer with lastRun := now } hinterval hnow hrest⟩
    · rw [answers_of_early hdue, firings_idle]
      rw [Instant.le_elapsedSince_iff] at hdue
      exact ih timer hinterval (by omega) hrest

/-- The last reading lies between what `k` firings take at least, and `k + 1` at most. -/
theorem answers_length_bounds (timer : Timer) (hinterval : 0 < timer.interval)
    (hfrom : timer.lastRun.nanoseconds ≤ previous.nanoseconds)
    (hbefore : previous.nanoseconds < timer.lastRun.nanoseconds + timer.interval)
    (hsteady : (previous :: readings).IsChain (Instant.Within gap)) :
    let fired := (firings (timer.answers readings)).length
    let last := readings.getLastD previous
    timer.lastRun.nanoseconds + (fired * timer.interval : Nat) ≤ last.nanoseconds ∧
      last.nanoseconds < timer.lastRun.nanoseconds
        + ((fired + 1) * (timer.interval + gap) : Nat) := by
  induction readings generalizing timer previous with
  | nil =>
    simp only [answers, firings, List.filter_nil, List.map_nil, List.length_nil, List.getLastD_nil]
    omega
  | cons now rest ih =>
    obtain ⟨⟨hle, hgap⟩, hrest⟩ := List.isChain_cons_cons.mp hsteady
    rw [List.getLastD_cons]
    by_cases hdue : timer.interval ≤ now.elapsedSince timer.lastRun
    · have hpassed := Instant.le_elapsedSince_iff.mp hdue
      have hnow : now.nanoseconds < now.nanoseconds + timer.interval := by omega
      have hlater := ih { timer with lastRun := now } hinterval (Int.le_refl _) hnow hrest
      rw [answers_of_due hdue, firings_fire, List.length_cons]
      simp only [Nat.succ_mul] at hlater ⊢
      omega
    · rw [answers_of_early hdue, firings_idle]
      rw [Instant.le_elapsedSince_iff] at hdue
      exact ih timer hinterval (by omega) (by omega) hrest

end Steady

/-- A timer that nothing else happens to keeps its spacing. -/
theorem spaced_answers (interval : Nat) (callback : FunctionHandle) (created : Instant)
    (readings : List Instant) :
    Spaced interval callback created
      ((Timer.mk callback interval created false).answers readings) := by
  generalize htimer : Timer.mk callback interval created false = timer
  obtain ⟨rfl, rfl, rfl⟩ : timer.callback = callback ∧ timer.interval = interval ∧
      timer.lastRun = created := by
    rw [← htimer]
    exact ⟨rfl, rfl, rfl⟩
  have honce : timer.once = false := by rw [← htimer]
  refine ⟨?_, ?_, ?_, ?_⟩
  · intro earlier now answer later hsplit
    rw [← honce]
    exact (answers_fire_iff hsplit).1
  · intro earlier now answer later hsplit
    rw [← honce]
    exact (answers_fire_iff hsplit).2
  · intro gap _ hinterval hsteady
    rw [map_fst_answers] at hsteady
    exact timer.answers_isChain hinterval (by omega) hsteady
  · intro gap _ hinterval hsteady earlier later hsplit
    rw [map_fst_answers] at hsteady
    have hreadings : readings = earlier.map (·.1) ++ later.map (·.1) := by
      rw [← List.map_append, ← hsplit, map_fst_answers]
    have hearlier : (timer.lastRun :: earlier.map (·.1)).IsChain (Instant.Within gap) := by
      rw [hreadings, ← List.cons_append] at hsteady
      exact hsteady.left_of_append
    have hbounds := timer.answers_length_bounds hinterval (Int.le_refl _) (by omega) hearlier
    rw [← answers_prefix hsplit] at hbounds
    exact Instant.elapsedSince_div_bounds hinterval hbounds.1 hbounds.2

end Timer

namespace TimerTable

open TimerOperation (creations Queues)

/-! ## Runs of the table -/

/-- In the run the timer is not cleared: its id is not removed, and the table is not cleared. -/
def Uncleared (id : UInt32) (operations : List TimerOperation) : Prop :=
  .remove id ∉ operations ∧ .clear ∉ operations

/-- In the run the id is not given to another timer. -/
def Unissued (id : UInt32) (table : TimerTable) : List TimerOperation → Prop
  | [] => True
  | operation :: rest =>
    (operation.isCreate = true → table.nextId ≠ id) ∧ Unissued id (table.perform operation) rest

/-- The id that the next timer gets has been queued for removal already. -/
def NextQueued (table : TimerTable) : Prop :=
  table.isPending table.nextId = true

/-- The polls of the timer `id` in a run. -/
def pollsOf (id : UInt32) (table : TimerTable) : List TimerOperation → List Polled
  | [] => []
  | .poll other now :: rest =>
    if other = id then (now, (table.poll id now).1) :: pollsOf id (table.poll id now).2 rest
    else pollsOf id (table.poll other now).2 rest
  | operation :: rest => pollsOf id (table.perform operation) rest

variable {table : TimerTable} {id : UInt32} {timer : Timer}

theorem pollsOf_poll (id : UInt32) (table : TimerTable) (now : Instant)
    (rest : List TimerOperation) :
    pollsOf id table (.poll id now :: rest)
      = (now, (table.poll id now).1) :: pollsOf id (table.poll id now).2 rest :=
  if_pos rfl

theorem pollsOf_of_ne {operation : TimerOperation} (h : ∀ now, operation ≠ .poll id now)
    (rest : List TimerOperation) :
    pollsOf id table (operation :: rest) = pollsOf id (table.perform operation) rest := by
  cases operation with
  | poll other now => exact if_neg fun e => h now (by rw [e])
  | create | remove | flush | clear => rfl

/-- There are not enough creations in the run for all ids to be given out. -/
theorem unissued_of_room {operations : List TimerOperation}
    (h : creations operations ≤ roomBefore id table) : Unissued id table operations := by
  induction operations generalizing table with
  | nil => trivial
  | cons operation rest ih =>
    obtain ⟨hnext, hrest⟩ := room_cons h
    exact ⟨hnext, ih hrest⟩

/-! ## A timer that was queued before -/

/-- What is not there, or queued, stays so until its id is given out: no poll finds it. -/
theorem missing_pollsOf (h : Missing id table) {operations : List TimerOperation}
    (hunissued : Unissued id table operations) :
    ∀ poll ∈ pollsOf id table operations, poll.2 = .missing := by
  induction operations generalizing table with
  | nil => exact fun poll hpoll => absurd hpoll List.not_mem_nil
  | cons operation rest ih =>
    obtain ⟨hnext, hrest⟩ := hunissued
    by_cases hpoll : ∃ now, operation = .poll id now
    · obtain ⟨now, rfl⟩ := hpoll
      rw [pollsOf_poll, h.poll_eq now]
      rw [perform, h.poll_eq now] at hrest
      exact List.forall_mem_cons.mpr ⟨rfl, ih h hrest⟩
    · rw [pollsOf_of_ne fun now e => hpoll ⟨now, e⟩]
      exact ih (h.perform hnext) hrest

/-! ## A timer that was not -/

theorem poll_of_due {now : Instant} (hfind : table.find? id = some timer)
    (hactive : table.isPending id = false)
    (hdue : timer.interval ≤ now.elapsedSince timer.lastRun) :
    (table.poll id now).1 = .fire timer.callback timer.once ∧
      (table.poll id now).2.find? id = some { timer with lastRun := now } := by
  have hpoll := Due.poll_eq ⟨hfind, hactive, hdue⟩
  rw [hpoll]
  exact ⟨rfl, (Keyed.find?_insert id id _ table.timers).trans (if_pos rfl)⟩

theorem poll_of_early {now : Instant} (hfind : table.find? id = some timer)
    (hactive : table.isPending id = false)
    (hearly : ¬ timer.interval ≤ now.elapsedSince timer.lastRun) :
    table.poll id now = (.idle, table) := by
  simp [poll, hactive, hfind, hearly]

/-- What is done with other timers leaves a timer as it is. -/
theorem find?_perform_of_active {operation : TimerOperation}
    (hactive : table.isPending id = false) (hclear : operation ≠ .clear)
    (hnext : operation.isCreate = true → table.nextId ≠ id)
    (hpoll : ∀ now, operation ≠ .poll id now) :
    (table.perform operation).find? id = table.find? id := by
  cases operation with
  | create interval callback once now => exact find?_create fun e => hnext rfl e.symm
  | remove other => exact find?_remove table id other
  | flush =>
    rw [perform, find?_flush, hactive]
    rfl
  | poll other now => exact find?_poll_of_ne fun e => hpoll now (by rw [e])
  | clear => exact absurd rfl hclear

/-- In a run the polls of a timer that is not cleared answer what they would if nothing else
happened. -/
theorem exists_pollsOf_eq (hfind : table.find? id = some timer)
    (hactive : table.isPending id = false) {operations : List TimerOperation}
    (huncleared : Uncleared id operations) (hunissued : Unissued id table operations) :
    ∃ readings, pollsOf id table operations = timer.answers readings := by
  -- what is found under the id changes only when the timer fires, in its last run
  induction operations generalizing table timer with
  | nil => exact ⟨[], rfl⟩
  | cons operation rest ih =>
    obtain ⟨hremove, hclear⟩ := huncleared
    rw [List.mem_cons, not_or] at hremove hclear
    obtain ⟨hnext, hrest⟩ := hunissued
    have hlater := isPending_perform_of_ne hactive (Ne.symm hremove.1)
    by_cases hpoll : ∃ now, operation = .poll id now
    · obtain ⟨now, rfl⟩ := hpoll
      rw [pollsOf_poll]
      by_cases hdue : timer.interval ≤ now.elapsedSince timer.lastRun
      · obtain ⟨hanswer, hafter⟩ := poll_of_due hfind hactive hdue
        obtain ⟨readings, hreadings⟩ := ih hafter hlater ⟨hremove.2, hclear.2⟩ hrest
        refine ⟨now :: readings, ?_⟩
        rw [Timer.answers_of_due hdue, hanswer, hreadings]
      · have hanswer := poll_of_early hfind hactive hdue
        rw [perform, hanswer] at hrest
        obtain ⟨readings, hreadings⟩ := ih hfind hactive ⟨hremove.2, hclear.2⟩ hrest
        refine ⟨now :: readings, ?_⟩
        rw [Timer.answers_of_early hdue, hanswer, hreadings]
    · have hother : ∀ now, operation ≠ .poll id now := fun now e => hpoll ⟨now, e⟩
      have hkept := find?_perform_of_active hactive (Ne.symm hclear.1) hnext hother
      rw [pollsOf_of_ne hother]
      exact ih (hkept.trans hfind) hlater ⟨hremove.2, hclear.2⟩ hrest

theorem spaced_pollsOf (hactive : table.isPending table.nextId = false) (interval : Nat)
    (callback : FunctionHandle) (created : Instant) {operations : List TimerOperation}
    (huncleared : Uncleared table.nextId operations)
    (hunissued : Unissued table.nextId (table.create interval callback false created).2.2
      operations) :
    Spaced interval callback created
      (pollsOf table.nextId (table.create interval callback false created).2.2 operations) := by
  have hfind : (table.create interval callback false created).2.2.find? table.nextId
      = some ⟨callback, interval, created, false⟩ := by
    simp [create, find?, Keyed.find?_insert]
  obtain ⟨readings, hpolls⟩ := exists_pollsOf_eq hfind hactive huncleared hunissued
  rw [hpolls]
  exact Timer.spaced_answers interval callback created readings

/-! ## The spacing -/

/-- While it is not cleared, and as long as its id is not given to another timer, a timer that fires
again and again keeps its spacing, whatever else is done with the table, exactly if its id was not
queued for removal when it was created.  Otherwise no poll finds it.  After any history of the table
an id is queued if it was removed, with or without a timer under it, since the last flush or clear;
and 2³² - 1 timers can be created before the id is given out again. -/
theorem interval_spacing (table : TimerTable) (interval : Nat) (callback : FunctionHandle)
    (created : Instant) :
    ((∀ operations, Uncleared table.nextId operations →
        Unissued table.nextId (table.create interval callback false created).2.2 operations →
        Spaced interval callback created
          (pollsOf table.nextId (table.create interval callback false created).2.2 operations))
      ↔ ¬ table.NextQueued) ∧
    (table.NextQueued → ∀ operations,
      Unissued table.nextId (table.create interval callback false created).2.2 operations →
      ∀ poll ∈ pollsOf table.nextId (table.create interval callback false created).2.2 operations,
        poll.2 = .missing) ∧
    (∀ history, table = ({} : TimerTable).performAll history →
      (table.NextQueued ↔ Queues table.nextId history)) ∧
    ∀ operations, creations operations < UInt32.size →
      Unissued table.nextId (table.create interval callback false created).2.2 operations := by
  have hqueued : table.NextQueued → ∀ operations,
      Unissued table.nextId (table.create interval callback false created).2.2 operations →
      ∀ poll ∈ pollsOf table.nextId (table.create interval callback false created).2.2 operations,
        poll.2 = .missing := by
    intro hqueued operations hunissued
    have hmissing : Missing table.nextId (table.create interval callback false created).2.2 :=
      Or.inl hqueued
    exact missing_pollsOf hmissing hunissued
  refine ⟨⟨?_, ?_⟩, hqueued, ?_, ?_⟩
  · -- the first poll of a timer that was queued breaks the promise
    intro hall hnext
    have hspaced := hall [.poll table.nextId created] ⟨by simp, by simp⟩ ⟨nofun, trivial⟩
    have hmissing := hqueued hnext [.poll table.nextId created] ⟨nofun, trivial⟩
    rw [pollsOf_poll] at hspaced hmissing
    have hanswer := hmissing _ List.mem_cons_self
    rcases hspaced.answers [] _ _ _ rfl with hfire | hidle
    · cases hanswer.symm.trans hfire
    · cases hanswer.symm.trans hidle
  · intro hnot operations huncleared hunissued
    exact spaced_pollsOf (Bool.eq_false_iff.mpr hnot) interval callback created huncleared hunissued
  · rintro history rfl
    exact isPending_performAll history _
  · intro operations hroom
    apply unissued_of_room
    rw [roomBefore_created]
    exact Nat.le_sub_one_of_lt hroom

/-- An interval of 5, polled at 4, 9, 11 and 15 while another timer comes and goes: it fires at 9
and 15. -/
theorem interval_spacing_interleaved :
    let callback : FunctionHandle := ⟨"greet", "void greet()"⟩
    let operations : List TimerOperation :=
      [.poll 1 ⟨4⟩, .create 0 ⟨"wave", "void wave()"⟩ true ⟨6⟩, .poll 1 ⟨9⟩, .poll 2 ⟨9⟩,
        .remove 2, .flush, .poll 1 ⟨11⟩, .poll 1 ⟨15⟩]
    let table := (({} : TimerTable).create 5 callback false ⟨0⟩).2.2
    Uncleared 1 operations ∧ Unissued 1 table operations ∧
      firings (pollsOf 1 table operations) = [⟨9⟩, ⟨15⟩] ∧
      [⟨0⟩, ⟨9⟩, ⟨15⟩].IsChain (Instant.Apart 5 5) := by
  intro callback operations table
  have huncleared : Uncleared 1 operations := ⟨by decide, by decide⟩
  obtain ⟨hspacing, -, -, hroom⟩ := interval_spacing {} 5 callback ⟨0⟩
  have hunissued : Unissued 1 table operations := hroom operations (by decide)
  have hspaced : Spaced 5 callback ⟨0⟩ (pollsOf 1 table operations) :=
    hspacing.mpr Bool.false_ne_true operations huncleared hunissued
  have hfirings : firings (pollsOf 1 table operations) = [⟨9⟩, ⟨15⟩] := by decide
  have hsteady : (⟨0⟩ :: (pollsOf 1 table operations).map (·.1)).IsChain (Instant.Within 5) := by
    have hreadings : (pollsOf 1 table operations).map (·.1) = [⟨4⟩, ⟨9⟩, ⟨11⟩, ⟨15⟩] := by decide
    rw [hreadings]
    simp [Instant.Within]
  refine ⟨huncleared, hunissued, hfirings, ?_⟩
  rw [← hfirings]
  exact hspaced.apart 5 (by decide) (by decide) hsteady

/-- An interval of 5, polled at 5, 10 and 15, of a timer whose id was removed before there was any:
no poll finds it. -/
theorem interval_spacing_silent :
    let callback : FunctionHandle := ⟨"greet", "void greet()"⟩
    let operations : List TimerOperation := [.poll 1 ⟨5⟩, .poll 1 ⟨10⟩, .poll 1 ⟨15⟩]
    let before := ({} : TimerTable).performAll [.remove 1]
    let table := (before.create 5 callback false ⟨0⟩).2.2
    (before.create 5 callback false ⟨0⟩).1 = 1 ∧
      Uncleared 1 operations ∧ Unissued 1 table operations ∧
      pollsOf 1 table operations = [(⟨5⟩, .missing), (⟨10⟩, .missing), (⟨15⟩, .missing)] ∧
      ¬ Spaced 5 callback ⟨0⟩ (pollsOf 1 table operations) := by
  intro callback operations before table
  have hpolls : pollsOf 1 table operations
      = [(⟨5⟩, .missing), (⟨10⟩, .missing), (⟨15⟩, .missing)] := by decide
  refine ⟨by decide, ⟨by decide, by decide⟩, unissued_of_room (by decide), hpolls, ?_⟩
  intro hspaced
  have hfires := (hspaced.fires_iff [] _ _ _ hpolls).mpr (Or.inr (by decide))
  cases hfires

end TimerTable

end ScriptHost
