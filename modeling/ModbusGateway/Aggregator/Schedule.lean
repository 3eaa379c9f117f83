import ModbusGateway.Aggregator.Window

/-!
# When windows end

The first boundary is the next multiple of the window after the start, and each
flush moves label and deadline on by exactly one window.
-/
namespace ModbusGateway

open Foundation

/-- `boundary` is the first multiple of the window after `now`, `wait` away from it,
and the machine arithmetic that finds it is exact. -/
structure Aligned (now : Duration) (windowSecs : UInt64) (wait : Duration)
    (boundary : UInt64) : Prop where
  quotient_exact :
    (now.asSecs / windowSecs + 1).toNat = now.nanos / 10 ^ 9 / windowSecs.toNat + 1
  boundary_exact :
    boundary.toNat = (now.nanos / 10 ^ 9 / windowSecs.toNat + 1) * windowSecs.toNat
  multiple : windowSecs.toNat ∣ boundary.toNat
  window_le : windowSecs.toNat ≤ boundary.toNat
  start_le : (boundary.toNat - windowSecs.toNat) * 10 ^ 9 ≤ now.nanos
  after_now : now.nanos < boundary.toNat * 10 ^ 9
  wait_eq : wait.nanos = boundary.toNat * 10 ^ 9 - now.nanos

/-- Rounding up past a second below `2 ^ 63` stays in range: where the quotient is
positive, the window is no longer than what has passed. -/
private theorem boundary_lt (secs window : Nat) (below : secs < 2 ^ 63)
    (bounded : window < 2 ^ 64) : (secs / window + 1) * window < 2 ^ 64 := by
  by_cases short : secs < window
  · -- The boundary is the window itself.
    rw [Nat.div_eq_of_lt short]
    omega
  · -- The boundary is at most twice what has passed.
    have rounded := Nat.div_mul_le_self secs window
    rw [Nat.add_mul]
    omega

/-- Whole seconds rounded up to the window lie less than a window ahead. -/
private theorem rounded_up (nanos window boundary : Nat) (positive : 0 < window)
    (rounded : boundary = (nanos / 10 ^ 9 / window + 1) * window) :
    window ≤ boundary ∧ (boundary - window) * 10 ^ 9 ≤ nanos ∧ nanos < boundary * 10 ^ 9 := by
  have start := Nat.div_mul_le_self (nanos / 10 ^ 9) window
  have later := Nat.lt_div_mul_add (a := nanos / 10 ^ 9) positive
  rw [Nat.add_mul, Nat.one_mul] at rounded
  generalize nanos / 10 ^ 9 / window * window = floor at *
  omega

theorem nextBoundary_aligned (now : Duration) (below : now.nanos < 2 ^ 63 * 10 ^ 9)
    (windowSecs : UInt64) (positive : 0 < windowSecs) :
    ∃ wait boundary, nextBoundary now (.fromSecs windowSecs) = some (wait, boundary) ∧
      Aligned now windowSecs wait boundary := by
  have nonzero : windowSecs ≠ 0 := UInt64.pos_iff_ne_zero.mp positive
  have window_pos : 0 < windowSecs.toNat := UInt64.lt_iff_toNat_lt.mp positive
  have secs_lt : now.nanos / 10 ^ 9 < 2 ^ 63 := by omega
  have inRange := boundary_lt (now.nanos / 10 ^ 9) windowSecs.toNat secs_lt windowSecs.toNat_lt
  have quotient : (now.asSecs / windowSecs + 1).toNat =
      now.nanos / 10 ^ 9 / windowSecs.toNat + 1 := by
    have smaller := Nat.div_le_self (now.nanos / 10 ^ 9) windowSecs.toNat
    rw [UInt64.toNat_add, UInt64.toNat_div, Duration.toNat_asSecs, UInt64.toNat_one]
    exact Nat.mod_eq_of_lt (by omega)
  have boundary_exact : ((now.asSecs / windowSecs + 1) * windowSecs).toNat =
      (now.nanos / 10 ^ 9 / windowSecs.toNat + 1) * windowSecs.toNat := by
    rw [UInt64.toNat_mul, quotient, Nat.mod_eq_of_lt inRange]
  -- The bounds are about the value alone: from here on it has a name.
  obtain ⟨boundary, named⟩ : ∃ boundary, boundary = (now.asSecs / windowSecs + 1) * windowSecs :=
    ⟨_, rfl⟩
  rw [← named] at boundary_exact
  obtain ⟨window_le, start_le, after_now⟩ := rounded_up _ _ _ window_pos boundary_exact
  have found : nextBoundary now (.fromSecs windowSecs) =
      some (⟨boundary.toNat * 10 ^ 9 - now.nanos, by have := boundary.toNat_lt; omega⟩,
        boundary) := by
    have reached : now.nanos ≤ (Duration.fromSecs boundary).nanos := after_now.le
    simp only [nextBoundary, Duration.asSecs_fromSecs, nonzero, if_false, ← named,
      Duration.sub?, reached, if_true, Option.map_some]
    rfl
  exact ⟨_, boundary, found,
    { quotient_exact := quotient
      boundary_exact := boundary_exact
      multiple := Dvd.intro_left _ boundary_exact.symm
      window_le := window_le
      start_le := start_le
      after_now := after_now
      wait_eq := rfl }⟩

/-! ### The schedule of a run -/

/-- The number of flushes in a run. -/
def ticks (events : List AggregatorEvent) : Nat :=
  events.countP fun event => match event.1 with
    | .tick .. => true
    | _ => false

/-- Label and deadline are `flushes` windows past where they started. -/
structure OnSchedule (windowSecs : UInt64) (start loop : AggregatorLoop) (flushes : Nat) :
    Prop where
  label : start.windowEndUnix.toNat + flushes * windowSecs.toNat < 2 ^ 64 →
    loop.windowEndUnix.toNat = start.windowEndUnix.toNat + flushes * windowSecs.toNat
  deadline : loop.deadline.nanos =
    start.deadline.nanos + flushes * windowSecs.toNat * 10 ^ 9

/-- One flush moves the schedule by one window, however late it is handled. -/
theorem OnSchedule.flush {windowSecs : UInt64} {start loop : AggregatorLoop} {flushes : Nat}
    (scheduled : OnSchedule windowSecs start loop flushes) (agg : HashMap PointId PointAgg)
    {deadline : Instant}
    (next : Instant.add? .latest loop.deadline (.fromSecs windowSecs) = some deadline) :
    OnSchedule windowSecs start
      { agg := agg
        windowEndUnix := loop.windowEndUnix + windowSecs
        deadline } (flushes + 1) where
  label := by
    intro inRange
    rw [Nat.add_mul, Nat.one_mul] at inRange ⊢
    have earlier := scheduled.label (by omega)
    rw [UInt64.toNat_add, earlier, Nat.mod_eq_of_lt (by omega), Nat.add_assoc]
  deadline := by
    rw [Instant.nanos_of_add? next, Duration.nanos_fromSecs, scheduled.deadline,
      Nat.add_mul flushes, Nat.one_mul, Nat.add_mul, Nat.add_assoc]

theorem ticks_snoc (events : List AggregatorEvent) (event : AggregatorEvent) :
    ticks (events ++ [event]) =
      match event.1 with
      | .tick .. => ticks events + 1
      | _ => ticks events := by
  obtain ⟨input, batches⟩ := event
  cases input <;> simp [ticks]

/-- Every run stays on schedule: readings do not touch it. -/
theorem onSchedule_of_run {windowSecs : UInt64} {start : AggregatorLoop}
    {events : List AggregatorEvent} {task : AggregatorTask}
    (run : Run (AggregatorStep windowSecs) (.running start) events task)
    (loop : AggregatorLoop) (stillRunning : task = .running loop) :
    OnSchedule windowSecs start loop (ticks events) := by
  induction run generalizing loop with
  | refl =>
    cases stillRunning
    exact ⟨by simp [ticks], by simp [ticks]⟩
  | snoc _ moved ih =>
    rw [ticks_snoc]
    cases moved with
    | reading loop' reading =>
      cases stillRunning
      have earlier := ih loop' rfl
      exact ⟨earlier.label, earlier.deadline⟩
    | tick loop' handledAt deadline batches due flushed next =>
      cases stillRunning
      exact (ih loop' rfl).flush _ next
    | inputClosed | overflowed | refused => cases stillRunning

/-- On schedule the subtraction in the label is exact, and so is the label. -/
theorem OnSchedule.window {windowSecs : UInt64} {start loop : AggregatorLoop} {flushes : Nat}
    (scheduled : OnSchedule windowSecs start loop flushes)
    (window_le : windowSecs.toNat ≤ start.windowEndUnix.toNat)
    (inRange : start.windowEndUnix.toNat + flushes * windowSecs.toNat < 2 ^ 64)
    {batches : List AggregatedBatch}
    (flushed : Flushes loop.agg (loop.windowEndUnix - windowSecs) loop.windowEndUnix batches) :
    windowSecs ≤ loop.windowEndUnix ∧
      ∀ batch ∈ batches,
        batch.windowStart.toNat + windowSecs.toNat =
          start.windowEndUnix.toNat + flushes * windowSecs.toNat ∧
        batch.windowEnd.toNat = start.windowEndUnix.toNat + flushes * windowSecs.toNat := by
  have label := scheduled.label inRange
  have fits : windowSecs.toNat ≤ loop.windowEndUnix.toNat := by omega
  refine ⟨UInt64.le_iff_toNat_le.mpr fits, fun batch member => ?_⟩
  obtain ⟨_, windowStart, windowEnd⟩ := (flushes_spec flushed).2.2 batch member
  rw [windowStart, windowEnd, UInt64.toNat_sub_of_le _ _ (UInt64.le_iff_toNat_le.mpr fits)]
  exact ⟨(Nat.sub_add_cancel fits).trans label, label⟩

/-- The window schedule is aligned, without gaps and without drift. The first boundary
is the next multiple of the window; after `k` flushes label and deadline are `k` windows
further, so that flush `k` is labelled with the `k`-th window and deadlines keep one
distance from labels. The loop is entered wherever its first deadline has a
representation. -/
theorem window_schedule (now : Duration) (below : now.nanos < 2 ^ 63 * 10 ^ 9)
    (windowSecs : UInt64) (positive : 0 < windowSecs) (agg : HashMap PointId PointAgg)
    (startedAt : Instant) :
    ∃ wait boundary, nextBoundary now (.fromSecs windowSecs) = some (wait, boundary) ∧
      Aligned now windowSecs wait boundary ∧
      AggregatorLoop.start agg windowSecs now startedAt =
        (Instant.add? .latest startedAt wait).map (fun deadline => ⟨agg, boundary, deadline⟩) ∧
      ∀ start, AggregatorLoop.start agg windowSecs now startedAt = some start →
      ∀ events task, Run (AggregatorStep windowSecs) (.running start) events task →
        (∀ loop, task = .running loop →
          boundary.toNat + ticks events * windowSecs.toNat < 2 ^ 64 →
          loop.windowEndUnix.toNat = boundary.toNat + ticks events * windowSecs.toNat ∧
          loop.deadline.nanos =
            startedAt.nanos + wait.nanos + ticks events * windowSecs.toNat * 10 ^ 9 ∧
          loop.deadline.nanos + now.nanos =
            startedAt.nanos + loop.windowEndUnix.toNat * 10 ^ 9) ∧
        (∀ before handledAt refusedAt batches after,
          events = before ++ (.tick handledAt refusedAt, batches) :: after →
          boundary.toNat + ticks before * windowSecs.toNat < 2 ^ 64 →
          ∃ loop, Run (AggregatorStep windowSecs) (.running start) before (.running loop) ∧
            loop.deadline.nanos ≤ handledAt.nanos ∧ windowSecs ≤ loop.windowEndUnix ∧
            ∀ batch ∈ batches,
              batch.windowStart.toNat + windowSecs.toNat =
                boundary.toNat + ticks before * windowSecs.toNat ∧
              batch.windowEnd.toNat = boundary.toNat + ticks before * windowSecs.toNat) := by
  obtain ⟨wait, boundary, found, aligned⟩ := nextBoundary_aligned now below windowSecs positive
  have started : AggregatorLoop.start agg windowSecs now startedAt =
      (Instant.add? .latest startedAt wait).map fun deadline => ⟨agg, boundary, deadline⟩ := by
    rw [AggregatorLoop.start, found]
    exact Option.map_eq_bind.symm
  refine ⟨wait, boundary, found, aligned, started, fun start entered events task run => ?_⟩
  obtain ⟨first, sum, rfl⟩ := Option.map_eq_some_iff.mp (started.symm.trans entered)
  constructor
  · intro loop stillRunning inRange
    have scheduled := onSchedule_of_run run loop stillRunning
    have label : loop.windowEndUnix.toNat = boundary.toNat + ticks events * windowSecs.toNat :=
      scheduled.label inRange
    have deadline : loop.deadline.nanos =
        startedAt.nanos + wait.nanos + ticks events * windowSecs.toNat * 10 ^ 9 := by
      rw [scheduled.deadline, Instant.nanos_of_add? sum]
    refine ⟨label, deadline, ?_⟩
    -- Both have moved by the same number of windows; the first wait bridges the rest.
    have ahead := aligned.after_now
    rw [deadline, label, aligned.wait_eq, Nat.add_mul]
    omega
  · rintro before handledAt refusedAt batches after rfl inRange
    obtain ⟨task₁, task₂, first, moved, _⟩ := run.step_at
    -- A tick whose sends are refused flushes like any other; fewer batches go out. So does
    -- the last one before the clock ends.
    cases moved with
    | tick loop _ _ _ due flushed | overflowed loop _ _ due flushed =>
      obtain ⟨window_le, labels⟩ :=
        (onSchedule_of_run first loop rfl).window aligned.window_le inRange flushed
      exact ⟨loop, first, due, window_le, labels⟩
    | refused loop _ all _ due flushed =>
      obtain ⟨window_le, labels⟩ :=
        (onSchedule_of_run first loop rfl).window aligned.window_le inRange flushed
      exact ⟨loop, first, due, window_le, fun batch member =>
        labels batch (List.mem_of_mem_take member)⟩

theorem window_schedule_late_start :
    ∃ wait, nextBoundary ⟨(2 ^ 63 - 1) * 10 ^ 9 + 500000000, by decide⟩ (.fromSecs 60) =
      some (wait, 9223372036854775860) := by
  obtain ⟨wait, boundary, found, aligned, _⟩ := window_schedule
    ⟨(2 ^ 63 - 1) * 10 ^ 9 + 500000000, by decide⟩ (by decide) 60 (by decide) ∅ ⟨0⟩
  have same : boundary = 9223372036854775860 :=
    UInt64.toNat_inj.mp (aligned.boundary_exact.trans (by decide))
  exact ⟨wait, same ▸ found⟩

end ModbusGateway
