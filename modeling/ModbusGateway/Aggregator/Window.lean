import ModbusGateway.Aggregator

/-!
# Which readings a window averages

The accumulators are a function of the readings since the last tick. A flush
turns that function into batches and starts the next window from nothing.
-/
namespace ModbusGateway

open Foundation

/-- One event of a run: an input and the batches it made the task send. -/
abbrev AggregatorEvent := AggregatorInput × List AggregatedBatch

/-- The readings received since the last tick. -/
def windowReadings (events : List AggregatorEvent) : List Reading :=
  events.foldl (fun readings event =>
    match event.1 with
    | .reading reading => readings ++ [reading]
    | .inputClosed => readings
    | .tick .. => []) []

/-- The values among `readings` that belong to one point. -/
def valuesOf (pointId : PointId) (readings : List Reading) : List F64 :=
  readings.filterMap fun reading =>
    if reading.pointId = pointId then some reading.value else none

/-- Every point of some batches, with the device whose batch carries it. -/
def contents (batches : List AggregatedBatch) : List (String × AggregatedPoint) :=
  batches.flatMap fun batch => batch.points.map fun point => (batch.deviceId, point)

/-- What a window publishes for a point: the mean of its values, if there are any. They
are added up in the order in which they came. -/
def windowPoint (readings : List Reading) (pointId : PointId) (unit : String) :
    Option (String × AggregatedPoint) :=
  let values := valuesOf pointId readings
  if values = [] then none
  else some (pointId.device, ⟨pointId.point, unit, F64.sum values / .ofInt values.length⟩)

@[simp] theorem windowReadings_nil : windowReadings [] = [] := rfl

theorem windowReadings_snoc (events : List AggregatorEvent) (event : AggregatorEvent) :
    windowReadings (events ++ [event]) =
      match event.1 with
      | .reading reading => windowReadings events ++ [reading]
      | .inputClosed => windowReadings events
      | .tick .. => [] := by
  simp [windowReadings]

theorem valuesOf_snoc (pointId : PointId) (readings : List Reading) (reading : Reading) :
    valuesOf pointId (readings ++ [reading]) =
      if reading.pointId = pointId then valuesOf pointId readings ++ [reading.value]
      else valuesOf pointId readings := by
  by_cases own : reading.pointId = pointId <;> simp [valuesOf, own]

theorem length_windowReadings_le (events : List AggregatorEvent) :
    (windowReadings events).length ≤ events.length := by
  induction events using List.reverseRecOn with
  | nil => simp
  | append_singleton events event ih =>
    rw [windowReadings_snoc, List.length_append, List.length_singleton]
    cases event.1 with
    | reading => simpa using ih
    | inputClosed => exact Nat.le_succ_of_le ih
    | tick => exact Nat.zero_le _

/-- A run with few events has windows with few readings. -/
theorem length_valuesOf_window_le {before events : List AggregatorEvent}
    (earlier : before <+: events) (pointId : PointId) :
    (valuesOf pointId (windowReadings before)).length ≤ events.length :=
  (List.length_filterMap_le _ _).trans
    ((length_windowReadings_le before).trans earlier.length_le)

/-! ### One accumulator -/

namespace PointAgg

/-- A fresh accumulator after some values. -/
def accumulated (unit : String) (values : List F64) : PointAgg :=
  values.foldl add (new unit)

theorem accumulated_snoc (unit : String) (values : List F64) (value : F64) :
    accumulated unit (values ++ [value]) = (accumulated unit values).add value := by
  simp [accumulated]

@[simp] theorem accumulated_unit (unit : String) (values : List F64) :
    (accumulated unit values).unit = unit := by
  induction values using List.reverseRecOn with
  | nil => rfl
  | append_singleton values value ih =>
    rw [accumulated_snoc]
    exact ih

theorem accumulated_sum (unit : String) (values : List F64) :
    (accumulated unit values).sum = F64.sum values := by
  induction values using List.reverseRecOn with
  | nil => rfl
  | append_singleton values value ih =>
    rw [accumulated_snoc, F64.sum_snoc, ← ih]
    rfl

theorem accumulated_count (unit : String) (values : List F64) :
    (accumulated unit values).count = UInt32.ofNat values.length := by
  induction values using List.reverseRecOn with
  | nil => rfl
  | append_singleton values value ih =>
    have step : ((accumulated unit values).add value).count =
        (accumulated unit values).count + 1 := rfl
    rw [accumulated_snoc, step, ih, List.length_append, List.length_singleton]
    exact (UInt32.ofNat_add values.length 1).symm

@[simp] theorem reset_accumulated (unit : String) (values : List F64) :
    (accumulated unit values).reset = new unit := by
  simp [reset, new]

end PointAgg

/-! ### The map of accumulators -/

/-- The accumulators of `fresh` after the readings of a window. -/
def accumulators (fresh : HashMap PointId PointAgg) (readings : List Reading) :
    HashMap PointId PointAgg :=
  HashMap.update
    (fun pointId pointAgg => .accumulated pointAgg.unit (valuesOf pointId readings)) fresh

/-- No accumulator holds a value yet. -/
def Fresh (agg : HashMap PointId PointAgg) : Prop :=
  ∀ e ∈ agg.entries, e.2 = .new e.2.unit

theorem accumulators_nil {agg : HashMap PointId PointAgg} (fresh : Fresh agg) :
    accumulators agg [] = agg := by
  apply AList.ext
  simp only [accumulators, HashMap.entries_update]
  conv_rhs => rw [← List.map_id agg.entries]
  apply List.map_congr_left
  intro e member
  exact Sigma.ext rfl (heq_of_eq (fresh e member).symm)

theorem record_accumulators (agg : HashMap PointId PointAgg) (readings : List Reading)
    (reading : Reading) :
    record (accumulators agg readings) reading = accumulators agg (readings ++ [reading]) := by
  apply AList.ext
  simp only [record, HashMap.modify, accumulators, HashMap.entries_update, List.map_map]
  apply List.map_congr_left
  intro e _
  simp only [Function.comp_apply, valuesOf_snoc]
  -- The reading goes to the entry with its key, and the other entries' values stay.
  by_cases own : e.1 = reading.pointId
  · simp [own, PointAgg.accumulated_snoc]
  · simp [own, Ne.symm own]

theorem reset_accumulators {agg : HashMap PointId PointAgg} (fresh : Fresh agg)
    (readings : List Reading) :
    HashMap.update (fun _ pointAgg => pointAgg.reset) (accumulators agg readings) = agg := by
  rw [← accumulators_nil fresh]
  apply AList.ext
  simp only [accumulators, HashMap.entries_update, List.map_map]
  apply List.map_congr_left
  intro e _
  simp only [Function.comp_apply, PointAgg.reset_accumulated, PointAgg.accumulated_unit]
  rfl

/-! ### One flush -/

/-- What an entry contributes to `by_device`. -/
def flushedPoint (pointId : PointId) (pointAgg : PointAgg) : Option (String × AggregatedPoint) :=
  if pointAgg.count = 0 then none
  else some (pointId.device,
    ⟨pointId.point, pointAgg.unit, pointAgg.sum / .ofInt pointAgg.count.toNat⟩)

theorem flush_eq_gather (agg : HashMap PointId PointAgg) (windowStart windowEnd : UInt64) :
    (flush agg windowStart windowEnd).2 =
      (HashMap.gather (agg.entries.filterMap fun e => flushedPoint e.1 e.2)).entries.map
        fun e => ⟨e.1, windowStart, windowEnd, e.2⟩ := by
  simp only [flush, HashMap.gather, List.foldl_filterMap]
  congr 3
  funext byDevice e
  by_cases empty : e.2.count = 0 <;> simp [flushEntry, flushedPoint, empty]

theorem contents_perm {batches batches' : List AggregatedBatch} (perm : batches.Perm batches') :
    (contents batches).Perm (contents batches') :=
  perm.flatMap_right _

/-- The batches of a flush, whatever the orders of iteration. -/
theorem flushes_spec {agg : HashMap PointId PointAgg} {windowStart windowEnd : UInt64}
    {batches : List AggregatedBatch} (flushed : Flushes agg windowStart windowEnd batches) :
    (contents batches).Perm (agg.entries.filterMap fun e => flushedPoint e.1 e.2) ∧
    (batches.map AggregatedBatch.deviceId).Nodup ∧
    ∀ batch ∈ batches, batch.points ≠ [] ∧
      batch.windowStart = windowStart ∧ batch.windowEnd = windowEnd := by
  obtain ⟨iterated, sameEntries, order⟩ := flushed
  rw [flush_eq_gather] at order
  refine ⟨?_, ?_, ?_⟩
  · have gathered := HashMap.ungather_gather
      (iterated.entries.filterMap fun e => flushedPoint e.1 e.2)
    have regrouped := contents_perm order
    simp only [contents, List.flatMap_map] at regrouped
    -- Regrouping by device keeps the points, and so does another order of the entries.
    exact (regrouped.trans gathered).trans (sameEntries.filterMap _)
  · rw [(order.map _).nodup_iff, List.map_map]
    exact (HashMap.gather _).nodupKeys
  · intro batch member
    obtain ⟨e, entry, rfl⟩ := List.mem_map.mp (order.mem_iff.mp member)
    exact ⟨HashMap.gather_nonempty _ e entry, rfl, rfl⟩

/-- Where all values are numbers, and their sums stay within the range, what is published is
their exact mean. -/
theorem windowPoint_finite {readings : List Reading} {pointId : PointId} (unit : String)
    {numbers : List ℚ} (all : valuesOf pointId readings = numbers.map .finite)
    (some_value : numbers ≠ []) (inRange : F64.InRange numbers) :
    windowPoint readings pointId unit =
      some (pointId.device, ⟨pointId.point, unit, .finite (numbers.sum / numbers.length)⟩) := by
  have nonempty : valuesOf pointId readings ≠ [] := by simpa [all] using some_value
  have divisor : (numbers.length : ℤ) ≠ 0 :=
    Nat.cast_ne_zero.mpr (List.length_eq_zero_iff.not.mpr some_value)
  have mean : F64.sum (valuesOf pointId readings) / .ofInt (valuesOf pointId readings).length =
      F64.finite (numbers.sum / numbers.length) := by
    rw [F64.sum_eq_finite_iff.mpr ⟨numbers, all, inRange, rfl⟩, all, List.length_map,
      F64.finite_div_ofInt inRange.sum_lt divisor, Int.cast_natCast]
  simp only [windowPoint, if_neg nonempty, mean]

/-- With fewer than `2 ^ 32` values the counter tells an empty window from any other. -/
theorem flushedPoint_accumulated (readings : List Reading) (pointId : PointId) (unit : String)
    (few : (valuesOf pointId readings).length < 2 ^ 32) :
    flushedPoint pointId (.accumulated unit (valuesOf pointId readings)) =
      windowPoint readings pointId unit := by
  -- Below `2 ^ 32` the counter is the number of values.
  have count : (PointAgg.accumulated unit (valuesOf pointId readings)).count.toNat =
      (valuesOf pointId readings).length := by
    rw [PointAgg.accumulated_count, UInt32.toNat_ofNat_of_lt' few]
  have empty : (PointAgg.accumulated unit (valuesOf pointId readings)).count = 0 ↔
      valuesOf pointId readings = [] := by
    rw [← UInt32.toNat_inj, count, ← List.length_eq_zero_iff]
    rfl
  simp only [flushedPoint, windowPoint, empty, count, PointAgg.accumulated_sum,
    PointAgg.accumulated_unit]

/-! ### Whole runs -/

/-- The publish channel takes every batch. -/
def AggregatorEvent.Sent (event : AggregatorEvent) : Prop :=
  ∀ handledAt refusedAt, event.1 ≠ .tick handledAt (some refusedAt)

/-- At most one step leaves the loop, and only with nothing further sent. -/
theorem aggregatorStep_cases {windowSecs : UInt64} {task task' : AggregatorTask}
    {event : AggregatorEvent} (moved : AggregatorStep windowSecs task event task')
    (sent : event.Sent) :
    ∃ loop, task = .running loop ∧
      ((∃ reading, event = (.reading reading, []) ∧
          task' = .running { loop with agg := record loop.agg reading }) ∨
        (event = (.inputClosed, []) ∧ task' = .returned) ∨
        ∃ handledAt batches, event = (.tick handledAt none, batches) ∧
          Flushes loop.agg (loop.windowEndUnix - windowSecs) loop.windowEndUnix batches ∧
          ∀ loop', task' = .running loop' →
            loop'.agg = HashMap.update (fun _ pointAgg => pointAgg.reset) loop.agg) := by
  cases moved with
  | reading loop reading => exact ⟨loop, rfl, .inl ⟨reading, rfl, rfl⟩⟩
  | inputClosed loop => exact ⟨loop, rfl, .inr (.inl ⟨rfl, rfl⟩)⟩
  | tick loop handledAt deadline batches _ flushed =>
    refine ⟨loop, rfl, .inr (.inr ⟨handledAt, batches, rfl, flushed, ?_⟩)⟩
    rintro loop' ⟨⟩
    rfl
  | overflowed loop handledAt batches _ flushed =>
    exact ⟨loop, rfl, .inr (.inr ⟨handledAt, batches, rfl, flushed, by rintro loop' ⟨⟩⟩)⟩
  | refused loop handledAt batches refusedAt => exact absurd rfl (sent handledAt refusedAt)

/-- After every run the accumulators are those of the readings since the last tick. -/
theorem agg_of_run {windowSecs : UInt64} {loop : AggregatorLoop} (fresh : Fresh loop.agg)
    {events : List AggregatorEvent} {task : AggregatorTask}
    (run : Run (AggregatorStep windowSecs) (.running loop) events task)
    (sent : ∀ event ∈ events, event.Sent) (loop' : AggregatorLoop)
    (stillRunning : task = .running loop') :
    loop'.agg = accumulators loop.agg (windowReadings events) := by
  induction run generalizing loop' with
  | refl =>
    cases stillRunning
    exact (accumulators_nil fresh).symm
  | @snoc t u events event before moved ih =>
    have earlier := ih fun event member => sent event (List.mem_append_left _ member)
    have this := sent event (List.mem_append_right _ List.mem_cons_self)
    rw [windowReadings_snoc]
    obtain ⟨loop'', rfl, ⟨reading, rfl, rfl⟩ | ⟨rfl, rfl⟩ | ⟨handledAt, batches, rfl, _, left⟩⟩ :=
      aggregatorStep_cases moved this
    · cases stillRunning
      simp only [earlier loop'' rfl, record_accumulators]
    · cases stillRunning
    · -- The reset starts the next window from the fresh accumulators.
      rw [left loop' stillRunning, earlier loop'' rfl, reset_accumulators fresh]
      exact (accumulators_nil fresh).symm

/-- Which point each window publishes, over whole runs. A tick sends one point for
each key with readings since the last tick, their mean, in the batch of its own
device, and nothing else; nothing is sent between ticks; a reading of an unknown
point changes nothing; keys and units stay as they were. -/
theorem window_attribution {windowSecs : UInt64} {loop : AggregatorLoop}
    (fresh : Fresh loop.agg) {events : List AggregatorEvent} {task : AggregatorTask}
    (run : Run (AggregatorStep windowSecs) (.running loop) events task)
    (sent : ∀ event ∈ events, event.Sent)
    (few : ∀ before, before <+: events → ∀ pointId,
      (valuesOf pointId (windowReadings before)).length < 2 ^ 32) :
    (∀ before input batches after, events = before ++ (input, batches) :: after →
      match input with
      | .tick .. =>
        (contents batches).Perm (loop.agg.entries.filterMap fun e =>
          windowPoint (windowReadings before) e.1 e.2.unit) ∧
        (batches.map AggregatedBatch.deviceId).Nodup ∧
        ∀ batch ∈ batches, batch.points ≠ []
      | .reading reading =>
        batches = [] ∧ (reading.pointId ∉ loop.agg → ∀ task₁ task₂,
          Run (AggregatorStep windowSecs) (.running loop) before task₁ →
          AggregatorStep windowSecs task₁ (input, batches) task₂ → task₂ = task₁)
      | .inputClosed => batches = []) ∧
    (∀ loop', task = .running loop' →
      loop'.agg.entries.map (fun e => (e.1, e.2.unit)) =
        loop.agg.entries.map fun e => (e.1, e.2.unit)) := by
  constructor
  · rintro before input batches after rfl
    have sentBefore : ∀ event ∈ before, AggregatorEvent.Sent event :=
      fun event member => sent event (List.mem_append_left _ member)
    have sentNow : AggregatorEvent.Sent (input, batches) :=
      sent _ (List.mem_append_right _ List.mem_cons_self)
    obtain ⟨task₁, task₂, first, moved, _⟩ := run.step_at
    obtain ⟨loop₁, rfl, ⟨reading, same, rfl⟩ | ⟨same, rfl⟩ | ⟨handledAt, _, same, flushed, _⟩⟩ :=
      aggregatorStep_cases moved sentNow
    · cases same
      -- The keys of the map are those it began with, so an unknown point has no entry.
      refine ⟨rfl, fun unknown task₁ task₂ toHere recorded => ?_⟩
      obtain ⟨loop₂, rfl, ⟨_, same, rfl⟩ | ⟨same, _⟩ | ⟨_, _, same, _⟩⟩ :=
        aggregatorStep_cases recorded sentNow
      · cases same
        have absent : reading.pointId ∉ loop₂.agg := by
          rw [agg_of_run fresh toHere sentBefore loop₂ rfl]
          simpa [AList.mem_keys, AList.keys, accumulators, List.keys] using unknown
        rw [record, HashMap.modify_of_notMem _ _ _ absent]
      · cases same
      · cases same
    · cases same
      rfl
    · cases same
      have now := agg_of_run fresh first sentBefore loop₁ rfl
      obtain ⟨points, devices, nonempty⟩ := flushes_spec flushed
      refine ⟨points.trans ?_, devices, fun batch member => (nonempty batch member).1⟩
      have fewNow := few before (List.prefix_append _ _)
      simp only [now, accumulators, HashMap.entries_update, List.filterMap_map, Function.comp_def,
        flushedPoint_accumulated _ _ _ (fewNow _)]
      exact List.Perm.refl _
  · intro loop' stillRunning
    rw [agg_of_run fresh run sent loop' stillRunning]
    simp [accumulators, Function.comp_def]

/-- Any readings can make up a window, closed by a tick at the deadline. -/
theorem exists_window_run (windowSecs : UInt64) (loop : AggregatorLoop) {deadline : Instant}
    (next : Instant.add? .latest loop.deadline (.fromSecs windowSecs) = some deadline)
    (readings : List Reading) :
    ∃ batches loop', Run (AggregatorStep windowSecs) (.running loop)
      (readings.map (fun reading => (.reading reading, [])) ++
        [(.tick loop.deadline none, batches)]) (.running loop') := by
  induction readings generalizing loop with
  | nil =>
    have flushed : Flushes loop.agg (loop.windowEndUnix - windowSecs) loop.windowEndUnix
        (flush loop.agg (loop.windowEndUnix - windowSecs) loop.windowEndUnix).2 :=
      ⟨loop.agg, List.Perm.refl _, List.Perm.refl _⟩
    exact ⟨_, _, Run.single (.tick loop loop.deadline deadline _ (le_refl _) flushed next)⟩
  | cons reading readings ih =>
    obtain ⟨batches, loop', rest⟩ := ih { loop with agg := record loop.agg reading } next
    exact ⟨batches, loop', Run.cons (.reading loop reading) rest⟩

theorem window_attribution_voltage :
    ∃ batches loop', Run (AggregatorStep 60)
      (.running ⟨AList.singleton ⟨"meter1", "voltage_l1"⟩ (.new "V"), 60, ⟨5⟩⟩)
      [(.reading ⟨⟨"meter1", "voltage_l1"⟩, .finite 230⟩, []),
        (.reading ⟨⟨"meter1", "voltage_l1"⟩, .finite 232⟩, []),
        (.tick ⟨5⟩ none, batches)] (.running loop') ∧
      (contents batches).Perm [("meter1", ⟨"voltage_l1", "V", .finite 231⟩)] := by
  have fresh : Fresh (AList.singleton ⟨"meter1", "voltage_l1"⟩ (PointAgg.new "V")) := by
    intro e member
    rw [List.mem_singleton.mp member]
    rfl
  have next : Instant.add? .latest ⟨5⟩ (.fromSecs 60) = some ⟨60 * 10 ^ 9 + 5⟩ := by decide
  obtain ⟨batches, loop', run⟩ := exists_window_run 60 ⟨_, 60, ⟨5⟩⟩ next
    [⟨⟨"meter1", "voltage_l1"⟩, .finite 230⟩, ⟨⟨"meter1", "voltage_l1"⟩, .finite 232⟩]
  refine ⟨batches, loop', run, ?_⟩
  have attributed := (window_attribution fresh run (by simp [AggregatorEvent.Sent])
    fun before earlier pointId =>
      (length_valuesOf_window_le earlier pointId).trans_lt (by simp)).1 _ _ _ _ rfl
  refine attributed.1.trans (List.Perm.of_eq ?_)
  decide +kernel

end ModbusGateway
