import ModbusGateway.System.Batches

/-!
# What goes to the broker

Read backwards: each pack that the client is handed is that of a flushed batch,
the packs of one device come with rising windows, and every value in them is the
mean of readings that block reads of the same window gave for that point.
-/
namespace ModbusGateway

open Foundation

/-- Label and deadline keep to the schedule while batches are being sent. -/
def AggregatorActivity.OnSchedule (windowSecs : UInt64) (start : AggregatorLoop) (flushes : Nat) :
    AggregatorActivity → Prop
  | .selecting loop => ModbusGateway.OnSchedule windowSecs start loop flushes
  | .sending loop _ _ _ => ∃ before, flushes = before + 1 ∧
      ModbusGateway.OnSchedule windowSecs start loop before
  | .returned | .panicked | .aborted => True

namespace System

variable {config : Config} {qos : QoS}

theorem flushes_snoc (events : List SystemEvent) (event : SystemEvent) :
    flushes (events ++ [event]) = flushes events + if event.isFlush then 1 else 0 := by
  simp [flushes, List.countP_append, List.countP_singleton]

theorem Ledger.queued_sublist_flushed {events : List SystemEvent} {system : System}
    (ledger : Ledger config qos events system) :
    (events.flatMap SystemEvent.queued).Sublist (events.flatMap SystemEvent.flushed) := by
  obtain ⟨lost, balance, _⟩ := ledger.flushed
  refine (queued_sublist_taken events).trans ?_
  rw [balance, List.append_assoc, List.append_assoc]
  exact List.sublist_append_left _ _

/-- What is written is a first part of what was queued. -/
theorem Ledger.written {events : List SystemEvent} {system : System}
    (ledger : Ledger config qos events system) :
    packs system.publisher.sent <+: (events.flatMap SystemEvent.queued).map
      (Publisher.telemetry config.mqtt config.gateway qos) := by
  rw [← ledger.line, Publisher.line, packs_append]
  exact List.prefix_append _ _

/-- The packs on the wire are those of some of the flushed batches, in their order. -/
theorem Ledger.exists_wire {events : List SystemEvent} {system : System}
    (ledger : Ledger config qos events system) :
    ∃ wire : List AggregatedBatch, wire.Sublist (events.flatMap SystemEvent.flushed) ∧
      packs system.publisher.sent =
        wire.map (Publisher.telemetry config.mqtt config.gateway qos) := by
  obtain ⟨rest, line⟩ := ledger.written
  obtain ⟨wire, rest', queued, sent, _⟩ := List.append_eq_map_iff.mp line
  have written : wire.Sublist (events.flatMap SystemEvent.queued) :=
    queued ▸ List.sublist_append_left wire rest'
  exact ⟨wire, written.trans ledger.queued_sublist_flushed, sent.symm⟩

/-! ### The windows of a device -/

/-- Every batch so far has a window before the next one, and each device its windows in order. -/
structure WindowsInOrder (windowSecs : UInt64) (start : AggregatorLoop) (flushes : Nat)
    (batches : List AggregatedBatch) : Prop where
  past : ∀ batch ∈ batches, batch.windowStart.toNat + 2 * windowSecs.toNat ≤
    start.windowEndUnix.toNat + flushes * windowSecs.toNat
  rising : batches.Pairwise fun earlier later =>
    earlier.deviceId = later.deviceId → earlier.windowStart < later.windowStart

/-- One flush on schedule. -/
theorem WindowsInOrder.flush {windowSecs : UInt64} {start loop : AggregatorLoop} {flushes : Nat}
    {earlier batches : List AggregatedBatch}
    (order : WindowsInOrder windowSecs start flushes earlier)
    (positive : 0 < windowSecs.toNat) (window_le : windowSecs.toNat ≤ start.windowEndUnix.toNat)
    (inRange : start.windowEndUnix.toNat + flushes * windowSecs.toNat < 2 ^ 64)
    (scheduled : ModbusGateway.OnSchedule windowSecs start loop flushes)
    (flushed : Flushes loop.agg (loop.windowEndUnix - windowSecs) loop.windowEndUnix batches) :
    WindowsInOrder windowSecs start (flushes + 1) (earlier ++ batches) := by
  have labels := (scheduled.window window_le inRange flushed).2
  -- Within one flush no device has two batches.
  have devices := List.pairwise_map.mp (flushes_spec flushed).2.1
  constructor
  · intro batch member
    rw [Nat.add_mul, Nat.one_mul]
    rcases List.mem_append.mp member with old | new
    · have := order.past batch old
      omega
    · have := (labels batch new).1
      omega
  · rw [List.pairwise_append]
    refine ⟨order.rising, devices.imp fun apart same => absurd same apart, ?_⟩
    intro old oldMember new newMember _
    have before := order.past old oldMember
    have after := (labels new newMember).1
    exact UInt64.lt_iff_toNat_lt.mpr (by omega)

theorem onSchedule_step {system system' : System} {events : List SystemEvent} {event : SystemEvent}
    {start : AggregatorLoop} (moved : Step config qos system event system')
    (scheduled : system.aggregator.OnSchedule config.gateway.aggregationWindowSecs start
      (flushes events)) :
    system'.aggregator.OnSchedule config.gateway.aggregationWindowSecs start
      (flushes (events ++ [event])) := by
  rw [flushes_snoc]
  cases moved with
  | receive loop delivery readings selecting =>
    rw [selecting] at scheduled
    exact ⟨scheduled.label, scheduled.deadline⟩
  | flush loop handledAt batches selecting =>
    rw [selecting] at scheduled
    exact ⟨_, rfl, scheduled.label, scheduled.deadline⟩
  | send loop handledAt taken rest batch sending =>
    rw [sending] at scheduled
    exact scheduled
  | advance loop handledAt deadline taken sending next =>
    rw [sending] at scheduled
    obtain ⟨before, count, earlier⟩ := scheduled
    change ModbusGateway.OnSchedule _ _ _ _
    rw [count]
    exact earlier.flush loop.agg next
  | readingsClosed | overflowed | refused | aggregatorAborted => exact trivial
  | pollersStopped failure => cases failure <;> exact scheduled
  | _ => exact scheduled

/-- A run that flushes within the range of the labels keeps every device's windows in order. -/
theorem windowsInOrder_of_run {system₀ system : System} {events : List SystemEvent}
    {start : AggregatorLoop} (spawned : system₀.aggregator = .selecting start)
    (run : Run (Step config qos) system₀ events system)
    (positive : 0 < config.gateway.aggregationWindowSecs.toNat)
    (window_le : config.gateway.aggregationWindowSecs.toNat ≤ start.windowEndUnix.toNat)
    (inRange : start.windowEndUnix.toNat +
      flushes events * config.gateway.aggregationWindowSecs.toNat < 2 ^ 64) :
    system.aggregator.OnSchedule config.gateway.aggregationWindowSecs start (flushes events) ∧
    WindowsInOrder config.gateway.aggregationWindowSecs start (flushes events)
      (events.flatMap SystemEvent.flushed) := by
  induction run with
  | refl =>
    rw [spawned]
    exact ⟨⟨by simp [flushes], by simp [flushes]⟩, ⟨by simp, List.Pairwise.nil⟩⟩
  | @snoc before after events event _ moved ih =>
    have count := flushes_snoc events event
    have earlier : start.windowEndUnix.toNat +
        flushes events * config.gateway.aggregationWindowSecs.toNat < 2 ^ 64 := by
      rw [count, Nat.add_mul] at inRange
      omega
    obtain ⟨scheduled, order⟩ := ih earlier
    refine ⟨onSchedule_step moved scheduled, ?_⟩
    rw [flatMap_snoc]
    by_cases isFlush : event.isFlush
    · cases moved with
      | flush loop handledAt batches selecting due flushed =>
        rw [selecting] at scheduled
        rw [count]
        exact order.flush positive window_le earlier scheduled flushed
      | _ => cases isFlush
    · have none : event.flushed = [] := by
        cases event with
        | flush => exact absurd rfl isFlush
        | _ => rfl
      rw [count, none, if_neg isFlush, List.append_nil]
      exact order

theorem start_eq_some {nowUnix : Duration} {startedAt : Instant} {system : System}
    (started : System.start config nowUnix startedAt = some system) :
    ∃ wait boundary deadline,
      nextBoundary nowUnix (.fromSecs config.gateway.aggregationWindowSecs) =
        some (wait, boundary) ∧
      0 < config.gateway.aggregationWindowSecs ∧
      system.aggregator = .selecting ⟨initFromConfig config, boundary, deadline⟩ := by
  obtain ⟨loop, initial, rfl⟩ := Option.map_eq_some_iff.mp started
  obtain ⟨wait, boundary, deadline, found, _, rfl⟩ :=
    AggregatorLoop.start_eq_some_iff.mp initial
  refine ⟨wait, boundary, deadline, found, UInt64.pos_iff_ne_zero.mpr fun zero => ?_, rfl⟩
  simp [nextBoundary, zero] at found

/-- The packs that enter the request queue are those of some of the flushed batches, each once
and in their order; those of one device have rising base times, as long as the times are in
range. If no connection failed, the wire has a first part of them. -/
theorem queued_in_order {nowUnix : Duration} (below : nowUnix.nanos < 2 ^ 63 * 10 ^ 9)
    {startedAt : Instant} {system₀ system : System} {events : List SystemEvent}
    (started : System.start config nowUnix startedAt = some system₀)
    (run : Run (Step config qos) system₀ events system)
    (inRange : nowUnix.nanos / 10 ^ 9 +
      (flushes events + 1) * config.gateway.aggregationWindowSecs.toNat < 2 ^ 64) :
    (events.flatMap SystemEvent.queued).Sublist (events.flatMap SystemEvent.flushed) ∧
    (events.flatMap SystemEvent.queued).Pairwise (fun earlier later =>
      earlier.deviceId = later.deviceId → earlier.windowStart < later.windowStart) ∧
    (NoConnectionError events → packs system.publisher.sent <+:
      (events.flatMap SystemEvent.queued).map
        (Publisher.telemetry config.mqtt config.gateway qos)) := by
  obtain ⟨wait, boundary, _, found, positive, spawned⟩ := start_eq_some started
  obtain ⟨wait', boundary', found', aligned⟩ := nextBoundary_aligned nowUnix below _ positive
  obtain ⟨rfl, rfl⟩ := Prod.mk.inj (Option.some.inj (found.symm.trans found'))
  have ledger := ledger_of_run started run
  -- The first boundary lies within one window of the start.
  have first := aligned.start_le
  have windows : boundary.toNat + flushes events * config.gateway.aggregationWindowSecs.toNat
      < 2 ^ 64 := by
    rw [Nat.add_mul, Nat.one_mul] at inRange
    omega
  have order := (windowsInOrder_of_run spawned run (UInt64.lt_iff_toNat_lt.mp positive)
    aligned.window_le windows).2
  exact ⟨ledger.queued_sublist_flushed, order.rising.sublist ledger.queued_sublist_flushed,
    fun _ => ledger.written⟩

theorem queued_in_order_sensorBatch : ∃ system,
    Run (Step exampleConfig .atLeastOnce) (startOfMinute exampleConfig) sensorBatchEvents system ∧
    (sensorBatchEvents.flatMap SystemEvent.queued).Sublist [sensorBatch] ∧
    packs system.publisher.sent <+:
      [Publisher.telemetry exampleConfig.mqtt exampleConfig.gateway .atLeastOnce sensorBatch] := by
  obtain ⟨system, run, _⟩ := sensorBatch_run
  obtain ⟨part, _, written⟩ := queued_in_order (by decide) (start_eq_startOfMinute rfl) run
    (by decide)
  exact ⟨system, run, part, written (by simp [NoConnectionError, sensorBatchEvents])⟩

/-! ### What a pack says -/

/-- The gateway at a flush of the system is about to tick. -/
theorem exists_gateway_of_flush {nowUnix : Duration} {startedAt : Instant}
    {system₀ system system' : System} {events : List SystemEvent} {handledAt : Instant}
    {batches : List AggregatedBatch}
    (started : System.start config nowUnix startedAt = some system₀)
    (run : Run (Step config qos) system₀ events system)
    (moved : Step config qos system (.flush handledAt batches) system') :
    ∃ gateway₀ gateway gateway', Gateway.start config nowUnix startedAt = some gateway₀ ∧
      Run (GatewayStep config) gateway₀ (events.filterMap SystemEvent.gateway?) gateway ∧
      GatewayStep config gateway (.tick handledAt none batches) gateway' := by
  obtain ⟨gateway₀, initial, refines₀⟩ := refines_start started
  obtain ⟨gateway, projected, refines⟩ := simulates_gateway.run refines₀ run
  cases moved with
  | flush loop _ _ selecting due flushed =>
    have related := refines.aggregator
    rw [selecting] at related
    obtain ⟨connections, channel, aggregator, stopped⟩ := gateway
    obtain rfl : aggregator = .running loop := related
    obtain ⟨task, ticked⟩ : ∃ task, AggregatorStep config.gateway.aggregationWindowSecs
        (.running loop) (.tick handledAt none, batches) task := by
      cases next : Instant.add? .latest loop.deadline
        (.fromSecs config.gateway.aggregationWindowSecs) with
      | some deadline => exact ⟨_, .tick loop handledAt deadline batches due flushed next⟩
      | none => exact ⟨_, .overflowed loop handledAt batches due flushed next⟩
    exact ⟨gateway₀, _, _, initial, projected,
      .tick connections channel _ _ stopped handledAt none batches ticked⟩

/-- A run has at least as many events as any of its windows has readings. -/
theorem length_valuesOf_deliveries_le (pointId : PointId) (events : List SystemEvent) :
    (valuesOf pointId ((windowDeliveries (events.filterMap SystemEvent.gateway?)).map
      Delivery.reading)).length ≤ events.length := by
  rw [← windowReadings_aggregatorEvents]
  calc (valuesOf pointId (windowReadings
        (aggregatorEvents (events.filterMap SystemEvent.gateway?)))).length
      ≤ (aggregatorEvents (events.filterMap SystemEvent.gateway?)).length :=
        (List.length_filterMap_le _ _).trans (length_windowReadings_le _)
    _ ≤ (events.filterMap SystemEvent.gateway?).length := List.length_filterMap_le _ _
    _ ≤ events.length := List.length_filterMap_le _ _

/-- Every value a pack on the wire carries goes back to the registers. The pack is that of a
batch of some flush, and each of its points is the mean of the readings that came in for it
since the flush before; each of these is the value of a configured point in the reply to a
read of its block, made earlier in the run. -/
theorem wire_measured {nowUnix : Duration} {startedAt : Instant} {system₀ system : System}
    {events : List SystemEvent} (started : System.start config nowUnix startedAt = some system₀)
    (run : Run (Step config qos) system₀ events system) (few : events.length < 2 ^ 32)
    {pack : Request} (sent : pack ∈ packs system.publisher.sent) :
    ∃ before handledAt batches after batch,
      events = before ++ .flush handledAt batches :: after ∧ batch ∈ batches ∧
      pack = Publisher.telemetry config.mqtt config.gateway qos batch ∧
      ∀ point ∈ batch.points, ∃ pointId unit,
        windowPoint ((windowDeliveries (before.filterMap SystemEvent.gateway?)).map
          Delivery.reading) pointId unit = some (batch.deviceId, point) ∧
        ∀ delivery ∈ windowDeliveries (before.filterMap SystemEvent.gateway?),
          delivery.reading.pointId = pointId →
          delivery.toBlockRead ∈
            (before.filterMap SystemEvent.gateway?).flatMap GatewayEvent.blockReads ∧
          ∃ configured ∈ configuredPoints config, configured.Measures delivery := by
  obtain ⟨wire, part, written⟩ := (ledger_of_run started run).exists_wire
  rw [written] at sent
  obtain ⟨batch, onWire, rfl⟩ := List.mem_map.mp sent
  obtain ⟨event, happened, inFlush⟩ := List.mem_flatMap.mp (part.subset onWire)
  obtain ⟨before, after, rfl⟩ := List.append_of_mem happened
  cases event with
  | flush handledAt batches =>
    refine ⟨before, handledAt, batches, after, batch, rfl, inFlush, rfl, fun point member => ?_⟩
    obtain ⟨reached, reached', first, moved, _⟩ := run.step_at
    obtain ⟨gateway₀, gateway, gateway', initial, projected, ticked⟩ :=
      exists_gateway_of_flush started first moved
    -- From the flush to the accumulators, and from these to the readings of the window.
    have published : (batch.deviceId, point) ∈ contents batches :=
      List.mem_flatMap.mpr ⟨batch, inFlush, List.mem_map.mpr ⟨point, member, rfl⟩⟩
    have origin := (tick_contents initial projected ticked).subset published
    obtain ⟨entry, _, found⟩ := List.mem_filterMap.mp origin
    have small : (valuesOf entry.1 ((windowDeliveries
        (before.filterMap SystemEvent.gateway?)).map Delivery.reading)).length < 2 ^ 32 :=
      (length_valuesOf_deliveries_le entry.1 before).trans_lt
        (lt_of_le_of_lt (by simp) few)
    rw [flushedPoint_accumulated _ _ _ small] at found
    refine ⟨entry.1, entry.2.unit, found, fun delivery received _ => ?_⟩
    exact received_measured initial projected (windowDeliveries_subset _ received)
  | _ => cases inFlush

theorem wire_measured_sensorBatch : ∃ (before : List SystemEvent) (batch : AggregatedBatch),
    Publisher.telemetry exampleConfig.mqtt exampleConfig.gateway .atLeastOnce sensorBatch =
      Publisher.telemetry exampleConfig.mqtt exampleConfig.gateway .atLeastOnce batch ∧
    ∀ point ∈ batch.points, ∃ pointId unit,
      windowPoint ((windowDeliveries (before.filterMap SystemEvent.gateway?)).map
        Delivery.reading) pointId unit = some (batch.deviceId, point) := by
  obtain ⟨system, run, sent⟩ := sensorBatch_run
  obtain ⟨before, _, _, _, batch, _, _, same, origins⟩ :=
    wire_measured (start_eq_startOfMinute rfl) run (by decide)
      (show Publisher.telemetry exampleConfig.mqtt exampleConfig.gateway .atLeastOnce sensorBatch ∈
        packs system.publisher.sent by rw [sent]; exact List.mem_singleton_self _)
  refine ⟨before, batch, same, fun point member => ?_⟩
  obtain ⟨pointId, unit, mean, _⟩ := origins point member
  exact ⟨pointId, unit, mean⟩

end System

end ModbusGateway
