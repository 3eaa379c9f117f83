import ModbusGateway.Foundation.Simulation
import ModbusGateway.Gateway.Origin
import ModbusGateway.System

/-!
# The two halves of the system

Seen from the readings the system is a `Gateway`: what its aggregator does
batch by batch is one tick, taken when the last batch is in the channel or
refused. Seen from the batches it is a `Publisher`. Both views are simulations,
so what is known of their runs is known of the system's.
-/
namespace ModbusGateway

open Foundation

/-! ### The way of the readings -/

def SystemEvent.gateway? : SystemEvent → Option GatewayEvent
  | .poll connection input actions => some (.poll connection input actions)
  | .respawn connection => some (.respawn connection)
  | .receive delivery => some (.receive delivery)
  | .readingsClosed => some .inputClosed
  | .advance handledAt batches => some (.tick handledAt none batches)
  | .refused handledAt taken => some (.tick handledAt (some taken.length) taken)
  | .pollersStopped => some .shutdown
  | .flush .. | .send _ | .publish .. | .batchesClosed | .publisher .. | .shutdownRequested
  | .publisherExited | .aggregatorExited | .drained | .graceElapsed | .aggregatorAborted
  | .publisherAborted | .publisherGone | .statusWriterDone | .statusFlushElapsed => none

/-- While batches are being sent the abstract task is still before the tick. -/
def AggregatorActivity.Refines (windowSecs : UInt64) :
    AggregatorActivity → AggregatorTask → Prop
  | .selecting loop, task => task = .running loop
  | .sending loop handledAt taken rest, task => ∃ agg,
      task = .running { loop with agg } ∧ loop.deadline.nanos ≤ handledAt.nanos ∧
      Flushes agg (loop.windowEndUnix - windowSecs) loop.windowEndUnix (taken ++ rest) ∧
      loop.agg = (flush agg (loop.windowEndUnix - windowSecs) loop.windowEndUnix).1
  | .returned, task => task = .returned
  | .panicked, task => task = .panicked
  -- An aborted task does nothing more, whatever it was doing.
  | .aborted, _ => True

namespace System

structure Refines (config : Config) (system : System) (gateway : Gateway) : Prop where
  connections : gateway.connections = system.connections
  channel : gateway.channel = system.readings
  stopped : gateway.stopped = system.stopped
  aggregator : system.aggregator.Refines config.gateway.aggregationWindowSecs gateway.aggregator
  -- Aborts come after the pollers are stopped, so no poller meets an aborted aggregator.
  aborts : system.abortRequested = true → system.stopped = true
  aborted : system.aggregator = .aborted → system.abortRequested = true

variable {config : Config} {qos : QoS}

/-- What a poller is told does not depend on the level of detail. -/
theorem Refines.trySend {system : System} {gateway : Gateway}
    (refines : Refines config system gateway) (polling : system.stopped = false) :
    system.trySend = ModbusGateway.trySend gateway.channel gateway.aggregator := by
  have related := refines.aggregator
  rw [refines.channel]
  cases activity : system.aggregator with
  | selecting loop =>
    rw [activity] at related
    simp [System.trySend, activity, AggregatorActivity.Ended, ModbusGateway.trySend,
      show gateway.aggregator = .running loop from related]
  | sending loop =>
    rw [activity] at related
    obtain ⟨agg, task, _⟩ := related
    simp [System.trySend, activity, AggregatorActivity.Ended, ModbusGateway.trySend, task]
  | returned | panicked =>
    rw [activity] at related
    simp only [AggregatorActivity.Refines] at related
    simp [System.trySend, activity, AggregatorActivity.Ended, ModbusGateway.trySend, related]
  | aborted =>
    have stopped := refines.aborts (refines.aborted activity)
    rw [polling] at stopped
    cases stopped

/-- Steps that leave the readings' way alone. -/
theorem Refines.congr {system system' : System} {gateway : Gateway}
    (refines : Refines config system gateway)
    (connections : system'.connections = system.connections)
    (readings : system'.readings = system.readings)
    (stopped : system'.stopped = system.stopped)
    (aggregator : system'.aggregator = system.aggregator)
    (aborts : system'.abortRequested = true → system'.stopped = true)
    (aborted : system.abortRequested = true → system'.abortRequested = true) :
    Refines config system' gateway where
  connections := refines.connections.trans connections.symm
  channel := refines.channel.trans readings.symm
  stopped := refines.stopped.trans stopped.symm
  aggregator := aggregator ▸ refines.aggregator
  aborts := aborts
  aborted := fun now => aborted (refines.aborted (aggregator ▸ now))

/-- Every step of the system is a step of the gateway or leaves it as it is. -/
theorem simulates_gateway :
    Simulation (Step config qos) (GatewayStep config) SystemEvent.gateway? (Refines config) := by
  intro system event system' gateway refines moved
  have related := refines.aggregator
  have told := refines.trySend
  have aborts := refines.aborts
  have aborted := refines.aborted
  obtain ⟨connections, channel, aggregator, halted⟩ := gateway
  obtain rfl : connections = system.connections := refines.connections
  obtain rfl : channel = system.readings := refines.channel
  obtain rfl : halted = system.stopped := refines.stopped
  cases moved with
  | poll before after connection poller poller' input actions polling tasks answered moved =>
    refine ⟨⟨before ++ (connection, poller') :: after, _, aggregator, false⟩, Run.single ?_,
      ⟨rfl, rfl, polling.symm, related, aborts, aborted⟩⟩
    rw [tasks, polling]
    exact .poll before after connection poller poller' input actions _ aggregator
      (fun outcome given => (answered outcome given).trans (told polling)) moved
  | respawn before after connection backoff polling tasks =>
    refine ⟨⟨before ++ (connection, .start connection) :: after, _, aggregator, false⟩,
      Run.single ?_, ⟨rfl, rfl, polling.symm, related, aborts, aborted⟩⟩
    rw [tasks, polling]
    exact .respawn before after connection backoff _ aggregator
  | receive loop delivery readings selecting oldest =>
    rw [selecting] at related
    obtain rfl : aggregator = .running loop := related
    refine ⟨⟨_, readings, .running { loop with agg := record loop.agg delivery.reading }, _⟩,
      Run.single ?_, ⟨rfl, rfl, rfl, rfl, aborts, nofun⟩⟩
    rw [oldest]
    exact .receive _ delivery readings _ _ _ (.reading loop delivery.reading)
  | readingsClosed loop selecting empty closed =>
    rw [selecting] at related
    obtain rfl : aggregator = .running loop := related
    refine ⟨⟨_, system.readings, .returned, _⟩, Run.single ?_,
      ⟨rfl, rfl, rfl, rfl, aborts, nofun⟩⟩
    rw [empty]
    exact .inputClosed _ _ _ _ closed (.inputClosed loop)
  | flush loop handledAt batches selecting due flushed =>
    rw [selecting] at related
    -- Nothing is sent yet, so the abstract tick is still to come.
    exact ⟨_, .refl _, ⟨rfl, rfl, rfl, ⟨loop.agg, related, due, flushed, rfl⟩, aborts, nofun⟩⟩
  | send loop handledAt taken rest batch sending =>
    rw [sending] at related
    obtain ⟨agg, task, due, flushed, reset⟩ := related
    refine ⟨_, .refl _, ⟨rfl, rfl, rfl, ⟨agg, task, due, ?_, reset⟩, aborts, nofun⟩⟩
    rwa [List.append_assoc, List.singleton_append]
  | advance loop handledAt deadline taken sending next =>
    rw [sending] at related
    obtain ⟨agg, rfl, due, flushed, reset⟩ := related
    rw [List.append_nil] at flushed
    refine ⟨_, Run.single (.tick _ _ _ _ _ handledAt none taken
      (.tick _ handledAt deadline taken due flushed next)), ⟨rfl, rfl, rfl, ?_, aborts, nofun⟩⟩
    simp only [AggregatorActivity.Refines, ← reset]
  | overflowed loop handledAt taken sending beyond =>
    rw [sending] at related
    obtain ⟨agg, rfl, due, flushed, _⟩ := related
    rw [List.append_nil] at flushed
    exact ⟨_, Run.single (.tick _ _ _ _ _ handledAt none taken
      (.overflowed _ handledAt taken due flushed beyond)), ⟨rfl, rfl, rfl, rfl, aborts, nofun⟩⟩
  | refused loop handledAt taken rest batch sending =>
    rw [sending] at related
    obtain ⟨agg, rfl, due, flushed, _⟩ := related
    have refusal := AggregatorStep.refused { loop with agg } handledAt _ taken.length due flushed
      (by simp)
    rw [List.take_left] at refusal
    exact ⟨_, Run.single (.tick _ _ _ _ _ handledAt (some taken.length) taken refusal),
      ⟨rfl, rfl, rfl, rfl, aborts, nofun⟩⟩
  | pollersStopped failure stopping =>
    have polling : system.stopped = false := stopped_of_stopping stopping
    rw [polling]
    refine ⟨_, Run.single (.shutdown _ _ aggregator), ?_⟩
    cases failure with
    | none => exact ⟨rfl, rfl, rfl, related, fun _ => rfl, aborted⟩
    | some e => exact ⟨rfl, rfl, rfl, related, fun _ => rfl, fun _ => rfl⟩
  | aggregatorAborted requested running =>
    exact ⟨_, .refl _, ⟨rfl, rfl, rfl, trivial, aborts, fun _ => requested⟩⟩
  | publish | batchesClosed | publisher | publisherAborted =>
    exact ⟨_, .refl _, refines.congr rfl rfl rfl rfl aborts id⟩
  | shutdownRequested selecting | publisherExited selecting | aggregatorExited selecting =>
    have polling : system.stopped = false := stopped_of_selecting selecting
    refine ⟨_, .refl _, refines.congr rfl rfl polling.symm rfl (fun requested => ?_) id⟩
    rw [aborts requested] at polling
    cases polling
  | drained waiting | publisherGone waiting | statusWriterDone waiting
  | statusFlushElapsed waiting =>
    exact ⟨_, .refl _, refines.congr rfl rfl (by simp [stopped, waiting]) rfl (fun _ => rfl) id⟩
  | graceElapsed waiting =>
    exact ⟨_, .refl _, refines.congr rfl rfl (by simp [stopped, waiting]) rfl (fun _ => rfl)
      fun _ => rfl⟩

theorem refines_start {nowUnix : Duration} {startedAt : Instant} {system : System}
    (started : System.start config nowUnix startedAt = some system) :
    ∃ gateway, Gateway.start config nowUnix startedAt = some gateway ∧
      Refines config system gateway := by
  obtain ⟨loop, initial, rfl⟩ := Option.map_eq_some_iff.mp started
  refine ⟨_, congrArg (Option.map _) initial, ⟨rfl, rfl, rfl, rfl, nofun, nofun⟩⟩

/-- The tasks spawned at the start of a minute, with windows of one minute. -/
def startOfMinute (config : Config) : System where
  control := .selecting
  connections := config.connections.map fun connection => (connection, Poller.start connection)
  readings := []
  aggregator := .selecting ⟨initFromConfig config, 60, ⟨60 * 10 ^ 9⟩⟩
  batches := []
  publisher := .start
  publisherAborted := false
  abortRequested := false

theorem start_eq_startOfMinute (minute : config.gateway.aggregationWindowSecs = 60) :
    System.start config ⟨0, by decide⟩ ⟨0⟩ = some (startOfMinute config) := by
  rw [System.start, minute, AggregatorLoop.start_eq_startOfMinute]
  rfl

/-- The batch of the first minute of the shipped bus, with one reading of each point. -/
def sensorBatch : AggregatedBatch where
  deviceId := "tempsensor1"
  windowStart := 0
  windowEnd := 60
  points := [⟨"humidity", "%RH", .finite (456 / 10)⟩, ⟨"temperature", "Cel", .finite 1⟩]

/-- The sensor is read, both its values arrive, and their pack goes out. -/
def sensorBatchEvents : List SystemEvent :=
  let sensor := tempSensor "tempsensor1" 5
  let read : BlockRead := ⟨rs485Bus1, sensor, tempSensorBlock, [10, 456]⟩
  let temperature : Reading := ⟨⟨"tempsensor1", "temperature"⟩, .ofInt 10 * .finite (1 / 10)⟩
  let humidity : Reading := ⟨⟨"tempsensor1", "humidity"⟩, .ofInt 456 * .finite (1 / 10)⟩
  [.poll rs485Bus1 (.connect true) [.report (.connectionUp "rs485-bus1")],
    .poll rs485Bus1 .tick [.setSlave 5, .request sensor tempSensorBlock],
    .poll rs485Bus1 (.response (some (.ok (.ok [10, 456]))))
      [.read sensor tempSensorBlock (.words [10, 456]), .sleep (.fromMillis 10)],
    .poll rs485Bus1 (.trySend .ok) [.offer sensor tempSensorBlock [10, 456] temperature .ok],
    .receive ⟨read, temperature⟩,
    .poll rs485Bus1 (.trySend .ok)
      [.offer sensor tempSensorBlock [10, 456] humidity .ok,
        .report (.deviceOk "rs485-bus1" "tempsensor1"), .setSlave 6,
        .request (tempSensor "tempsensor2" 6) tempSensorBlock],
    .receive ⟨read, humidity⟩,
    .flush ⟨60 * 10 ^ 9⟩ [sensorBatch], .send sensorBatch,
    .advance ⟨60 * 10 ^ 9⟩ [sensorBatch], .publish sensorBatch true,
    .publisher .connAck [.mqttConnected], .publisher .requestSent []]

theorem trySend_ok {system : System} (running : ¬system.aggregator.Ended)
    (room : system.readings.length < readingChannelCapacity) :
    ∀ outcome, PollerInput.trySend .ok = .trySend outcome → outcome = system.trySend := by
  rintro _ ⟨⟩
  simp [trySend, running, room]

theorem flushes_sensorBatch {agg : HashMap PointId PointAgg} {windowStart windowEnd : UInt64}
    (same : agg = record (record (initFromConfig exampleConfig)
        ⟨⟨"tempsensor1", "temperature"⟩, .ofInt 10 * .finite (1 / 10)⟩)
        ⟨⟨"tempsensor1", "humidity"⟩, .ofInt 456 * .finite (1 / 10)⟩)
    (first : windowStart = 0) (last : windowEnd = 60) :
    Flushes agg windowStart windowEnd [sensorBatch] := by
  subst same first last
  exact ⟨_, List.Perm.refl _, List.Perm.of_eq (by decide +kernel)⟩

theorem sensorBatch_run : ∃ system,
    Run (Step exampleConfig .atLeastOnce) (startOfMinute exampleConfig) sensorBatchEvents system ∧
    system.publisher.sent = [Publisher.telemetry exampleConfig.mqtt exampleConfig.gateway
      .atLeastOnce sensorBatch] := by
  refine ⟨_,
    .cons (.poll _ [(meterTcp1, Poller.start meterTcp1)] [] rs485Bus1 _ _ (.connect true) _ rfl rfl
        (by simp) rfl)
      (.cons (.poll _ [_] [] _ _ _ .tick _ rfl rfl (by simp) rfl)
      (.cons (.poll _ [_] [] _ _ _ (.response (some (.ok (.ok [10, 456])))) _ rfl rfl (by simp)
        rfl)
      (.cons (.poll _ [_] [] _ _ _ (.trySend .ok) _ rfl rfl (trySend_ok id (by decide)) rfl)
      (.cons (.receive _ _ _ [] rfl rfl)
      (.cons (.poll _ [_] [] _ _ _ (.trySend .ok) _ rfl rfl (trySend_ok id (by decide)) rfl)
      (.cons (.receive _ _ _ [] rfl rfl)
      (.cons (.flush _ _ _ _ rfl (le_refl _) (flushes_sensorBatch rfl (by decide) rfl))
      (.cons (.send _ _ _ _ _ _ rfl (by decide) (by decide))
      (.cons (.advance _ _ _ _ _ rfl secondMinute)
      (.cons (.publish _ _ _ _ rfl rfl rfl)
      (.cons (.publisher _ .connAck _ _ rfl trivial rfl)
      (.single (.publisher _ .requestSent _ _ rfl trivial rfl))))))))))))), rfl⟩

end System

/-! ### The way of the batches -/

def SystemEvent.publisher? : SystemEvent → Option (PublisherEvent × List StatusEvent)
  | .publish batch _ => some (.batch batch, [])
  | .batchesClosed => some (.inputClosed, [])
  | .publisher event reports => some (event, reports)
  | .poll .. | .respawn _ | .receive _ | .readingsClosed | .flush .. | .send _ | .advance ..
  | .refused .. | .shutdownRequested | .publisherExited | .aggregatorExited | .pollersStopped
  | .drained | .graceElapsed | .aggregatorAborted | .publisherAborted | .publisherGone
  | .statusWriterDone | .statusFlushElapsed => none

namespace System

variable {config : Config} {qos : QoS}

theorem simulates_publisher :
    Simulation (Step config qos) (Publisher.Step config.mqtt config.gateway qos)
      SystemEvent.publisher? (fun system publisher => publisher = system.publisher) := by
  rintro system event system' publisher rfl moved
  cases moved with
  | publish batch batches publisher' running oldest moved => exact ⟨_, Run.single moved, rfl⟩
  | batchesClosed publisher' running empty closed moved => exact ⟨_, Run.single moved, rfl⟩
  | publisher event reports publisher' running own moved => exact ⟨_, Run.single moved, rfl⟩
  | pollersStopped failure => cases failure <;> exact ⟨_, .refl _, rfl⟩
  | _ => exact ⟨_, .refl _, rfl⟩

/-- Every run of the system is a run of the gateway, with each flush as one tick, and one of the
publisher. -/
theorem refines_halves {nowUnix : Duration} {startedAt : Instant} {system₀ system : System}
    {events : List SystemEvent} (started : System.start config nowUnix startedAt = some system₀)
    (run : Run (Step config qos) system₀ events system) :
    (∃ gateway₀ gateway, Gateway.start config nowUnix startedAt = some gateway₀ ∧
      Run (GatewayStep config) gateway₀ (events.filterMap SystemEvent.gateway?) gateway ∧
      Refines config system gateway) ∧
    Run (Publisher.Step config.mqtt config.gateway qos) .start
      (events.filterMap SystemEvent.publisher?) system.publisher := by
  constructor
  · obtain ⟨gateway₀, initial, refines⟩ := refines_start started
    obtain ⟨gateway, projected, refines'⟩ := simulates_gateway.run refines run
    exact ⟨gateway₀, gateway, initial, projected, refines'⟩
  · obtain ⟨loop, _, rfl⟩ := Option.map_eq_some_iff.mp started
    obtain ⟨publisher, projected, rfl⟩ := simulates_publisher.run rfl run
    exact projected

/-- A flush is one tick of the gateway, and one batch of the publisher. -/
theorem refines_halves_sensorBatch :
    (∃ gateway, Run (GatewayStep exampleConfig) (.startOfMinute exampleConfig)
      (tempSensorEvents ++ [.tick ⟨60 * 10 ^ 9⟩ none [sensorBatch]]) gateway) ∧
    ∃ publisher, Run (Publisher.Step exampleConfig.mqtt exampleConfig.gateway .atLeastOnce) .start
      [(.batch sensorBatch, []), (.connAck, [.mqttConnected]), (.requestSent, [])] publisher := by
  obtain ⟨system, run, _⟩ := sensorBatch_run
  obtain ⟨⟨gateway₀, gateway, started, projected, _⟩, publishes⟩ :=
    refines_halves (start_eq_startOfMinute rfl) run
  obtain rfl := Option.some.inj ((ModbusGateway.start_eq_startOfMinute rfl).symm.trans started)
  exact ⟨⟨gateway, projected⟩, _, publishes⟩

end System

end ModbusGateway
