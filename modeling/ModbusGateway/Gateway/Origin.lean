import ModbusGateway.Gateway.Delivery

/-!
# What a published mean was computed from

Every delivery is the value of a configured point in a reply to that point's
block. Where names tell the configured points apart, each has an accumulator
of its own, and what a window publishes for a point comes from that point's
deliveries alone.
-/
namespace ModbusGateway

open Foundation

/-- The delivery is this point's value in a reply to its block. -/
structure ConfiguredPoint.Measures (configured : ConfiguredPoint) (delivery : Delivery) :
    Prop where
  connection : delivery.connection = configured.connection
  device : delivery.device = configured.device
  block : delivery.block = configured.block
  value : decodePoint configured.block.wordOrder delivery.words configured.point =
    some (configured.point.name, delivery.reading.value)
  pointId : delivery.reading.pointId = configured.pointId

/-- The block read is one of the configuration. -/
structure BlockRead.Within (config : Config) (read : BlockRead) : Prop where
  connection : read.connection ∈ config.connections
  device : read.device ∈ read.connection.devices
  block : read.block ∈ read.device.blocks

def Gateway.Within (config : Config) (gateway : Gateway) : Prop :=
  ∀ task ∈ gateway.connections, task.1 ∈ config.connections ∧ task.2.phase.Within task.1

variable {config : Config}

theorem decodePoint_name {wordOrder : WordOrder} {words : List UInt16} {p : PointConfig}
    {value : String × F64} (decoded : decodePoint wordOrder words p = some value) :
    value.1 = p.name := by
  simp only [decodePoint, Option.bind_eq_bind, Option.bind_eq_some_iff, pure,
    Option.some.injEq] at decoded
  obtain ⟨raw, _, rfl⟩ := decoded
  rfl

/-- A decoded value is that of one of the block's points. -/
theorem mem_decode {block : BlockConfig} {words : List UInt16} {values : List (String × F64)}
    {value : String × F64} (decoded : decode block words = some values)
    (member : value ∈ values) :
    ∃ p ∈ block.points, decodePoint block.wordOrder words p = some value := by
  rw [decode, mapM_eq_some_iff] at decoded
  have entry : some value ∈ block.points.map (decodePoint block.wordOrder words) :=
    decoded ▸ List.mem_map_of_mem member
  obtain ⟨p, listed, found⟩ := List.mem_map.mp entry
  exact ⟨p, listed, found⟩

theorem exists_measures {read : BlockRead} (within : read.Within config) {delivery : Delivery}
    (member : delivery ∈ read.deliveries) :
    delivery.toBlockRead = read ∧
      ∃ configured ∈ configuredPoints config, configured.Measures delivery := by
  obtain ⟨value, decoded, rfl⟩ := List.mem_map.mp member
  refine ⟨rfl, ?_⟩
  cases found : decode read.block read.words with
  | none => simp [found] at decoded
  | some values =>
    rw [found, Option.getD_some] at decoded
    obtain ⟨p, listed, same⟩ := mem_decode found decoded
    have name := decodePoint_name same
    refine ⟨⟨read.connection, read.device, read.block, p⟩,
      mem_configuredPoints.mpr ⟨within.connection, within.device, within.block, listed⟩,
      ⟨rfl, rfl, rfl, by rw [← name]; exact same, by simp [ConfiguredPoint.pointId, name]⟩⟩

/-! ### The pollers keep to their configuration -/

theorem within_start {nowUnix : Duration} {startedAt : Instant} {gateway : Gateway}
    (started : Gateway.start config nowUnix startedAt = some gateway) :
    gateway.Within config := by
  obtain ⟨loop, _, rfl⟩ := Option.map_eq_some_iff.mp started
  intro task member
  obtain ⟨connection, connected, rfl⟩ := List.mem_map.mp member
  exact ⟨connected, trivial⟩

theorem within_split {before after : List (ConnectionConfig × Poller)}
    {task : ConnectionConfig × Poller} {channel : List Delivery} {aggregator : AggregatorTask}
    (within : Gateway.Within config ⟨before ++ task :: after, channel, aggregator, false⟩)
    {connection : ConnectionConfig} {poller : Poller}
    (moved : connection ∈ config.connections ∧ poller.phase.Within connection)
    (channel' : List Delivery) :
    Gateway.Within config
      ⟨before ++ (connection, poller) :: after, channel', aggregator, false⟩ := by
  intro other member
  rcases List.mem_append.mp member with earlier | later
  · exact within other (List.mem_append_left _ earlier)
  · rcases List.mem_cons.mp later with rfl | later
    · exact moved
    · exact within other (List.mem_append_right _ (List.mem_cons_of_mem _ later))

theorem GatewayStep.within {gateway gateway' : Gateway} {event : GatewayEvent}
    (moved : GatewayStep config gateway event gateway') (before : gateway.Within config) :
    gateway'.Within config ∧ ∀ read ∈ event.blockReads, read.Within config := by
  cases moved with
  | poll earlier later connection poller poller' input actions channel aggregator answered
      moved =>
    have own := before (connection, poller) (List.mem_append_right _ List.mem_cons_self)
    have moves := Poller.moves_of_next moved
    refine ⟨within_split before ⟨own.1, moves.within own.2⟩ _, ?_⟩
    intro read member
    obtain ⟨action, did, found⟩ := List.mem_filterMap.mp member
    -- Only a read of words counts, and reads are of the block under the cursor.
    cases action <;> try cases found
    next device block result =>
      cases result <;> try cases found
      obtain ⟨cursor, response, phase, _, rfl, rfl, _⟩ := moves.result_of_read did
      have inside := own.2
      rw [phase] at inside
      exact ⟨own.1, inside.device, inside.block⟩
  | respawn earlier later connection =>
    have own := before _ (List.mem_append_right _ List.mem_cons_self)
    have restarted : (Poller.start connection).phase.Within connection := trivial
    exact ⟨within_split before ⟨own.1, restarted⟩ _, by simp [GatewayEvent.blockReads]⟩
  | shutdown | receive | inputClosed | tick =>
    exact ⟨before, by simp [GatewayEvent.blockReads]⟩

theorem blockReads_within {nowUnix : Duration} {startedAt : Instant}
    {gateway₀ gateway : Gateway} {events : List GatewayEvent}
    (started : Gateway.start config nowUnix startedAt = some gateway₀)
    (run : Run (GatewayStep config) gateway₀ events gateway) :
    ∀ read ∈ events.flatMap GatewayEvent.blockReads, read.Within config := by
  have both : gateway.Within config ∧
      ∀ read ∈ events.flatMap GatewayEvent.blockReads, read.Within config := by
    refine run.history (fun events gateway => gateway.Within config ∧
      ∀ read ∈ events.flatMap GatewayEvent.blockReads, read.Within config)
      ⟨within_start started, by simp⟩ ?_
    rintro events gateway event gateway' ⟨within, earlier⟩ moved
    have now := moved.within within
    refine ⟨now.1, fun read member => ?_⟩
    rw [List.flatMap_append, List.flatMap_singleton, List.mem_append] at member
    exact member.elim (earlier read) (now.2 read)
  exact both.2

/-- What is received was decoded from a read made before, as a configured point's value. -/
theorem received_measured {nowUnix : Duration} {startedAt : Instant}
    {gateway₀ gateway : Gateway} {events : List GatewayEvent}
    (started : Gateway.start config nowUnix startedAt = some gateway₀)
    (run : Run (GatewayStep config) gateway₀ events gateway) {delivery : Delivery}
    (received : delivery ∈ events.flatMap GatewayEvent.received) :
    delivery.toBlockRead ∈ events.flatMap GatewayEvent.blockReads ∧
      ∃ configured ∈ configuredPoints config, configured.Measures delivery := by
  obtain ⟨lost, conserved, _⟩ := conservation run
  have nothing : gateway₀.inTransit = [] := by
    obtain ⟨loop, _, rfl⟩ := Option.map_eq_some_iff.mp started
    simp [Gateway.inTransit, Poller.start, PollerPhase.pending, List.flatMap_map]
  -- Nothing was in transit at the start: what is received was decoded in the run.
  have origin := conserved.subset
    (List.mem_append_left _ (List.mem_append_left _ received))
  rw [nothing, List.nil_append, List.mem_flatMap] at origin
  obtain ⟨read, member, decoded⟩ := origin
  obtain ⟨rfl, measured⟩ := exists_measures (blockReads_within started run read member) decoded
  exact ⟨member, measured⟩

theorem windowDeliveries_subset (events : List GatewayEvent) :
    windowDeliveries events ⊆ events.flatMap GatewayEvent.received := by
  induction events using List.reverseRecOn with
  | nil => simp [windowDeliveries]
  | append_singleton events event ih =>
    rw [windowDeliveries_snoc, List.flatMap_append, List.flatMap_singleton]
    cases event with
    | tick => simp
    | receive delivery =>
      exact List.append_subset.mpr ⟨List.Subset.trans ih (List.subset_append_left _ _),
        List.subset_append_right _ _⟩
    | poll | respawn | shutdown | inputClosed => simpa [GatewayEvent.received] using ih

/-! ### One accumulator, one point -/

/-- The deliveries of a window that are filed under a point's names. -/
def ConfiguredPoint.deliveriesIn (configured : ConfiguredPoint) (events : List GatewayEvent) :
    List Delivery :=
  (windowDeliveries events).filter fun delivery => delivery.reading.pointId = configured.pointId

theorem valuesOf_deliveries (pointId : PointId) (delivered : List Delivery) :
    valuesOf pointId (delivered.map Delivery.reading) =
      (delivered.filter fun delivery => delivery.reading.pointId = pointId).map
        fun delivery => delivery.reading.value := by
  induction delivered with
  | nil => rfl
  | cons delivery delivered ih =>
    by_cases own : delivery.reading.pointId = pointId <;>
      simp_all [valuesOf]

/-- Where no two configured points share their names, each has one accumulator, with
its own unit, and a window publishes for it what its own deliveries add up to:
every one of them its value in a reply to its own block. Names unique as the
configuration's comments ask are enough for that. -/
theorem accumulators_of_distinct_points (config : Config) :
    (config.NamesUnique → ((configuredPoints config).map ConfiguredPoint.pointId).Nodup) ∧
    ((initFromConfig config).entries.length = (configuredPoints config).length ↔
      ((configuredPoints config).map ConfiguredPoint.pointId).Nodup) ∧
    (((configuredPoints config).map ConfiguredPoint.pointId).Nodup →
      (initFromConfig config).entries.Perm ((configuredPoints config).map fun configured =>
        ⟨configured.pointId, .new configured.point.unit⟩) ∧
      ∀ nowUnix startedAt gateway₀ events gateway handledAt batches gateway',
        Gateway.start config nowUnix startedAt = some gateway₀ →
        Run (GatewayStep config) gateway₀ events gateway →
        GatewayStep config gateway (.tick handledAt none batches) gateway' →
        (contents batches).Perm ((configuredPoints config).filterMap fun configured =>
          flushedPoint configured.pointId (.accumulated configured.point.unit
            ((configured.deliveriesIn events).map fun delivery => delivery.reading.value))) ∧
        ∀ configured ∈ configuredPoints config, ∀ delivery ∈ configured.deliveriesIn events,
          configured.Measures delivery ∧
            delivery.toBlockRead ∈ events.flatMap GatewayEvent.blockReads) := by
  refine ⟨Config.NamesUnique.pointIds_nodup, length_initFromConfig_iff config, ?_⟩
  intro different
  refine ⟨initFromConfig_perm different, ?_⟩
  intro nowUnix startedAt gateway₀ events gateway handledAt batches gateway' started run ticked
  constructor
  · refine (tick_contents started run ticked).trans ?_
    refine ((initFromConfig_perm different).filterMap _).trans (List.Perm.of_eq ?_)
    simp only [List.filterMap_map, Function.comp_def, valuesOf_deliveries,
      ConfiguredPoint.deliveriesIn, PointAgg.new]
  · intro configured listed delivery member
    obtain ⟨received, named⟩ := List.mem_filter.mp member
    obtain ⟨read, other, listed', measured⟩ :=
      received_measured started run (windowDeliveries_subset events received)
    -- Its names lead back to one configured point only.
    have same : other = configured :=
      List.inj_on_of_nodup_map different listed' listed
        (measured.pointId.symm.trans (of_decide_eq_true named))
    exact ⟨same ▸ measured, read⟩

/-- The tasks spawned at the start of a minute, with windows of one minute. -/
def Gateway.startOfMinute (config : Config) : Gateway where
  connections := config.connections.map fun connection => (connection, Poller.start connection)
  channel := []
  aggregator := .running ⟨initFromConfig config, 60, ⟨60 * 10 ^ 9⟩⟩
  stopped := false

theorem AggregatorLoop.start_eq_startOfMinute (agg : HashMap PointId PointAgg) :
    AggregatorLoop.start agg 60 ⟨0, by decide⟩ ⟨0⟩ = some ⟨agg, 60, ⟨60 * 10 ^ 9⟩⟩ :=
  start_eq_some_iff.mpr ⟨.fromSecs 60, 60, ⟨60 * 10 ^ 9⟩, by decide, by decide, rfl⟩

theorem start_eq_startOfMinute (minute : config.gateway.aggregationWindowSecs = 60) :
    Gateway.start config ⟨0, by decide⟩ ⟨0⟩ = some (.startOfMinute config) := by
  rw [Gateway.start, minute, AggregatorLoop.start_eq_startOfMinute]
  rfl

/-- The deadline after the first. -/
theorem secondMinute :
    Instant.add? .latest ⟨60 * 10 ^ 9⟩ (.fromSecs 60) = some ⟨120 * 10 ^ 9⟩ := by decide

theorem trySend_ok {channel : List Delivery} {loop : AggregatorLoop}
    (room : channel.length < readingChannelCapacity) :
    ∀ outcome, PollerInput.trySend .ok = .trySend outcome →
      outcome = trySend channel (.running loop) := by
  rintro _ ⟨⟩
  simp [trySend, room]

/-- A window on the shipped bus: the first sensor is read, and both its values arrive. -/
def tempSensorEvents : List GatewayEvent :=
  let sensor := tempSensor "tempsensor1" 5
  let read : BlockRead := ⟨rs485Bus1, sensor, tempSensorBlock, [10, 456]⟩
  let temperature : Reading := ⟨⟨"tempsensor1", "temperature"⟩, .ofInt 10 * .finite (1 / 10)⟩
  let humidity : Reading := ⟨⟨"tempsensor1", "humidity"⟩, .ofInt 456 * .finite (1 / 10)⟩
  [.poll rs485Bus1 (.connect true) [.report (.connectionUp "rs485-bus1")],
    .poll rs485Bus1 .tick [.setSlave 5, .request sensor tempSensorBlock],
    .poll rs485Bus1 (.response (some (.ok (.ok [10, 456]))))
      [.read sensor tempSensorBlock (.words [10, 456]), .sleep (.fromMillis 10)],
    .poll rs485Bus1 (.trySend .ok) [.offer sensor tempSensorBlock [10, 456] temperature .ok],
    .receive ⟨read, temperature⟩,
    .poll rs485Bus1 (.trySend .ok)
      [.offer sensor tempSensorBlock [10, 456] humidity .ok,
        .report (.deviceOk "rs485-bus1" "tempsensor1"), .setSlave 6,
        .request (tempSensor "tempsensor2" 6) tempSensorBlock],
    .receive ⟨read, humidity⟩]

theorem tempSensorEvents_run :
    ∃ gateway batches gateway',
      Run (GatewayStep exampleConfig) (.startOfMinute exampleConfig) tempSensorEvents gateway ∧
      GatewayStep exampleConfig gateway (.tick ⟨60 * 10 ^ 9⟩ none batches) gateway' ∧
      gateway.inTransit = [] := by
  refine ⟨_, _, _,
    .cons (.poll [(meterTcp1, Poller.start meterTcp1)] [] _ _ _ _ _ _ _ (by simp) rfl)
      (.cons (.poll [_] [] _ _ _ _ _ _ _ (by simp) rfl)
      (.cons (.poll [_] [] _ _ _ _ _ _ _ (by simp) rfl)
      (.cons (.poll [_] [] _ _ _ _ _ _ _ (trySend_ok (by decide)) rfl)
      (.cons (.receive _ _ _ _ _ _ (.reading _ _))
      (.cons (.poll [_] [] _ _ _ _ _ _ _ (trySend_ok (by decide)) rfl)
      (.single (.receive _ _ _ _ _ _ (.reading _ _)))))))),
    .tick _ _ _ _ _ _ _ _
      (.tick _ _ _ _ (le_refl _) ⟨_, List.Perm.refl _, List.Perm.refl _⟩ secondMinute), rfl⟩

/-- Both values of the sensor go to accumulators of their own. -/
theorem accumulators_of_distinct_points_tempSensor :
    ∃ gateway batches gateway',
      Run (GatewayStep exampleConfig) (.startOfMinute exampleConfig) tempSensorEvents gateway ∧
      GatewayStep exampleConfig gateway (.tick ⟨60 * 10 ^ 9⟩ none batches) gateway' ∧
      (contents batches).Perm [("tempsensor1", ⟨"temperature", "Cel", .finite 1⟩),
        ("tempsensor1", ⟨"humidity", "%RH", .finite (456 / 10)⟩)] := by
  obtain ⟨gateway, batches, gateway', run, ticked, _⟩ := tempSensorEvents_run
  have distinct := accumulators_of_distinct_points exampleConfig
  have unique : exampleConfig.NamesUnique := ⟨by decide, by decide⟩
  have published := (distinct.2.2 (distinct.1 unique)).2 _ _ _ _ _ _ _ _
    (start_eq_startOfMinute rfl) run ticked
  exact ⟨gateway, batches, gateway', run, ticked,
    published.1.trans (List.Perm.of_eq (by decide +kernel))⟩

/-- The shipped bus with one id for both sensors. -/
def sharedIdBus : ConnectionConfig :=
  { rs485Bus1 with devices := [tempSensor "tempsensor1" 5, tempSensor "tempsensor1" 6] }

/-- Ids are not checked: two sensors of one id share their accumulators, and the
temperature published is the mean of both. -/
theorem accumulators_shared_tempSensor :
    let config : Config := { exampleConfig with connections := [sharedIdBus] }
    validate exampleHost config = .ok () ∧
    ¬((configuredPoints config).map ConfiguredPoint.pointId).Nodup ∧
    (configuredPoints config).length = 4 ∧ (initFromConfig config).entries.length = 2 ∧
    ∃ gateway₀ events gateway handledAt batches gateway',
      Gateway.start config ⟨0, by decide⟩ ⟨0⟩ = some gateway₀ ∧
      Run (GatewayStep config) gateway₀ events gateway ∧
      GatewayStep config gateway (.tick handledAt none batches) gateway' ∧
      (windowDeliveries events).map (fun delivery =>
          (delivery.device.unitId, delivery.reading.pointId.point, delivery.reading.value)) =
        [(5, "temperature", .finite 1), (5, "humidity", .finite 0),
          (6, "temperature", .finite 3)] ∧
      ("tempsensor1", ⟨"temperature", "Cel", .finite 2⟩) ∈ contents batches := by
  intro config
  refine ⟨by decide, by decide, by decide, by decide, _,
    [.poll sharedIdBus (.connect true) _, .poll sharedIdBus .tick _,
      .poll sharedIdBus (.response (some (.ok (.ok [10, 0])))) _,
      .poll sharedIdBus (.trySend .ok) _, .poll sharedIdBus (.trySend .ok) _,
      .poll sharedIdBus (.response (some (.ok (.ok [30, 0])))) _,
      .poll sharedIdBus (.trySend .ok) _, .receive _, .receive _, .receive _],
    _, ⟨60 * 10 ^ 9⟩, _, _, start_eq_startOfMinute rfl,
    .cons (.poll [] [] _ _ _ _ _ _ _ (by simp) rfl)
      (.cons (.poll [] [] _ _ _ _ _ _ _ (by simp) rfl)
      (.cons (.poll [] [] _ _ _ _ _ _ _ (by simp) rfl)
      (.cons (.poll [] [] _ _ _ _ _ _ _ (trySend_ok (by decide)) rfl)
      (.cons (.poll [] [] _ _ _ _ _ _ _ (trySend_ok (by decide)) rfl)
      (.cons (.poll [] [] _ _ _ _ _ _ _ (by simp) rfl)
      (.cons (.poll [] [] _ _ _ _ _ _ _ (trySend_ok (by decide)) rfl)
      (.cons (.receive _ _ _ _ _ _ (.reading _ _))
      (.cons (.receive _ _ _ _ _ _ (.reading _ _))
      (.single (.receive _ _ _ _ _ _ (.reading _ _))))))))))),
    .tick _ _ _ _ _ _ _ _
      (.tick _ _ _ _ (le_refl _) ⟨_, List.Perm.refl _, List.Perm.refl _⟩ secondMinute),
    ?_, ?_⟩
  · decide +kernel
  · decide +kernel

end ModbusGateway
