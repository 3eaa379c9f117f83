import ModbusGateway.Config.Validate
import ModbusGateway.Foundation.Checks

/-!
# What an accepted configuration guarantees

The checks of `validate`, stated pairwise and in unbounded arithmetic, and the
equivalence of both. The loops accumulate what they have seen; the neighbour
comparison after sorting stands for disjointness of any two points.
-/
namespace ModbusGateway

open Foundation

/-- The registers a point occupies, counted from the block's start. -/
def PointConfig.span (p : PointConfig) : Span ℕ where
  start := p.offset.toNat
  stop := p.offset.toNat + p.dataType.wordCount.toNat
  nonempty := Nat.lt_add_of_pos_right p.dataType.wordCount_pos

structure BlockConfig.WellFormed (block : BlockConfig) : Prop where
  count_le : block.count.toNat ≤ 125
  in_bounds : ∀ p ∈ block.points,
    p.offset.toNat + p.dataType.wordCount.toNat ≤ block.count.toNat
  disjoint : block.points.Pairwise fun p q => Disjoint p.span.points q.span.points

def Transport.WellFormed : Transport → Prop
  | .tcp .. => True
  | .rtu _ _ dataBits _ stopBits _ =>
    (5 ≤ dataBits ∧ dataBits ≤ 8) ∧ (1 ≤ stopBits ∧ stopBits ≤ 2)

structure ConnectionConfig.WellFormed (conn : ConnectionConfig) : Prop where
  poll_interval_pos : 0 < conn.pollIntervalSecs
  unit_ids_distinct : (conn.devices.map DeviceConfig.unitId).Nodup
  transport : conn.transport.WellFormed
  blocks : ∀ device ∈ conn.devices, ∀ block ∈ device.blocks, block.WellFormed

structure Config.WellFormed (host : Host) (config : Config) : Prop where
  window_pos : 0 < config.gateway.aggregationWindowSecs
  log_level : host.parsesLevel config.gateway.logLevel = true
  qos_le : config.mqtt.qos ≤ 2
  ca_cert : validateCaCert host config.mqtt.caCertPath = .ok ()
  connections : ∀ conn ∈ config.connections, conn.WellFormed
  serial_ports_distinct :
    (config.connections.filterMap fun conn => conn.transport.serialPort?).Nodup

/-! ### Unit ids -/

theorem checkUnitIds_ok_iff (connection : String) (devices : List DeviceConfig)
    (seen : List UInt8) :
    checkUnitIds connection devices seen = .ok () ↔
      (devices.map DeviceConfig.unitId).Nodup ∧ ∀ device ∈ devices, device.unitId ∉ seen := by
  -- For any ids seen before, since every device passed adds its own.
  induction devices generalizing seen with
  | nil => simp [checkUnitIds]
  | cons device devices ih =>
    simp only [checkUnitIds, ite_error_ok_iff, ih, List.map_cons, List.nodup_cons, List.mem_map,
      List.mem_cons, not_or, forall_eq_or_imp, not_exists, not_and]
    constructor
    · rintro ⟨fresh, distinct, others⟩
      exact ⟨⟨fun other member => (others other member).1, distinct⟩, fresh,
        fun other member => (others other member).2⟩
    · rintro ⟨⟨apart, distinct⟩, fresh, others⟩
      exact ⟨fresh, distinct, fun other member => ⟨apart other member, others other member⟩⟩

/-! ### Blocks -/

theorem PointConfig.toNat_pointEnd (p : PointConfig) :
    p.pointEnd.toNat = p.offset.toNat + p.dataType.wordCount.toNat := by
  have offset_lt := p.offset.toNat_lt
  rw [pointEnd, UInt32.toNat_add, UInt16.toNat_toUInt32, UInt16.toNat_toUInt32]
  rcases p.dataType.wordCount_cases with width | width <;> omega

/-- The bounds check compares exact values. -/
theorem pointEnd_gt_iff (p : PointConfig) (block : BlockConfig) :
    p.pointEnd > block.count.toUInt32 ↔
      block.count.toNat < p.offset.toNat + p.dataType.wordCount.toNat := by
  rw [gt_iff_lt, UInt32.lt_iff_toNat_lt, p.toNat_pointEnd, UInt16.toNat_toUInt32]

/-- A point that passed the bounds check has a span whose end fits in a `u16`. -/
theorem toNat_offset_add_wordCount (p : PointConfig) (block : BlockConfig)
    (fits : p.offset.toNat + p.dataType.wordCount.toNat ≤ block.count.toNat) :
    (p.offset + p.dataType.wordCount).toNat = p.offset.toNat + p.dataType.wordCount.toNat := by
  have count_lt := block.count.toNat_lt
  rw [UInt16.toNat_add]
  exact Nat.mod_eq_of_lt (by omega)

/-- The tuple `validate` keeps for a point. -/
def spanTuple (p : PointConfig) : UInt16 × UInt16 × String :=
  (p.offset, p.offset + p.dataType.wordCount, p.name)

theorem collectSpans_ok_iff (connection device : String) (block : BlockConfig)
    (points : List PointConfig) (spans result : List (UInt16 × UInt16 × String)) :
    collectSpans connection device block points spans = .ok result ↔
      (∀ p ∈ points, p.offset.toNat + p.dataType.wordCount.toNat ≤ block.count.toNat) ∧
      result = spans ++ points.map spanTuple := by
  -- The tuples collected so far come first, whatever they are.
  induction points generalizing spans with
  | nil => simp [collectSpans, eq_comm]
  | cons p points ih =>
    simp only [collectSpans, ite_error_ok_iff, pointEnd_gt_iff, not_lt, ih, List.mem_cons,
      forall_eq_or_imp, List.map_cons, List.append_assoc, List.singleton_append, and_assoc,
      spanTuple]

theorem checkNeighbours_ok_iff (connection device : String) (block : BlockConfig)
    (spans : List (UInt16 × UInt16 × String)) :
    checkNeighbours connection device block spans = .ok () ↔
      spans.IsChain fun a b => ¬b.1 < a.2.1 := by
  induction spans with
  | nil => simp [checkNeighbours]
  | cons a spans ih =>
    cases spans with
    | nil => simp [checkNeighbours]
    | cons b spans => simp only [checkNeighbours, ite_error_ok_iff, ih, List.isChain_cons_cons]

/-- The tuples in the order `validate` compares them are those of the points sorted by offset. -/
theorem sorted_spans (points : List PointConfig) :
    (points.map spanTuple).insertionSort (fun s t => s.1 ≤ t.1) =
      (points.insertionSort fun p q => p.offset ≤ q.offset).map spanTuple :=
  (List.map_insertionSort (fun p q : PointConfig => p.offset ≤ q.offset)
    (fun s t : UInt16 × UInt16 × String => s.1 ≤ t.1) spanTuple points
    (fun _ _ _ _ => Iff.rfl)).symm

theorem pairwise_insertionSort_offset (points : List PointConfig) :
    (points.insertionSort fun p q => p.offset ≤ q.offset).Pairwise
      fun p q => p.offset ≤ q.offset := by
  have total : Std.Total fun p q : PointConfig => p.offset ≤ q.offset :=
    ⟨fun p q => UInt16.le_total p.offset q.offset⟩
  have trans : IsTrans PointConfig fun p q => p.offset ≤ q.offset :=
    ⟨fun _ _ _ pq qr => UInt16.le_trans pq qr⟩
  exact List.pairwise_insertionSort _ points

theorem checkNeighbours_sorted_ok_iff (connection device : String) (block : BlockConfig)
    (points : List PointConfig)
    (fits : ∀ p ∈ points, p.offset.toNat + p.dataType.wordCount.toNat ≤ block.count.toNat) :
    checkNeighbours connection device block
        ((points.map spanTuple).insertionSort fun s t => s.1 ≤ t.1) = .ok () ↔
      points.Pairwise fun p q => Disjoint p.span.points q.span.points := by
  rw [checkNeighbours_ok_iff, sorted_spans, List.isChain_map]
  have perm := List.perm_insertionSort (fun p q : PointConfig => p.offset ≤ q.offset) points
  have sorted := pairwise_insertionSort_offset points
  -- Of the sorted list only this matters: it is sorted, and a permutation of the points.
  generalize (points.insertionSort fun p q => p.offset ≤ q.offset) = ps at perm sorted ⊢
  have sortedSpans : (ps.map PointConfig.span).Pairwise fun a b => a.start ≤ b.start :=
    List.pairwise_map.mpr (sorted.imp fun h => UInt16.le_iff_toNat_le.mp h)
  have key := Span.pairwise_disjoint_iff_isChain _ sortedSpans
  rw [Span.pairwise_disjoint_perm (perm.map _), List.pairwise_map, List.isChain_map] at key
  rw [key]
  -- On checked points the wrapping sum the code compares with is the exact end.
  have exact_end : ∀ p ∈ ps, ∀ q ∈ ps,
      (¬(spanTuple q).1 < (spanTuple p).2.1 ↔ p.span.before q.span) := by
    intro p hp q _
    have sum := toNat_offset_add_wordCount p block (fits p (perm.mem_iff.mp hp))
    simp only [spanTuple, UInt16.not_lt, UInt16.le_iff_toNat_le, sum, Span.before,
      PointConfig.span]
  constructor
  · intro chain
    exact chain.imp_of_mem_imp fun p q hp hq h => (exact_end p hp q hq).mp h
  · intro chain
    exact chain.imp_of_mem_imp fun p q hp hq h => (exact_end p hp q hq).mpr h

theorem checkBlock_ok_iff (connection device : String) (block : BlockConfig) :
    checkBlock connection device block = .ok () ↔ block.WellFormed := by
  simp only [checkBlock, ite_error_ok_iff, bind_ok_iff, collectSpans_ok_iff, List.nil_append]
  have count : ¬block.count > 125 ↔ block.count.toNat ≤ 125 := by
    rw [gt_iff_lt, UInt16.not_lt, UInt16.le_iff_toNat_le]
    rfl
  rw [count]
  constructor
  · rintro ⟨small, _, ⟨fits, rfl⟩, apart⟩
    exact ⟨small, fits, (checkNeighbours_sorted_ok_iff _ _ _ _ fits).mp apart⟩
  · rintro ⟨small, fits, apart⟩
    exact ⟨small, _, ⟨fits, rfl⟩, (checkNeighbours_sorted_ok_iff _ _ _ _ fits).mpr apart⟩

/-! ### Connections -/

/-- What a connection's transport does to `serial_ports`. -/
def Transport.Enters (id : String) (ports ports' : HashMap String String) : Transport → Prop
  | .tcp .. => ports' = ports
  | .rtu serialPort .. => serialPort ∉ ports ∧ ports' = ports.insert serialPort id

theorem checkTransport_ok_iff (ports ports' : HashMap String String) (conn : ConnectionConfig) :
    checkTransport ports conn = .ok ports' ↔
      conn.transport.WellFormed ∧ conn.transport.Enters conn.id ports ports' := by
  unfold checkTransport
  cases conn.transport with
  | tcp host port => simp [Transport.WellFormed, Transport.Enters, eq_comm]
  | rtu serialPort baudRate dataBits parity stopBits interFrameDelayMs =>
    simp only [ite_error_ok_iff, not_not, Transport.WellFormed, Transport.Enters, and_assoc]
    -- The lookup finds a port exactly when an earlier connection entered it.
    cases found : ports.lookup serialPort with
    | none =>
      have absent : serialPort ∉ ports := AList.lookup_eq_none.mp found
      simp [absent, eq_comm]
    | some first =>
      have present : serialPort ∈ ports := AList.lookup_isSome.mp (by simp [found])
      simp [present]

theorem validateConnection_ok_iff (ports ports' : HashMap String String)
    (conn : ConnectionConfig) :
    validateConnection ports conn = .ok ports' ↔
      conn.WellFormed ∧ conn.transport.Enters conn.id ports ports' := by
  have positive : ¬conn.pollIntervalSecs = 0 ↔ 0 < conn.pollIntervalSecs :=
    UInt64.pos_iff_ne_zero.symm
  have units : checkUnitIds conn.id conn.devices [] = .ok () ↔
      (conn.devices.map DeviceConfig.unitId).Nodup := by
    simp [checkUnitIds_ok_iff]
  have blocks : (conn.devices.forM fun device =>
        device.blocks.forM (checkBlock conn.id device.id)) = .ok () ↔
      ∀ device ∈ conn.devices, ∀ block ∈ device.blocks, block.WellFormed := by
    simp only [forM_ok_iff, checkBlock_ok_iff]
  simp only [validateConnection, ite_error_ok_iff, bind_ok_iff, checkTransport_ok_iff, positive,
    pure, Except.pure, Except.ok.injEq]
  constructor
  · rintro ⟨interval, _, unitsPassed, _, ⟨transport, entered⟩, _, blocksPassed, rfl⟩
    exact ⟨⟨interval, units.mp unitsPassed, transport, blocks.mp blocksPassed⟩, entered⟩
  · rintro ⟨good, entered⟩
    exact ⟨good.poll_interval_pos, (), units.mpr good.unit_ids_distinct, ports',
      ⟨good.transport, entered⟩, (), blocks.mpr good.blocks, rfl⟩

/-- The ports already entered are those of the earlier RTU connections, so the
lookup rejects the second user of a port and nothing else. -/
theorem validateConnections_ok_iff (conns : List ConnectionConfig)
    (ports : HashMap String String) :
    (∃ ports', conns.foldlM validateConnection ports = .ok ports') ↔
      (∀ conn ∈ conns, conn.WellFormed) ∧
      (conns.filterMap fun conn => conn.transport.serialPort?).Nodup ∧
      ∀ port ∈ conns.filterMap (fun conn => conn.transport.serialPort?), port ∉ ports := by
  -- For any ports entered before: an RTU connection hands one more on to the rest.
  induction conns generalizing ports with
  | nil => simp [pure, Except.pure]
  | cons conn conns ih =>
    simp only [List.foldlM_cons, bind_ok_iff, validateConnection_ok_iff, List.mem_cons,
      forall_eq_or_imp]
    cases shape : conn.transport with
    | tcp host port =>
      -- Nothing is entered, so the rest of the loop meets the same ports.
      rw [List.filterMap_cons_none (by rw [shape]; rfl)]
      have step := ih ports
      constructor
      · rintro ⟨_, _, ⟨good, rfl⟩, rest⟩
        obtain ⟨others, distinct, fresh⟩ := step.mp ⟨_, rest⟩
        exact ⟨⟨good, others⟩, distinct, fresh⟩
      · rintro ⟨⟨good, others⟩, distinct, fresh⟩
        obtain ⟨ports', rest⟩ := step.mpr ⟨others, distinct, fresh⟩
        exact ⟨ports', ports, ⟨good, rfl⟩, rest⟩
    | rtu serialPort baudRate dataBits parity stopBits interFrameDelayMs =>
      rw [List.filterMap_cons_some (b := serialPort) (by rw [shape]; rfl)]
      -- The rest avoids this port as well as the earlier ones; hence no duplicates.
      have step := ih (ports.insert serialPort conn.id)
      simp only [AList.mem_insert, not_or] at step
      simp only [List.nodup_cons, List.mem_cons, forall_eq_or_imp]
      constructor
      · rintro ⟨_, _, ⟨good, new, rfl⟩, rest⟩
        obtain ⟨others, distinct, fresh⟩ := step.mp ⟨_, rest⟩
        exact ⟨⟨good, others⟩, ⟨fun member => (fresh _ member).1 rfl, distinct⟩, new,
          fun port member => (fresh port member).2⟩
      · rintro ⟨⟨good, others⟩, ⟨apart, distinct⟩, new, fresh⟩
        have fresh' : ∀ port ∈ conns.filterMap (fun conn => conn.transport.serialPort?),
            port ≠ serialPort ∧ port ∉ ports := by
          intro port member
          exact ⟨fun same => apart (same ▸ member), fresh port member⟩
        obtain ⟨ports', rest⟩ := step.mpr ⟨others, distinct, fresh'⟩
        exact ⟨ports', _, ⟨good, new, rfl⟩, rest⟩

theorem validate_ok_iff (host : Host) (config : Config) :
    validate host config = .ok () ↔ config.WellFormed host := by
  have positive : ¬config.gateway.aggregationWindowSecs = 0 ↔
      0 < config.gateway.aggregationWindowSecs := UInt64.pos_iff_ne_zero.symm
  have connections := validateConnections_ok_iff config.connections ∅
  simp only [AList.notMem_empty, not_false_eq_true, implies_true, and_true] at connections
  simp only [validate, ite_error_ok_iff, not_not, bind_ok_iff, gt_iff_lt, UInt8.not_lt, positive]
  constructor
  · rintro ⟨window, level, qos, ports, loop, ca⟩
    obtain ⟨conns, serials⟩ := connections.mp ⟨ports, loop⟩
    exact ⟨window, level, qos, ca, conns, serials⟩
  · rintro ⟨window, level, qos, ca, conns, serials⟩
    obtain ⟨ports, loop⟩ := connections.mpr ⟨conns, serials⟩
    exact ⟨window, level, qos, ports, loop, ca⟩

/-- `validate` accepts exactly the well-formed configurations. Where the bounds
check lets a point through, the `u16` sum that becomes the end of its span is exact. -/
theorem validate_accepts_exactly_wellFormed (host : Host) (config : Config) :
    (validate host config = .ok () ↔ config.WellFormed host) ∧
    ∀ conn ∈ config.connections, ∀ device ∈ conn.devices, ∀ block ∈ device.blocks,
      ∀ p ∈ block.points, ¬p.pointEnd > block.count.toUInt32 →
        (p.offset + p.dataType.wordCount).toNat =
          p.offset.toNat + p.dataType.wordCount.toNat := by
  refine ⟨validate_ok_iff host config, ?_⟩
  intro conn _ device _ block _ p _ inside
  rw [pointEnd_gt_iff, not_lt] at inside
  exact toNat_offset_add_wordCount p block inside

/-- Connections of an accepted configuration. -/
theorem wellFormed_of_validate {host : Host} {config : Config}
    (accepted : validate host config = .ok ()) {conn : ConnectionConfig}
    (member : conn ∈ config.connections) : conn.WellFormed :=
  ((validate_ok_iff host config).mp accepted).connections conn member

/-! ### The configuration the gateway ships with -/

/-- `meter-tcp1` of `config.example.toml`. -/
def meterTcp1 : ConnectionConfig where
  id := "meter-tcp1"
  transport := .tcp "192.168.1.50" 502
  pollIntervalSecs := 10
  ioTimeoutMs := 1000
  reconnectBackoffMinSecs := 1
  reconnectBackoffMaxSecs := 30
  devices := [
    { id := "meter1"
      unitId := 1
      blocks := [
        { function := .holding
          start := 3000
          count := 8
          wordOrder := .bigEndian
          points := [
            ⟨"voltage_l1", 0, .f32, .finite 1, false, "V"⟩,
            ⟨"current_l1", 2, .f32, .finite 1, false, "A"⟩,
            ⟨"active_power", 4, .i32, .finite (1 / 10), true, "W"⟩] },
        { function := .holding
          start := 3100
          count := 2
          wordOrder := .bigEndian
          points := [⟨"energy_total", 0, .u32, .finite (1 / 1000), false, "kWh"⟩] }] }]

/-- The block that both sensors of `rs485-bus1` are read with. -/
def tempSensorBlock : BlockConfig where
  function := .input
  start := 100
  count := 2
  wordOrder := .bigEndian
  points := [
    ⟨"temperature", 0, .i16, .finite (1 / 10), false, "Cel"⟩,
    ⟨"humidity", 1, .u16, .finite (1 / 10), false, "%RH"⟩]

def tempSensor (id : String) (unitId : UInt8) : DeviceConfig where
  id := id
  unitId := unitId
  blocks := [tempSensorBlock]

def rs485Bus1 : ConnectionConfig where
  id := "rs485-bus1"
  transport :=
    .rtu "/dev/serial/by-id/usb-FTDI_USB-RS485-if00-port0" 9600 8 .none 1 10
  pollIntervalSecs := 15
  ioTimeoutMs := 500
  reconnectBackoffMinSecs := 1
  reconnectBackoffMaxSecs := 30
  devices := [tempSensor "tempsensor1" 5, tempSensor "tempsensor2" 6]

def exampleConfig : Config where
  gateway :=
    { id := "gw-router1"
      aggregationWindowSecs := 60
      baseNamePrefix := "urn:dev:gw-router1:"
      logLevel := "info"
      statusFilePath := "/dev/container_config/status"
      statusDebounceSecs := 2
      statusHeartbeatSecs := 30 }
  mqtt :=
    { brokerHost := "10.0.0.5"
      brokerPort := 8883
      clientId := "modbus-gateway-router1"
      tls := true
      caCertPath := "/etc/modbus-gateway/ca.pem"
      username := "gateway"
      passwordEnv := "MQTT_PASSWORD"
      qos := 1
      keepAliveSecs := 30
      topicTemplate := "telemetry/\x7bdevice\x7d" }
  connections := [meterTcp1, rs485Bus1]

/-- A host on which every log level parses and every file holds one certificate. -/
def exampleHost : Host where
  parsesLevel _ := true
  readFile _ := .ok []
  pemCerts _ := .ok [[]]

theorem exampleConfig_accepted : validate exampleHost exampleConfig = .ok () := by
  decide

theorem rs485Bus1_mem : rs485Bus1 ∈ exampleConfig.connections := by
  simp [exampleConfig]

end ModbusGateway
