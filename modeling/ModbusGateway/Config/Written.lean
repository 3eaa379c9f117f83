import ModbusGateway.Config.Deserialize
import ModbusGateway.Config.WellFormed

/-!
# Configurations in writing

When the tables of a file say what a configuration is: every setting under its
key, in any order and among any other keys, those with a default only where they
differ from it. Structs are tables and variants are names, or whatever else the
libraries read as such. These are the files that are loaded, each as what it says.
-/
namespace ModbusGateway

open Foundation

/-! ### Tables that say what a configuration is -/

section

variable (entries : List (String × Value))

/-- The table has this value under a key. -/
def Writes (key : String) (value : Value) : Prop := valuesAt entries key = [value]

/-- A default need not be written. -/
def WritesOr (key : String) (value : Value) (isDefault : Prop) : Prop :=
  Writes entries key value ∨ (isDefault ∧ valuesAt entries key = [])

/-- A value that says this. -/
def WritesSome (spells : Value → Prop) (key : String) : Prop :=
  ∃ value, Writes entries key value ∧ spells value

def WritesSomeOr (spells : Value → Prop) (key : String) (isDefault : Prop) : Prop :=
  WritesSome entries spells key ∨ (isDefault ∧ valuesAt entries key = [])

/-- An array, each element of which says what one of the records is. -/
def WritesAll {α : Type} (spells : α → Value → Prop) (key : String) (records : List α) : Prop :=
  ∃ values, Writes entries key (.array values) ∧ List.Forall₂ spells records values

end

/-- Also an integer stands for a factor. -/
def AsF64 (a : F64) (value : Value) : Prop :=
  value = .float a ∨ ∃ n : ℤ, a = .ofInt n ∧ value = .integer n

/-- The value is a table that says what the record is. -/
def AsTable {α : Type} (written : α → List (String × Value) → Prop) (a : α) (value : Value) :
    Prop :=
  ∃ table, value = .table table ∧ written a table

section

variable (serde : Serde) (name : String)

/-- So it is, or an array that is read as one. -/
def AsStruct {α : Type} (written : α → List (String × Value) → Prop) (a : α) (value : Value) :
    Prop :=
  AsTable written a value ∨
    ∃ values table, value = .array values ∧ serde.structOfArray name values = some table ∧
      written a table

/-- The value names the variant, or is a table that is read as its name. -/
def AsVariant (variant : String) (value : Value) : Prop :=
  value = .string variant ∨
    ∃ entries, value = .table entries ∧ serde.variantOfTable name entries = some variant

end

def Parity.variant : Parity → String
  | .none => "none"
  | .even => "even"
  | .odd => "odd"

def Function.variant : Function → String
  | .holding => "holding"
  | .input => "input"

def WordOrder.variant : WordOrder → String
  | .bigEndian => "big_endian"
  | .littleEndian => "little_endian"

def DataType.variant : DataType → String
  | .u16 => "u16"
  | .i16 => "i16"
  | .u32 => "u32"
  | .i32 => "i32"
  | .f32 => "f32"

section

variable (serde : Serde)

structure PointConfig.Written (p : PointConfig) (entries : List (String × Value)) : Prop where
  name : Writes entries "name" (.string p.name)
  offset : Writes entries "offset" (.integer p.offset.toNat)
  dataType : WritesSome entries (AsVariant serde "DataType" p.dataType.variant) "data_type"
  scale : WritesSomeOr entries (AsF64 p.scale) "scale" (p.scale = defaultScale)
  absolute : WritesOr entries "absolute" (.boolean p.absolute) (p.absolute = false)
  unit : Writes entries "unit" (.string p.unit)

structure BlockConfig.Written (block : BlockConfig) (entries : List (String × Value)) :
    Prop where
  function : WritesSome entries (AsVariant serde "Function" block.function.variant) "function"
  start : Writes entries "start" (.integer block.start.toNat)
  count : Writes entries "count" (.integer block.count.toNat)
  wordOrder : WritesSomeOr entries (AsVariant serde "WordOrder" block.wordOrder.variant)
    "word_order" (block.wordOrder = .bigEndian)
  points : WritesAll entries (AsStruct serde "PointConfig" (PointConfig.Written serde)) "point"
    block.points

structure DeviceConfig.Written (device : DeviceConfig) (entries : List (String × Value)) :
    Prop where
  id : Writes entries "id" (.string device.id)
  unitId : Writes entries "unit_id" (.integer device.unitId.toNat)
  blocks : WritesAll entries (AsStruct serde "BlockConfig" (BlockConfig.Written serde)) "block"
    device.blocks

/-- The settings of a transport stand beside those of its connection. -/
def Transport.Written (entries : List (String × Value)) : Transport → Prop
  | .tcp host port =>
    Writes entries "transport" (.string "tcp") ∧
    Writes entries "host" (.string host) ∧
    Writes entries "port" (.integer port.toNat)
  | .rtu serialPort baudRate dataBits parity stopBits interFrameDelayMs =>
    Writes entries "transport" (.string "rtu") ∧
    Writes entries "serial_port" (.string serialPort) ∧
    Writes entries "baud_rate" (.integer baudRate.toNat) ∧
    WritesOr entries "data_bits" (.integer dataBits.toNat) (dataBits = defaultDataBits) ∧
    WritesSomeOr entries (AsVariant serde "Parity" parity.variant) "parity" (parity = .none) ∧
    WritesOr entries "stop_bits" (.integer stopBits.toNat) (stopBits = defaultStopBits) ∧
    WritesOr entries "inter_frame_delay_ms" (.integer interFrameDelayMs.toNat)
      (interFrameDelayMs = 0)

structure ConnectionConfig.Written (conn : ConnectionConfig) (entries : List (String × Value)) :
    Prop where
  id : Writes entries "id" (.string conn.id)
  transport : Transport.Written serde entries conn.transport
  pollIntervalSecs : Writes entries "poll_interval_secs" (.integer conn.pollIntervalSecs.toNat)
  ioTimeoutMs : Writes entries "io_timeout_ms" (.integer conn.ioTimeoutMs.toNat)
  reconnectBackoffMinSecs : WritesOr entries "reconnect_backoff_min_secs"
    (.integer conn.reconnectBackoffMinSecs.toNat)
    (conn.reconnectBackoffMinSecs = defaultBackoffMinSecs)
  reconnectBackoffMaxSecs : WritesOr entries "reconnect_backoff_max_secs"
    (.integer conn.reconnectBackoffMaxSecs.toNat)
    (conn.reconnectBackoffMaxSecs = defaultBackoffMaxSecs)
  devices : WritesAll entries (AsStruct serde "DeviceConfig" (DeviceConfig.Written serde)) "device"
    conn.devices

structure GatewayConfig.Written (gateway : GatewayConfig) (entries : List (String × Value)) :
    Prop where
  id : Writes entries "id" (.string gateway.id)
  aggregationWindowSecs :
    Writes entries "aggregation_window_secs" (.integer gateway.aggregationWindowSecs.toNat)
  baseNamePrefix : Writes entries "base_name_prefix" (.string gateway.baseNamePrefix)
  logLevel : Writes entries "log_level" (.string gateway.logLevel)
  statusFilePath : WritesOr entries "status_file_path" (.string gateway.statusFilePath)
    (gateway.statusFilePath = defaultStatusFilePath)
  statusDebounceSecs : WritesOr entries "status_debounce_secs"
    (.integer gateway.statusDebounceSecs.toNat)
    (gateway.statusDebounceSecs = defaultStatusDebounceSecs)
  statusHeartbeatSecs : WritesOr entries "status_heartbeat_secs"
    (.integer gateway.statusHeartbeatSecs.toNat)
    (gateway.statusHeartbeatSecs = defaultStatusHeartbeatSecs)

structure MqttConfig.Written (mqtt : MqttConfig) (entries : List (String × Value)) : Prop where
  brokerHost : Writes entries "broker_host" (.string mqtt.brokerHost)
  brokerPort : Writes entries "broker_port" (.integer mqtt.brokerPort.toNat)
  clientId : Writes entries "client_id" (.string mqtt.clientId)
  tls : Writes entries "tls" (.boolean mqtt.tls)
  caCertPath : Writes entries "ca_cert_path" (.string mqtt.caCertPath)
  username : Writes entries "username" (.string mqtt.username)
  passwordEnv : Writes entries "password_env" (.string mqtt.passwordEnv)
  qos : WritesOr entries "qos" (.integer mqtt.qos.toNat) (mqtt.qos = defaultQos)
  keepAliveSecs : Writes entries "keep_alive_secs" (.integer mqtt.keepAliveSecs.toNat)
  topicTemplate : Writes entries "topic_template" (.string mqtt.topicTemplate)

structure Config.Written (config : Config) (entries : List (String × Value)) : Prop where
  gateway : WritesSome entries
    (AsStruct serde "GatewayConfig" GatewayConfig.Written config.gateway) "gateway"
  mqtt : WritesSome entries (AsStruct serde "MqttConfig" MqttConfig.Written config.mqtt) "mqtt"
  connections : WritesAll entries (AsTable (ConnectionConfig.Written serde)) "connection"
    config.connections

end

/-! ### What is read from a table -/

section

variable {α : Type} {entries : List (String × Value)} {key : String} {value : Value} {a : α}
  {decode : Value → Option α}

theorem required_eq_some_iff :
    required decode entries key = some a ↔
      ∃ value, Writes entries key value ∧ decode value = some a := by
  unfold required readField Writes
  split <;> simp_all

theorem withDefault_eq_some_iff {absent : α} :
    withDefault decode absent entries key = some a ↔
      (∃ value, Writes entries key value ∧ decode value = some a) ∨
        (a = absent ∧ valuesAt entries key = []) := by
  unfold withDefault readField Writes
  split <;> simp_all [eq_comm]

theorem required_iff (spelled : ∀ value', decode value' = some a ↔ value' = value) :
    required decode entries key = some a ↔ Writes entries key value := by
  simp [required_eq_some_iff, spelled]

theorem withDefault_iff {absent : α} (spelled : ∀ value', decode value' = some a ↔ value' = value) :
    withDefault decode absent entries key = some a ↔
      WritesOr entries key value (a = absent) := by
  simp [withDefault_eq_some_iff, spelled, WritesOr]

theorem required_some_iff {spells : Value → Prop}
    (spelled : ∀ value, decode value = some a ↔ spells value) :
    required decode entries key = some a ↔ WritesSome entries spells key := by
  simp only [required_eq_some_iff, spelled, WritesSome]

theorem withDefault_some_iff {absent : α} {spells : Value → Prop}
    (spelled : ∀ value, decode value = some a ↔ spells value) :
    withDefault decode absent entries key = some a ↔
      WritesSomeOr entries spells key (a = absent) := by
  simp only [withDefault_eq_some_iff, spelled, WritesSomeOr, WritesSome]

theorem asVec_eq_some_iff {spells : α → Value → Prop}
    (spelled : ∀ value a, decode value = some a ↔ spells a value) (records : List α) :
    Value.asVec decode value = some records ↔
      ∃ values, value = .array values ∧ List.Forall₂ spells records values := by
  cases value with
  | array values =>
    have elements : values.mapM decode = some records ↔ List.Forall₂ spells records values := by
      rw [mapM_eq_some_iff, eq_comm, ← List.forall₂_eq_eq_eq, List.forall₂_map_left_iff,
        List.forall₂_map_right_iff]
      simp only [eq_comm (a := some _), spelled]
    simp [Value.asVec, elements]
  | _ => simp [Value.asVec]

theorem required_all_iff {spells : α → Value → Prop} {records : List α}
    (spelled : ∀ value a, decode value = some a ↔ spells a value) :
    required (Value.asVec decode) entries key = some records ↔
      WritesAll entries spells key records := by
  simp only [required_eq_some_iff, asVec_eq_some_iff spelled, WritesAll]
  constructor
  · rintro ⟨_, writes, values, rfl, all⟩
    exact ⟨values, writes, all⟩
  · rintro ⟨values, writes, all⟩
    exact ⟨_, writes, values, rfl, all⟩

end

/-! ### How values are spelled -/

theorem asString_iff (text : String) (value : Value) :
    value.asString = some text ↔ value = .string text := by
  cases value <;> simp [Value.asString]

theorem asBool_iff (b : Bool) (value : Value) :
    value.asBool = some b ↔ value = .boolean b := by
  cases value <;> simp [Value.asBool]

theorem asUnsigned_iff {α : Type} {size : Nat} {ofNat : Nat → α} {toNat : α → Nat}
    (fits : ∀ a, toNat a < size) (back : ∀ a, ofNat (toNat a) = a)
    (forth : ∀ n < size, toNat (ofNat n) = n) (a : α) (value : Value) :
    Value.asUnsigned size ofNat value = some a ↔ value = .integer (toNat a) := by
  cases value with
  | integer z =>
    rw [Value.asUnsigned, Option.ite_none_right_eq_some, Value.integer.injEq]
    constructor
    · rintro ⟨⟨positive, small⟩, read⟩
      cases read
      rw [forth _ (by omega), Int.toNat_of_nonneg positive]
    · rintro rfl
      have small := fits a
      exact ⟨⟨Int.natCast_nonneg _, by omega⟩, by rw [Int.toNat_natCast, back]⟩
  | _ => simp [Value.asUnsigned]

theorem asU8_iff (n : UInt8) (value : Value) : value.asU8 = some n ↔ value = .integer n.toNat :=
  asUnsigned_iff UInt8.toNat_lt_size (fun _ => UInt8.ofNat_toNat)
    (fun _ small => UInt8.toNat_ofNat_of_lt' small) n value

theorem asU16_iff (n : UInt16) (value : Value) :
    value.asU16 = some n ↔ value = .integer n.toNat :=
  asUnsigned_iff UInt16.toNat_lt_size (fun _ => UInt16.ofNat_toNat)
    (fun _ small => UInt16.toNat_ofNat_of_lt' small) n value

theorem asU32_iff (n : UInt32) (value : Value) :
    value.asU32 = some n ↔ value = .integer n.toNat :=
  asUnsigned_iff UInt32.toNat_lt_size (fun _ => UInt32.ofNat_toNat)
    (fun _ small => UInt32.toNat_ofNat_of_lt' small) n value

theorem asU64_iff (n : UInt64) (value : Value) :
    value.asU64 = some n ↔ value = .integer n.toNat :=
  asUnsigned_iff UInt64.toNat_lt_size (fun _ => UInt64.ofNat_toNat)
    (fun _ small => UInt64.toNat_ofNat_of_lt' small) n value

theorem asF64_iff (a : F64) (value : Value) : value.asF64 = some a ↔ AsF64 a value := by
  cases value with
  | integer n => simp [Value.asF64, AsF64, eq_comm]
  | _ => simp [Value.asF64, AsF64]

section

variable {serde : Serde}

theorem asVariant_iff {α : Type} {name : String} {variants : List (String × α)}
    {variant : α → String} (listed : ∀ entry ∈ variants, entry.1 = variant entry.2)
    (found : ∀ a, variants.lookup (variant a) = some a) (a : α) (value : Value) :
    Value.asVariant serde name variants value = some a ↔
      AsVariant serde name (variant a) value := by
  have named (text : String) : variants.lookup text = some a ↔ text = variant a := by
    constructor
    · intro read
      obtain ⟨before, after, split, _⟩ := List.lookup_eq_some_iff.mp read
      exact listed (text, a) (by simp [split])
    · rintro rfl
      exact found a
  cases value <;> simp [Value.asVariant, AsVariant, Option.bind_eq_some_iff, named]

theorem Parity.deserialize_iff (parity : Parity) (value : Value) :
    Parity.deserialize serde value = some parity ↔
      AsVariant serde "Parity" parity.variant value :=
  asVariant_iff (by simp [variant]) (by rintro (_ | _ | _) <;> rfl) parity value

theorem Function.deserialize_iff (function : Function) (value : Value) :
    Function.deserialize serde value = some function ↔
      AsVariant serde "Function" function.variant value :=
  asVariant_iff (by simp [variant]) (by rintro (_ | _) <;> rfl) function value

theorem WordOrder.deserialize_iff (wordOrder : WordOrder) (value : Value) :
    WordOrder.deserialize serde value = some wordOrder ↔
      AsVariant serde "WordOrder" wordOrder.variant value :=
  asVariant_iff (by simp [variant]) (by rintro (_ | _) <;> rfl) wordOrder value

theorem DataType.deserialize_iff (dataType : DataType) (value : Value) :
    DataType.deserialize serde value = some dataType ↔
      AsVariant serde "DataType" dataType.variant value :=
  asVariant_iff (by simp [variant]) (by rintro (_ | _ | _ | _ | _) <;> rfl) dataType value

/-! ### What each table is read as -/

section

variable {α : Type} {read : List (String × Value) → Option α}
  {written : α → List (String × Value) → Prop}

theorem asTable_iff (exactly : ∀ entries a, read entries = some a ↔ written a entries)
    (value : Value) (a : α) :
    Value.asTable read value = some a ↔ AsTable written a value := by
  cases value <;> simp [Value.asTable, AsTable, exactly]

theorem asStruct_iff {name : String}
    (exactly : ∀ entries a, read entries = some a ↔ written a entries) (value : Value) (a : α) :
    Value.asStruct serde name read value = some a ↔ AsStruct serde name written a value := by
  cases value <;>
    simp [Value.asStruct, AsStruct, AsTable, Option.bind_eq_some_iff, exactly]

end

theorem PointConfig.deserialize_iff (value : Value) (p : PointConfig) :
    PointConfig.deserialize serde value = some p ↔
      AsStruct serde "PointConfig" (PointConfig.Written serde) p value := by
  apply asStruct_iff
  intro entries p
  simp only [Option.bind_eq_bind, Option.bind_eq_some_iff, required_iff (asString_iff _),
    required_iff (asU16_iff _), required_some_iff (DataType.deserialize_iff _),
    withDefault_some_iff (asF64_iff _), withDefault_iff (asBool_iff _), Option.pure_def,
    Option.some.injEq]
  constructor
  · rintro ⟨_, name, _, offset, _, dataType, _, scale, _, absolute, _, unit, rfl⟩
    exact ⟨name, offset, dataType, scale, absolute, unit⟩
  · rintro ⟨name, offset, dataType, scale, absolute, unit⟩
    exact ⟨_, name, _, offset, _, dataType, _, scale, _, absolute, _, unit, rfl⟩

theorem BlockConfig.deserialize_iff (value : Value) (block : BlockConfig) :
    BlockConfig.deserialize serde value = some block ↔
      AsStruct serde "BlockConfig" (BlockConfig.Written serde) block value := by
  apply asStruct_iff
  intro entries block
  simp only [Option.bind_eq_bind, Option.bind_eq_some_iff,
    required_some_iff (Function.deserialize_iff _), required_iff (asU16_iff _),
    withDefault_some_iff (WordOrder.deserialize_iff _),
    required_all_iff PointConfig.deserialize_iff, Option.pure_def, Option.some.injEq]
  constructor
  · rintro ⟨_, function, _, start, _, count, _, wordOrder, _, points, rfl⟩
    exact ⟨function, start, count, wordOrder, points⟩
  · rintro ⟨function, start, count, wordOrder, points⟩
    exact ⟨_, function, _, start, _, count, _, wordOrder, _, points, rfl⟩

theorem DeviceConfig.deserialize_iff (value : Value) (device : DeviceConfig) :
    DeviceConfig.deserialize serde value = some device ↔
      AsStruct serde "DeviceConfig" (DeviceConfig.Written serde) device value := by
  apply asStruct_iff
  intro entries device
  simp only [Option.bind_eq_bind, Option.bind_eq_some_iff, required_iff (asString_iff _),
    required_iff (asU8_iff _), required_all_iff BlockConfig.deserialize_iff, Option.pure_def,
    Option.some.injEq]
  constructor
  · rintro ⟨_, id, _, unitId, _, blocks, rfl⟩
    exact ⟨id, unitId, blocks⟩
  · rintro ⟨id, unitId, blocks⟩
    exact ⟨_, id, _, unitId, _, blocks, rfl⟩

theorem tcp_iff (entries : List (String × Value)) (transport : Transport) :
    (do
      let host ← required Value.asString entries "host"
      let port ← required Value.asU16 entries "port"
      return Transport.tcp host port) = some transport ↔
      ∃ host port, transport = .tcp host port ∧ Writes entries "host" (.string host) ∧
        Writes entries "port" (.integer port.toNat) := by
  simp only [Option.bind_eq_bind, Option.bind_eq_some_iff, required_iff (asString_iff _),
    required_iff (asU16_iff _), Option.pure_def, Option.some.injEq]
  constructor
  · rintro ⟨_, host, _, port, rfl⟩
    exact ⟨_, _, rfl, host, port⟩
  · rintro ⟨_, _, rfl, host, port⟩
    exact ⟨_, host, _, port, rfl⟩

theorem rtu_iff (entries : List (String × Value)) (transport : Transport) :
    (do
      let serialPort ← required Value.asString entries "serial_port"
      let baudRate ← required Value.asU32 entries "baud_rate"
      let dataBits ← withDefault Value.asU8 defaultDataBits entries "data_bits"
      let parity ← withDefault (Parity.deserialize serde) .none entries "parity"
      let stopBits ← withDefault Value.asU8 defaultStopBits entries "stop_bits"
      let interFrameDelayMs ← withDefault Value.asU64 0 entries "inter_frame_delay_ms"
      return Transport.rtu serialPort baudRate dataBits parity stopBits interFrameDelayMs) =
        some transport ↔
      ∃ serialPort baudRate dataBits parity stopBits interFrameDelayMs,
        transport = .rtu serialPort baudRate dataBits parity stopBits interFrameDelayMs ∧
        Writes entries "serial_port" (.string serialPort) ∧
        Writes entries "baud_rate" (.integer baudRate.toNat) ∧
        WritesOr entries "data_bits" (.integer dataBits.toNat) (dataBits = defaultDataBits) ∧
        WritesSomeOr entries (AsVariant serde "Parity" parity.variant) "parity" (parity = .none) ∧
        WritesOr entries "stop_bits" (.integer stopBits.toNat) (stopBits = defaultStopBits) ∧
        WritesOr entries "inter_frame_delay_ms" (.integer interFrameDelayMs.toNat)
          (interFrameDelayMs = 0) := by
  simp only [Option.bind_eq_bind, Option.bind_eq_some_iff, required_iff (asString_iff _),
    required_iff (asU32_iff _), withDefault_iff (asU8_iff _),
    withDefault_some_iff (Parity.deserialize_iff _), withDefault_iff (asU64_iff _), Option.pure_def,
    Option.some.injEq]
  constructor
  · rintro ⟨_, serialPort, _, baudRate, _, dataBits, _, parity, _, stopBits, _, delay, rfl⟩
    exact ⟨_, _, _, _, _, _, rfl, serialPort, baudRate, dataBits, parity, stopBits, delay⟩
  · rintro ⟨_, _, _, _, _, _, rfl, serialPort, baudRate, dataBits, parity, stopBits, delay⟩
    exact ⟨_, serialPort, _, baudRate, _, dataBits, _, parity, _, stopBits, _, delay, rfl⟩

/-- A transport reads what its connection leaves, which is all that is its own. -/
theorem Transport.deserialize_iff (entries : List (String × Value)) (transport : Transport) :
    Transport.deserialize serde (unclaimed ConnectionConfig.ownKeys entries) = some transport ↔
      transport.Written serde entries := by
  unfold deserialize
  simp (disch := simp [ConnectionConfig.ownKeys]) only [required_unclaimed, withDefault_unclaimed]
  rw [Option.bind_eq_bind, Option.bind_eq_some_iff]
  simp only [required_iff (asString_iff _)]
  constructor
  · rintro ⟨tag, named, read⟩
    split at read
    · obtain ⟨_, _, rfl, settings⟩ := (tcp_iff entries transport).mp read
      exact ⟨named, settings⟩
    · obtain ⟨_, _, _, _, _, _, rfl, settings⟩ := (rtu_iff entries transport).mp read
      exact ⟨named, settings⟩
    · cases read
  · intro written
    cases transport with
    | tcp =>
      obtain ⟨named, settings⟩ := written
      exact ⟨_, named, (tcp_iff entries _).mpr ⟨_, _, rfl, settings⟩⟩
    | rtu =>
      obtain ⟨named, settings⟩ := written
      exact ⟨_, named, (rtu_iff entries _).mpr ⟨_, _, _, _, _, _, rfl, settings⟩⟩

theorem ConnectionConfig.deserialize_iff (entries : List (String × Value))
    (conn : ConnectionConfig) :
    ConnectionConfig.deserialize serde entries = some conn ↔ conn.Written serde entries := by
  simp only [deserialize, Option.bind_eq_bind, Option.bind_eq_some_iff,
    required_iff (asString_iff _), required_iff (asU64_iff _), withDefault_iff (asU64_iff _),
    required_all_iff DeviceConfig.deserialize_iff, Transport.deserialize_iff, Option.pure_def,
    Option.some.injEq]
  constructor
  · rintro ⟨_, id, _, interval, _, timeout, _, least, _, greatest, _, devices, _, transport, rfl⟩
    exact ⟨id, transport, interval, timeout, least, greatest, devices⟩
  · rintro ⟨id, transport, interval, timeout, least, greatest, devices⟩
    exact ⟨_, id, _, interval, _, timeout, _, least, _, greatest, _, devices, _, transport, rfl⟩

theorem GatewayConfig.deserialize_iff (value : Value) (gateway : GatewayConfig) :
    GatewayConfig.deserialize serde value = some gateway ↔
      AsStruct serde "GatewayConfig" GatewayConfig.Written gateway value := by
  apply asStruct_iff
  intro entries gateway
  simp only [Option.bind_eq_bind, Option.bind_eq_some_iff, required_iff (asString_iff _),
    required_iff (asU64_iff _), withDefault_iff (asString_iff _), withDefault_iff (asU64_iff _),
    Option.pure_def, Option.some.injEq]
  constructor
  · rintro ⟨_, id, _, window, _, baseName, _, level, _, path, _, debounce, _, heartbeat, rfl⟩
    exact ⟨id, window, baseName, level, path, debounce, heartbeat⟩
  · rintro ⟨id, window, baseName, level, path, debounce, heartbeat⟩
    exact ⟨_, id, _, window, _, baseName, _, level, _, path, _, debounce, _, heartbeat, rfl⟩

theorem MqttConfig.deserialize_iff (value : Value) (mqtt : MqttConfig) :
    MqttConfig.deserialize serde value = some mqtt ↔
      AsStruct serde "MqttConfig" MqttConfig.Written mqtt value := by
  apply asStruct_iff
  intro entries mqtt
  simp only [Option.bind_eq_bind, Option.bind_eq_some_iff, required_iff (asString_iff _),
    required_iff (asU16_iff _), required_iff (asBool_iff _), withDefault_iff (asU8_iff _),
    required_iff (asU64_iff _), Option.pure_def, Option.some.injEq]
  constructor
  · rintro ⟨_, host, _, port, _, client, _, tls, _, cert, _, user, _, password, _, qos, _,
      keepAlive, _, template, rfl⟩
    exact ⟨host, port, client, tls, cert, user, password, qos, keepAlive, template⟩
  · rintro ⟨host, port, client, tls, cert, user, password, qos, keepAlive, template⟩
    exact ⟨_, host, _, port, _, client, _, tls, _, cert, _, user, _, password, _, qos, _,
      keepAlive, _, template, rfl⟩

theorem Config.deserialize_iff (entries : List (String × Value)) (config : Config) :
    Config.deserialize serde entries = some config ↔ config.Written serde entries := by
  simp only [deserialize, Option.bind_eq_bind, Option.bind_eq_some_iff,
    required_some_iff (GatewayConfig.deserialize_iff · _),
    required_some_iff (MqttConfig.deserialize_iff · _),
    required_all_iff (asTable_iff ConnectionConfig.deserialize_iff), Option.pure_def,
    Option.some.injEq]
  constructor
  · rintro ⟨_, gateway, _, mqtt, _, connections, rfl⟩
    exact ⟨gateway, mqtt, connections⟩
  · rintro ⟨gateway, mqtt, connections⟩
    exact ⟨_, gateway, _, mqtt, _, connections, rfl⟩

end

/-! ### Writing a configuration -/

def PointConfig.entries (p : PointConfig) : List (String × Value) :=
  [("name", .string p.name), ("offset", .integer p.offset.toNat),
    ("data_type", .string p.dataType.variant), ("scale", .float p.scale),
    ("absolute", .boolean p.absolute), ("unit", .string p.unit)]

def BlockConfig.entries (block : BlockConfig) : List (String × Value) :=
  [("function", .string block.function.variant), ("start", .integer block.start.toNat),
    ("count", .integer block.count.toNat), ("word_order", .string block.wordOrder.variant),
    ("point", .array (block.points.map fun p => .table p.entries))]

def DeviceConfig.entries (device : DeviceConfig) : List (String × Value) :=
  [("id", .string device.id), ("unit_id", .integer device.unitId.toNat),
    ("block", .array (device.blocks.map fun block => .table block.entries))]

def Transport.entries : Transport → List (String × Value)
  | .tcp host port =>
    [("transport", .string "tcp"), ("host", .string host), ("port", .integer port.toNat)]
  | .rtu serialPort baudRate dataBits parity stopBits interFrameDelayMs =>
    [("transport", .string "rtu"), ("serial_port", .string serialPort),
      ("baud_rate", .integer baudRate.toNat), ("data_bits", .integer dataBits.toNat),
      ("parity", .string parity.variant), ("stop_bits", .integer stopBits.toNat),
      ("inter_frame_delay_ms", .integer interFrameDelayMs.toNat)]

def ConnectionConfig.entries (conn : ConnectionConfig) : List (String × Value) :=
  [("id", .string conn.id), ("poll_interval_secs", .integer conn.pollIntervalSecs.toNat),
    ("io_timeout_ms", .integer conn.ioTimeoutMs.toNat),
    ("reconnect_backoff_min_secs", .integer conn.reconnectBackoffMinSecs.toNat),
    ("reconnect_backoff_max_secs", .integer conn.reconnectBackoffMaxSecs.toNat),
    ("device", .array (conn.devices.map fun device => .table device.entries))] ++
  conn.transport.entries

def GatewayConfig.entries (gateway : GatewayConfig) : List (String × Value) :=
  [("id", .string gateway.id),
    ("aggregation_window_secs", .integer gateway.aggregationWindowSecs.toNat),
    ("base_name_prefix", .string gateway.baseNamePrefix),
    ("log_level", .string gateway.logLevel), ("status_file_path", .string gateway.statusFilePath),
    ("status_debounce_secs", .integer gateway.statusDebounceSecs.toNat),
    ("status_heartbeat_secs", .integer gateway.statusHeartbeatSecs.toNat)]

def MqttConfig.entries (mqtt : MqttConfig) : List (String × Value) :=
  [("broker_host", .string mqtt.brokerHost), ("broker_port", .integer mqtt.brokerPort.toNat),
    ("client_id", .string mqtt.clientId), ("tls", .boolean mqtt.tls),
    ("ca_cert_path", .string mqtt.caCertPath), ("username", .string mqtt.username),
    ("password_env", .string mqtt.passwordEnv), ("qos", .integer mqtt.qos.toNat),
    ("keep_alive_secs", .integer mqtt.keepAliveSecs.toNat),
    ("topic_template", .string mqtt.topicTemplate)]

def Config.entries (config : Config) : List (String × Value) :=
  [("gateway", .table config.gateway.entries), ("mqtt", .table config.mqtt.entries),
    ("connection", .array (config.connections.map fun conn => .table conn.entries))]

section

variable (serde : Serde)

theorem writesAll_map {α : Type} {spells : α → Value → Prop} {value : α → Value}
    (exact : ∀ a, spells a (value a)) {entries : List (String × Value)} {key : String}
    {records : List α} (writes : Writes entries key (.array (records.map value))) :
    WritesAll entries spells key records := by
  refine ⟨_, writes, ?_⟩
  rw [List.forall₂_map_right_iff, List.forall₂_same]
  exact fun a _ => exact a

/-- A struct is written as a table. -/
theorem AsStruct.of_written {α : Type} {name : String}
    {written : α → List (String × Value) → Prop} {a : α} {table : List (String × Value)}
    (writes : written a table) : AsStruct serde name written a (.table table) :=
  .inl ⟨table, rfl, writes⟩

theorem PointConfig.written_entries (p : PointConfig) : p.Written serde p.entries where
  name := rfl
  offset := rfl
  dataType := ⟨_, rfl, .inl rfl⟩
  scale := .inl ⟨_, rfl, .inl rfl⟩
  absolute := .inl rfl
  unit := rfl

theorem BlockConfig.written_entries (block : BlockConfig) :
    block.Written serde block.entries where
  function := ⟨_, rfl, .inl rfl⟩
  start := rfl
  count := rfl
  wordOrder := .inl ⟨_, rfl, .inl rfl⟩
  points := writesAll_map (fun p => .of_written serde (p.written_entries serde)) rfl

theorem DeviceConfig.written_entries (device : DeviceConfig) :
    device.Written serde device.entries where
  id := rfl
  unitId := rfl
  blocks := writesAll_map (fun block => .of_written serde (block.written_entries serde)) rfl

theorem ConnectionConfig.written_entries (conn : ConnectionConfig) :
    conn.Written serde conn.entries := by
  have devices (device : DeviceConfig) :
      AsStruct serde "DeviceConfig" (DeviceConfig.Written serde) device (.table device.entries) :=
    .of_written serde (device.written_entries serde)
  obtain ⟨id, transport, interval, timeout, least, greatest, _⟩ := conn
  cases transport with
  | tcp host port =>
    exact ⟨rfl, ⟨rfl, rfl, rfl⟩, rfl, rfl, .inl rfl, .inl rfl, writesAll_map devices rfl⟩
  | rtu serialPort baudRate dataBits parity stopBits interFrameDelayMs =>
    exact ⟨rfl, ⟨rfl, rfl, rfl, .inl rfl, .inl ⟨_, rfl, .inl rfl⟩, .inl rfl, .inl rfl⟩, rfl, rfl,
      .inl rfl, .inl rfl, writesAll_map devices rfl⟩

theorem GatewayConfig.written_entries (gateway : GatewayConfig) :
    gateway.Written gateway.entries where
  id := rfl
  aggregationWindowSecs := rfl
  baseNamePrefix := rfl
  logLevel := rfl
  statusFilePath := .inl rfl
  statusDebounceSecs := .inl rfl
  statusHeartbeatSecs := .inl rfl

theorem MqttConfig.written_entries (mqtt : MqttConfig) : mqtt.Written mqtt.entries where
  brokerHost := rfl
  brokerPort := rfl
  clientId := rfl
  tls := rfl
  caCertPath := rfl
  username := rfl
  passwordEnv := rfl
  qos := .inl rfl
  keepAliveSecs := rfl
  topicTemplate := rfl

theorem Config.written_entries (config : Config) : config.Written serde config.entries where
  gateway := ⟨_, rfl, .of_written serde config.gateway.written_entries⟩
  mqtt := ⟨_, rfl, .of_written serde config.mqtt.written_entries⟩
  connections :=
    writesAll_map (fun conn => ⟨_, rfl, conn.written_entries serde⟩) rfl

end

theorem load_ok_iff {host : Host} {serde : Serde} {readToString : String → Option String}
    {parse : String → Option (List (String × Value))} {path : String} {config : Config} :
    load host serde readToString parse path = .ok config ↔
      ∃ contents entries, readToString path = some contents ∧ parse contents = some entries ∧
        Config.deserialize serde entries = some config ∧ validate host config = .ok () := by
  unfold load
  constructor
  · intro loaded
    cases read : readToString path with
    | none =>
      rw [read] at loaded
      cases loaded
    | some contents =>
      cases deserialized : parse contents >>= Config.deserialize serde with
      | none =>
        simp only [read, deserialized] at loaded
        cases loaded
      | some config' =>
        cases accepted : validate host config' with
        | error e =>
          simp only [read, deserialized, accepted] at loaded
          cases loaded
        | ok =>
          simp only [read, deserialized, accepted] at loaded
          cases loaded
          obtain ⟨entries, parsed, readAs⟩ := Option.bind_eq_some_iff.mp deserialized
          exact ⟨contents, entries, rfl, parsed, readAs, accepted⟩
  · rintro ⟨contents, entries, read, parsed, deserialized, accepted⟩
    simp only [read, parsed, Option.bind_eq_bind, Option.bind_some, deserialized, accepted]

/-- What is loaded is exactly the well-formed configurations in writing: a file that says what one
is, in whatever order and among whatever other keys, is loaded as it, and nothing else is loaded.
Every configuration has tables that say it, whatever else the libraries would read. -/
theorem load_ok_iff_written (host : Host) (serde : Serde) (readToString : String → Option String)
    (parse : String → Option (List (String × Value))) (path : String) (config : Config) :
    (load host serde readToString parse path = .ok config ↔
      ∃ contents entries, readToString path = some contents ∧ parse contents = some entries ∧
        config.Written serde entries ∧ config.WellFormed host) ∧
    config.Written serde config.entries := by
  refine ⟨?_, config.written_entries serde⟩
  simp only [load_ok_iff, Config.deserialize_iff, validate_ok_iff]

end ModbusGateway
