import ModbusGateway.Config.Validate
import ModbusGateway.Foundation.Record

/-!
# From TOML to the configuration

The derived `Deserialize` of each table, and `load`. There is no result where
the source returns the library's error. No table denies unknown fields. What the
libraries read beside the usual notation is a parameter.
-/
namespace ModbusGateway

open Foundation

/-- A parsed TOML value, with integers of any size. -/
inductive Value where
  | string (text : String)
  | integer (value : ℤ)
  | float (value : F64)
  | boolean (value : Bool)
  | datetime (text : String)
  | array (values : List Value)
  | table (entries : List (String × Value))

/-- What `serde` and `toml` make of two notations that are not the usual ones, for a type of this
name: of an array where a struct is expected, as the table of its fields, and of a table where a
variant without fields is, as the name of the variant. -/
structure Serde where
  structOfArray : String → List Value → Option (List (String × Value))
  variantOfTable : String → List (String × Value) → Option String

/-- Nothing is read but the usual notation. -/
def Serde.usual : Serde where
  structOfArray _ _ := none
  variantOfTable _ _ := none

namespace Value

variable {α : Type}

def asString : Value → Option String
  | .string text => some text
  | _ => none

def asBool : Value → Option Bool
  | .boolean value => some value
  | _ => none

def asF64 : Value → Option F64
  | .float value => some value
  | .integer value => some (.ofInt value)
  | _ => none

/-- An integer type of a width. -/
def asUnsigned (size : Nat) (ofNat : Nat → α) : Value → Option α
  | .integer value => if 0 ≤ value ∧ value < size then some (ofNat value.toNat) else none
  | _ => none

def asU8 : Value → Option UInt8 := asUnsigned UInt8.size UInt8.ofNat
def asU16 : Value → Option UInt16 := asUnsigned UInt16.size UInt16.ofNat
def asU32 : Value → Option UInt32 := asUnsigned UInt32.size UInt32.ofNat
def asU64 : Value → Option UInt64 := asUnsigned UInt64.size UInt64.ofNat

def asVec (element : Value → Option α) : Value → Option (List α)
  | .array values => values.mapM element
  | _ => none

/-- A struct with a flattened field, which is read from a table only. -/
def asTable (read : List (String × Value) → Option α) : Value → Option α
  | .table entries => read entries
  | _ => none

variable (serde : Serde) (name : String)

/-- Any other struct. -/
def asStruct (read : List (String × Value) → Option α) : Value → Option α
  | .table entries => read entries
  | .array values => serde.structOfArray name values >>= read
  | _ => none

/-- A variant without fields, by its name. -/
def asVariant (variants : List (String × α)) : Value → Option α
  | .string variant => variants.lookup variant
  | .table entries => serde.variantOfTable name entries >>= (variants.lookup ·)
  | _ => none

end Value

section

variable (serde : Serde)

def Parity.deserialize : Value → Option Parity :=
  Value.asVariant serde "Parity" [("none", .none), ("even", .even), ("odd", .odd)]

def Function.deserialize : Value → Option Function :=
  Value.asVariant serde "Function" [("holding", .holding), ("input", .input)]

def WordOrder.deserialize : Value → Option WordOrder :=
  Value.asVariant serde "WordOrder" [("big_endian", .bigEndian), ("little_endian", .littleEndian)]

def DataType.deserialize : Value → Option DataType :=
  Value.asVariant serde "DataType"
    [("u16", .u16), ("i16", .i16), ("u32", .u32), ("i32", .i32), ("f32", .f32)]

def defaultScale : F64 := .finite 1

def PointConfig.deserialize : Value → Option PointConfig :=
  Value.asStruct serde "PointConfig" fun entries => do
    let name ← required Value.asString entries "name"
    let offset ← required Value.asU16 entries "offset"
    let dataType ← required (DataType.deserialize serde) entries "data_type"
    let scale ← withDefault Value.asF64 defaultScale entries "scale"
    let absolute ← withDefault Value.asBool false entries "absolute"
    let unit ← required Value.asString entries "unit"
    return { name, offset, dataType, scale, absolute, unit }

def BlockConfig.deserialize : Value → Option BlockConfig :=
  Value.asStruct serde "BlockConfig" fun entries => do
    let function ← required (Function.deserialize serde) entries "function"
    let start ← required Value.asU16 entries "start"
    let count ← required Value.asU16 entries "count"
    let wordOrder ← withDefault (WordOrder.deserialize serde) .bigEndian entries "word_order"
    let points ← required (Value.asVec (PointConfig.deserialize serde)) entries "point"
    return { function, start, count, wordOrder, points }

def DeviceConfig.deserialize : Value → Option DeviceConfig :=
  Value.asStruct serde "DeviceConfig" fun entries => do
    let id ← required Value.asString entries "id"
    let unitId ← required Value.asU8 entries "unit_id"
    let blocks ← required (Value.asVec (BlockConfig.deserialize serde)) entries "block"
    return { id, unitId, blocks }

def defaultDataBits : UInt8 := 8

def defaultStopBits : UInt8 := 1

/-- The variant that the tag names reads its fields from the other entries. -/
def Transport.deserialize (entries : List (String × Value)) : Option Transport := do
  let transport ← required Value.asString entries "transport"
  let content := unclaimed ["transport"] entries
  match transport with
  -- Each variant takes its own keys; what else is in the content is ignored.
  | "tcp" =>
    let host ← required Value.asString content "host"
    let port ← required Value.asU16 content "port"
    return .tcp host port
  | "rtu" =>
    let serialPort ← required Value.asString content "serial_port"
    let baudRate ← required Value.asU32 content "baud_rate"
    let dataBits ← withDefault Value.asU8 defaultDataBits content "data_bits"
    let parity ← withDefault (Parity.deserialize serde) .none content "parity"
    let stopBits ← withDefault Value.asU8 defaultStopBits content "stop_bits"
    let interFrameDelayMs ← withDefault Value.asU64 0 content "inter_frame_delay_ms"
    return .rtu serialPort baudRate dataBits parity stopBits interFrameDelayMs
  | _ => none

def defaultBackoffMinSecs : UInt64 := 1

def defaultBackoffMaxSecs : UInt64 := 30

/-- The keys of `ConnectionConfig` itself; `transport` is flattened and gets the others. -/
def ConnectionConfig.ownKeys : List String :=
  ["id", "poll_interval_secs", "io_timeout_ms", "reconnect_backoff_min_secs",
    "reconnect_backoff_max_secs", "device"]

def ConnectionConfig.deserialize (entries : List (String × Value)) : Option ConnectionConfig := do
  let id ← required Value.asString entries "id"
  let pollIntervalSecs ← required Value.asU64 entries "poll_interval_secs"
  let ioTimeoutMs ← required Value.asU64 entries "io_timeout_ms"
  let reconnectBackoffMinSecs ←
    withDefault Value.asU64 defaultBackoffMinSecs entries "reconnect_backoff_min_secs"
  let reconnectBackoffMaxSecs ←
    withDefault Value.asU64 defaultBackoffMaxSecs entries "reconnect_backoff_max_secs"
  let devices ← required (Value.asVec (DeviceConfig.deserialize serde)) entries "device"
  -- A flattened field comes after the others, whatever its place in the declaration.
  let transport ← Transport.deserialize serde (unclaimed ConnectionConfig.ownKeys entries)
  return { id, transport, pollIntervalSecs, ioTimeoutMs, reconnectBackoffMinSecs,
           reconnectBackoffMaxSecs, devices }

def defaultStatusFilePath : String := "/dev/container_config/status"

def defaultStatusDebounceSecs : UInt64 := 2

def defaultStatusHeartbeatSecs : UInt64 := 30

def GatewayConfig.deserialize : Value → Option GatewayConfig :=
  Value.asStruct serde "GatewayConfig" fun entries => do
    let id ← required Value.asString entries "id"
    let aggregationWindowSecs ← required Value.asU64 entries "aggregation_window_secs"
    let baseNamePrefix ← required Value.asString entries "base_name_prefix"
    let logLevel ← required Value.asString entries "log_level"
    let statusFilePath ←
      withDefault Value.asString defaultStatusFilePath entries "status_file_path"
    let statusDebounceSecs ←
      withDefault Value.asU64 defaultStatusDebounceSecs entries "status_debounce_secs"
    let statusHeartbeatSecs ←
      withDefault Value.asU64 defaultStatusHeartbeatSecs entries "status_heartbeat_secs"
    return { id, aggregationWindowSecs, baseNamePrefix, logLevel, statusFilePath,
             statusDebounceSecs, statusHeartbeatSecs }

def defaultQos : UInt8 := 1

def MqttConfig.deserialize : Value → Option MqttConfig :=
  Value.asStruct serde "MqttConfig" fun entries => do
    let brokerHost ← required Value.asString entries "broker_host"
    let brokerPort ← required Value.asU16 entries "broker_port"
    let clientId ← required Value.asString entries "client_id"
    let tls ← required Value.asBool entries "tls"
    let caCertPath ← required Value.asString entries "ca_cert_path"
    let username ← required Value.asString entries "username"
    let passwordEnv ← required Value.asString entries "password_env"
    let qos ← withDefault Value.asU8 defaultQos entries "qos"
    let keepAliveSecs ← required Value.asU64 entries "keep_alive_secs"
    let topicTemplate ← required Value.asString entries "topic_template"
    return { brokerHost, brokerPort, clientId, tls, caCertPath, username, passwordEnv, qos,
             keepAliveSecs, topicTemplate }

def Config.deserialize (entries : List (String × Value)) : Option Config := do
  let gateway ← required (GatewayConfig.deserialize serde) entries "gateway"
  let mqtt ← required (MqttConfig.deserialize serde) entries "mqtt"
  let connections ←
    required (Value.asVec (Value.asTable (ConnectionConfig.deserialize serde))) entries "connection"
  return { gateway, mqtt, connections }

end

/-- The errors of the file system and of the TOML library are left out. -/
inductive ConfigError where
  | read (path : String)
  | parse (path : String)
  | validation (error : ValidationError)
  deriving DecidableEq

/-- `readToString` reads a file, and `parse` is the library's parser of TOML texts. -/
def load (host : Host) (serde : Serde) (readToString : String → Option String)
    (parse : String → Option (List (String × Value))) (path : String) :
    Except ConfigError Config :=
  match readToString path with
  | none => .error (.read path)
  | some contents =>
    match parse contents >>= Config.deserialize serde with
    | none => .error (.parse path)
    | some config =>
      match validate host config with
      | .error error => .error (.validation error)
      | .ok () => .ok config

end ModbusGateway
