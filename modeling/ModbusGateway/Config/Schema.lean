import ModbusGateway.F64

/-!
# The configuration file

One structure per table of the TOML file, with the source's fields and the
ranges their integer types give them.
-/
namespace ModbusGateway

structure GatewayConfig where
  id : String
  aggregationWindowSecs : UInt64
  baseNamePrefix : String
  logLevel : String
  statusFilePath : String
  statusDebounceSecs : UInt64
  statusHeartbeatSecs : UInt64

structure MqttConfig where
  brokerHost : String
  brokerPort : UInt16
  clientId : String
  tls : Bool
  caCertPath : String
  username : String
  passwordEnv : String
  qos : UInt8
  keepAliveSecs : UInt64
  topicTemplate : String

inductive Parity where
  | none
  | even
  | odd
  deriving DecidableEq

inductive Transport where
  | tcp (host : String) (port : UInt16)
  | rtu (serialPort : String) (baudRate : UInt32) (dataBits : UInt8) (parity : Parity)
      (stopBits : UInt8) (interFrameDelayMs : UInt64)
  deriving DecidableEq

/-- The serial device of an RTU connection. -/
def Transport.serialPort? : Transport → Option String
  | .tcp .. => none
  | .rtu serialPort .. => some serialPort

/-- The register table a block is read from. -/
inductive Function where
  | holding
  | input
  deriving DecidableEq

inductive WordOrder where
  | bigEndian
  | littleEndian
  deriving DecidableEq

inductive DataType where
  | u16
  | i16
  | u32
  | i32
  | f32
  deriving DecidableEq

/-- Number of 16-bit registers this type occupies. -/
def DataType.wordCount : DataType → UInt16
  | .u16 | .i16 => 1
  | .u32 | .i32 | .f32 => 2

structure PointConfig where
  name : String
  offset : UInt16
  dataType : DataType
  scale : F64
  absolute : Bool
  unit : String
  deriving DecidableEq

structure BlockConfig where
  function : Function
  start : UInt16
  count : UInt16
  wordOrder : WordOrder
  points : List PointConfig
  deriving DecidableEq

structure DeviceConfig where
  id : String
  unitId : UInt8
  blocks : List BlockConfig
  deriving DecidableEq

structure ConnectionConfig where
  id : String
  transport : Transport
  pollIntervalSecs : UInt64
  ioTimeoutMs : UInt64
  reconnectBackoffMinSecs : UInt64
  reconnectBackoffMaxSecs : UInt64
  devices : List DeviceConfig
  deriving DecidableEq

structure Config where
  gateway : GatewayConfig
  mqtt : MqttConfig
  connections : List ConnectionConfig

namespace DataType

theorem wordCount_cases (t : DataType) : t.wordCount.toNat = 1 ∨ t.wordCount.toNat = 2 := by
  cases t <;> simp [wordCount]

theorem wordCount_pos (t : DataType) : 0 < t.wordCount.toNat := by
  rcases wordCount_cases t with h | h <;> omega

end DataType

end ModbusGateway
