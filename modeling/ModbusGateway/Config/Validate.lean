import ModbusGateway.Config.Schema
import ModbusGateway.Foundation.HashMap
import ModbusGateway.Foundation.Spans
import Mathlib.Data.List.Sort

/-!
# Configuration checks after parsing

`validate` runs the checks in the source's order and returns the first error.
The file system, the PEM reader and the log-level parser are parameters.
-/
namespace ModbusGateway

open Foundation

inductive ValidationError where
  | zeroInterval (field : String)
  | invalidQos (qos : UInt8)
  | invalidLogLevel (level : String)
  | duplicateUnitId (connection : String) (unitId : UInt8)
  | duplicateSerialPort (serialPort first second : String)
  | unsupportedSerialSetting (connection field : String) (value : UInt8) (allowed : String)
  | blockTooLarge (connection device : String) (start count : UInt16)
  | pointOutOfBounds (connection device : String) (start : UInt16) (point : String)
      (offset width count : UInt16)
  | overlappingPoints (connection device : String) (start : UInt16) (a b : String)
  | caCertUnreadable (path source : String)
  | caCertEmpty (path : String)
  | caCertUnparseable (path source : String)
  deriving DecidableEq

/-- What validation asks of its surroundings. -/
structure Host where
  parsesLevel : String → Bool
  readFile : String → Except String (List UInt8)
  pemCerts : List UInt8 → Except String (List (List UInt8))

/-- The loop over `conn.devices` that fills `seen_unit_ids`. -/
def checkUnitIds (connection : String) : List DeviceConfig → List UInt8 → Except ValidationError Unit
  | [], _ => .ok ()
  | device :: devices, seen =>
    if device.unitId ∈ seen then .error (.duplicateUnitId connection device.unitId)
    else checkUnitIds connection devices (device.unitId :: seen)

/-- The checks on `Transport::Rtu`; the result is `serial_ports` with this port entered. -/
def checkTransport (serialPorts : HashMap String String) (conn : ConnectionConfig) :
    Except ValidationError (HashMap String String) :=
  match conn.transport with
  | .tcp .. => .ok serialPorts
  | .rtu serialPort _ dataBits _ stopBits _ =>
    if ¬(5 ≤ dataBits ∧ dataBits ≤ 8) then
      .error (.unsupportedSerialSetting conn.id "data_bits" dataBits "5, 6, 7, 8")
    else if ¬(1 ≤ stopBits ∧ stopBits ≤ 2) then
      .error (.unsupportedSerialSetting conn.id "stop_bits" stopBits "1, 2")
    else match serialPorts.lookup serialPort with
      | some first => .error (.duplicateSerialPort serialPort first conn.id)
      | none => .ok (serialPorts.insert serialPort conn.id)

/-- `offset + width` in `u32`, the value the bounds check compares. -/
def PointConfig.pointEnd (p : PointConfig) : UInt32 :=
  p.offset.toUInt32 + p.dataType.wordCount.toUInt32

/-- The loop over `block.points` that fills `spans`. -/
def collectSpans (connection device : String) (block : BlockConfig) :
    List PointConfig → List (UInt16 × UInt16 × String) →
      Except ValidationError (List (UInt16 × UInt16 × String))
  | [], spans => .ok spans
  | p :: points, spans =>
    if p.pointEnd > block.count.toUInt32 then
      .error (.pointOutOfBounds connection device block.start p.name p.offset
        p.dataType.wordCount block.count)
    else
      -- The end is summed in `u16`; after the check above it fits.
      collectSpans connection device block points
        (spans ++ [(p.offset, p.offset + p.dataType.wordCount, p.name)])

/-- The loop over `spans.windows(2)`. -/
def checkNeighbours (connection device : String) (block : BlockConfig) :
    List (UInt16 × UInt16 × String) → Except ValidationError Unit
  | a :: b :: spans =>
    if b.1 < a.2.1 then
      .error (.overlappingPoints connection device block.start a.2.2 b.2.2)
    else checkNeighbours connection device block (b :: spans)
  | _ => .ok ()

/-- The body of the loop over `device.blocks`. -/
def checkBlock (connection device : String) (block : BlockConfig) : Except ValidationError Unit :=
  if block.count > 125 then
    .error (.blockTooLarge connection device block.start block.count)
  else do
    let spans ← collectSpans connection device block block.points []
    checkNeighbours connection device block (spans.insertionSort fun s t => s.1 ≤ t.1)

/-- The body of the loop over `config.connections`, with `serial_ports` passed along. -/
def validateConnection (serialPorts : HashMap String String) (conn : ConnectionConfig) :
    Except ValidationError (HashMap String String) :=
  if conn.pollIntervalSecs = 0 then
    .error (.zeroInterval s!"connection '{conn.id}': poll_interval_secs")
  else do
    -- The source passes over the devices twice: all unit ids come before any block.
    checkUnitIds conn.id conn.devices []
    let serialPorts ← checkTransport serialPorts conn
    conn.devices.forM fun device => device.blocks.forM (checkBlock conn.id device.id)
    return serialPorts

def validateCaCert (host : Host) (path : String) : Except ValidationError Unit :=
  match host.readFile path with
  | .error source => .error (.caCertUnreadable path source)
  | .ok bytes =>
    match host.pemCerts bytes with
    | .error source => .error (.caCertUnparseable path source)
    | .ok certs => if certs.isEmpty then .error (.caCertEmpty path) else .ok ()

def validate (host : Host) (config : Config) : Except ValidationError Unit :=
  if config.gateway.aggregationWindowSecs = 0 then
    .error (.zeroInterval "gateway.aggregation_window_secs")
  else if ¬host.parsesLevel config.gateway.logLevel then
    .error (.invalidLogLevel config.gateway.logLevel)
  else if config.mqtt.qos > 2 then
    .error (.invalidQos config.mqtt.qos)
  else do
    -- `serial_ports` is not read again after the loop.
    let _ ← config.connections.foldlM validateConnection ∅
    validateCaCert host config.mqtt.caCertPath

end ModbusGateway
