import ModbusGateway.Config.WellFormed

/-!
# Opening a connection

`connect` with the settings it gives a serial port. What the network and the
serial ports answer is a parameter. An unsupported setting is an error here too,
although validation has rejected it before.
-/
namespace ModbusGateway

inductive DataBits where
  | five
  | six
  | seven
  | eight
  deriving DecidableEq

inductive StopBits where
  | one
  | two
  deriving DecidableEq

/-- The size in bits, as the file has it. -/
def DataBits.bits : DataBits → UInt8
  | .five => 5
  | .six => 6
  | .seven => 7
  | .eight => 8

def StopBits.bits : StopBits → UInt8
  | .one => 1
  | .two => 2

/-- `io::Error`, by its kind; the text is kept where the source makes it. -/
inductive ConnectError where
  | notFound (message : String)
  | timedOut (message : String)
  | invalidInput (message : String)
  | system
  deriving DecidableEq

def serialDataBits (bits : UInt8) : Except ConnectError DataBits :=
  match bits with
  | 5 => .ok .five
  | 6 => .ok .six
  | 7 => .ok .seven
  | 8 => .ok .eight
  | _ => .error (.invalidInput s!"unsupported data_bits {bits}")

def serialStopBits (bits : UInt8) : Except ConnectError StopBits :=
  match bits with
  | 1 => .ok .one
  | 2 => .ok .two
  | _ => .error (.invalidInput s!"unsupported stop_bits {bits}")

/-- What a serial port is opened with; the library's parity is that of the file. -/
structure SerialPortBuilder where
  path : String
  baudRate : UInt32
  dataBits : DataBits
  parity : Parity
  stopBits : StopBits
  deriving DecidableEq

structure SocketAddr where
  display : String

/-- What `connect` meets. -/
structure Surroundings where
  -- None where the name is not resolved.
  lookupHost : String → UInt16 → Option (List SocketAddr)
  reaches : SocketAddr → Bool
  inTime : Bool
  openSerial : SerialPortBuilder → Bool

section

variable (surroundings : Surroundings)

def connect : Transport → Except ConnectError Unit
  | .tcp host port =>
    -- The timeout is for both the lookup and the connect.
    if ¬surroundings.inTime then .error (.timedOut "connect timed out")
    else match surroundings.lookupHost host port with
      | none => .error .system
      | some [] => .error (.notFound s!"no address for {host}")
      -- Only the first address is tried.
      | some (address :: _) => if surroundings.reaches address then .ok () else .error .system
  | .rtu serialPort baudRate dataBits parity stopBits _ => do
    let dataBits ← serialDataBits dataBits
    let stopBits ← serialStopBits stopBits
    if surroundings.openSerial ⟨serialPort, baudRate, dataBits, parity, stopBits⟩ then .ok ()
    else .error .system

end

theorem serialDataBits_of_supported {bits : UInt8} (supported : 5 ≤ bits ∧ bits ≤ 8) :
    ∃ dataBits, serialDataBits bits = .ok dataBits ∧ dataBits.bits = bits := by
  obtain ⟨least, greatest⟩ := supported
  have cases : bits = 5 ∨ bits = 6 ∨ bits = 7 ∨ bits = 8 := by
    have least := UInt8.le_iff_toNat_le.mp least
    have greatest := UInt8.le_iff_toNat_le.mp greatest
    simp only [← UInt8.toNat_inj] at *
    simp at *
    omega
  rcases cases with rfl | rfl | rfl | rfl <;> exact ⟨_, rfl, rfl⟩

theorem serialStopBits_of_supported {bits : UInt8} (supported : 1 ≤ bits ∧ bits ≤ 2) :
    ∃ stopBits, serialStopBits bits = .ok stopBits ∧ stopBits.bits = bits := by
  obtain ⟨least, greatest⟩ := supported
  have cases : bits = 1 ∨ bits = 2 := by
    have least := UInt8.le_iff_toNat_le.mp least
    have greatest := UInt8.le_iff_toNat_le.mp greatest
    simp only [← UInt8.toNat_inj] at *
    simp at *
    omega
  rcases cases with rfl | rfl <;> exact ⟨_, rfl, rfl⟩

/-- An accepted serial port is opened with the settings of the file, and that alone decides. -/
theorem connect_rtu (surroundings : Surroundings) {serialPort : String}
    {baudRate : UInt32} {dataBits : UInt8} {parity : Parity} {stopBits : UInt8}
    {interFrameDelayMs : UInt64}
    (wellFormed : Transport.WellFormed
      (.rtu serialPort baudRate dataBits parity stopBits interFrameDelayMs)) :
    ∃ builder : SerialPortBuilder, builder.path = serialPort ∧ builder.baudRate = baudRate ∧
      builder.dataBits.bits = dataBits ∧ builder.parity = parity ∧
      builder.stopBits.bits = stopBits ∧
      connect surroundings (.rtu serialPort baudRate dataBits parity stopBits interFrameDelayMs) =
        if surroundings.openSerial builder then .ok () else .error .system := by
  obtain ⟨data, foundData, ofData⟩ := serialDataBits_of_supported wellFormed.1
  obtain ⟨stop, foundStop, ofStop⟩ := serialStopBits_of_supported wellFormed.2
  refine ⟨⟨serialPort, baudRate, data, parity, stop⟩, rfl, rfl, ofData, rfl, ofStop, ?_⟩
  simp only [connect, foundData, foundStop]
  rfl

end ModbusGateway
