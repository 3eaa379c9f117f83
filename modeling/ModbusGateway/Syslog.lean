import ModbusGateway.Status.State
import ModbusGateway.Time

/-!
# The syslog layer

`SyslogLayer::emit` with the connection it keeps. What the system answers to an
open and to a send is part of the input. Adding to an instant and doubling a
duration panic where the result has no representation; the connection is then
left as it was at that point, and the layer goes on with it.
-/
namespace ModbusGateway

/-- Levels of `tracing`. -/
inductive Level where
  | error
  | warn
  | info
  | debug
  | trace
  deriving DecidableEq

def Level.name : Level → String
  | .error => "ERROR"
  | .warn => "WARN"
  | .info => "INFO"
  | .debug => "DEBUG"
  | .trace => "TRACE"

/-- RFC 3164 facility `daemon`. -/
def facilityDaemon : UInt8 := 3

def severity : Level → UInt8
  | .error => 3
  | .warn => 4
  | .info => 6
  | .debug | .trace => 7

/-- An open socket, by its descriptor. -/
structure UnixDatagram where
  fd : Nat
  deriving DecidableEq

inductive SendOutcome where
  | sent
  | wouldBlock
  | failed
  deriving DecidableEq

/-- The connection to syslog; `socketPath` is the path it is opened at. -/
structure SyslogConnection where
  socketPath : String
  socket : Option UnixDatagram
  min : Duration
  max : Duration
  backoff : Duration
  nextAttempt : Instant
  deriving DecidableEq

namespace SyslogConnection

/-- A panic leaves the connection half changed, which is the error here. -/
def tryConnect (latest : Instant) (conn : SyslogConnection) (now : Instant)
    (opened : Option UnixDatagram) : Except SyslogConnection SyslogConnection :=
  match opened with
  | some socket => .ok { conn with socket := some socket, backoff := conn.min }
  | none =>
    -- `next_attempt` is written before the backoff is doubled.
    match Instant.add? latest now conn.backoff with
    | none => .error conn
    | some nextAttempt =>
      match conn.backoff.mul? 2 with
      | none => .error { conn with nextAttempt }
      | some doubled => .ok { conn with nextAttempt, backoff := doubled.min conn.max }

/-- `Connection::new`, which reads the clock for the first attempt after it read it for
`next_attempt`. -/
def new (latest : Instant) (socketPath : String) (min max : Duration) (created now : Instant)
    (opened : Option UnixDatagram) : Except SyslogConnection SyslogConnection :=
  tryConnect latest ⟨socketPath, none, min, max, min, created⟩ now opened

/-- Whether `socket` tries to connect. -/
def due (conn : SyslogConnection) (now : Instant) : Bool :=
  conn.socket.isNone && decide (conn.nextAttempt.nanos ≤ now.nanos)

/-- `Connection::socket` up to the socket it returns, which is that of the result. -/
def retry (latest : Instant) (conn : SyslogConnection) (now : Instant)
    (opened : Option UnixDatagram) : Except SyslogConnection SyslogConnection :=
  if conn.due now then conn.tryConnect latest now opened else .ok conn

/-- Drops a socket whose peer went away. -/
def disconnect (latest : Instant) (conn : SyslogConnection) (now : Instant) :
    Except SyslogConnection SyslogConnection :=
  -- The socket is gone already when the addition panics.
  let conn := { conn with socket := none, backoff := conn.min }
  match Instant.add? latest now conn.min with
  | none => .error conn
  | some nextAttempt => .ok { conn with nextAttempt }

end SyslogConnection

/-- What reaches the two sinks of a message. -/
structure Emission where
  syslog : List String
  fallback : List String
  panicked : Bool
  deriving DecidableEq

structure SyslogLayer where
  tag : String
  pid : UInt32
  deriving DecidableEq

section

variable (formatTimestamp : OffsetDateTime → String)

def formatRfc3164 (level : Level) (timestamp : OffsetDateTime) (tag : String) (pid : UInt32)
    (msg : String) : String :=
  let pri := facilityDaemon * 8 + severity level
  s!"<{pri.toNat}>{formatTimestamp timestamp} {tag}[{pid.toNat}]: {msg}"

def fallbackLine (level : Level) (msg : String) : String :=
  s!"{level.name.leftpad 5} {msg}\n"

/-- What a call of the layer is about, with what it reads from the clocks and what the system
answers where it is asked. -/
inductive SyslogCall where
  | new (socketPath : String) (created now : Instant) (opened : Option UnixDatagram)
  | emit (level : Level) (msg : String) (now : Instant) (utc : OffsetDateTime)
      (opened : Option UnixDatagram) (outcome : SendOutcome)

/-- What a call did: when, whether it tried to connect and with success, what it sent on which
socket, and where its message went. -/
structure SyslogTurn where
  time : Instant
  attempt : Option Bool
  sent : Option (UnixDatagram × SendOutcome)
  emission : Emission

namespace SyslogLayer

def emit (latest : Instant) (layer : SyslogLayer) (conn : SyslogConnection) (level : Level)
    (msg : String) (now : Instant) (utc : OffsetDateTime) (opened : Option UnixDatagram)
    (outcome : SendOutcome) : SyslogConnection × SyslogTurn :=
  let attempt := if conn.due now then some opened.isSome else none
  match conn.retry latest now opened with
  | .error conn => (conn, ⟨now, attempt, none, [], [], true⟩)
  | .ok conn =>
    match conn.socket with
    | none => (conn, ⟨now, attempt, none, [], [fallbackLine level msg], false⟩)
    | some socket =>
      let line := formatRfc3164 formatTimestamp level utc layer.tag layer.pid msg
      match outcome with
      -- Only a line that was sent returns before the fallback is written.
      | .sent => (conn, ⟨now, attempt, some (socket, outcome), [line], [], false⟩)
      | .wouldBlock =>
        (conn, ⟨now, attempt, some (socket, outcome), [], [fallbackLine level msg], false⟩)
      | .failed =>
        match conn.disconnect latest now with
        | .error conn => (conn, ⟨now, attempt, some (socket, outcome), [], [], true⟩)
        | .ok conn =>
          (conn, ⟨now, attempt, some (socket, outcome), [], [fallbackLine level msg], false⟩)

variable (latest : Instant) (layer : SyslogLayer) (retryMin retryMax : Duration)

/-- One call. The layer is there once `new` has returned. -/
def next : Option SyslogConnection → SyslogCall → Option (Option SyslogConnection × SyslogTurn)
  | none, .new socketPath created now opened =>
    match SyslogConnection.new latest socketPath retryMin retryMax created now opened with
    | .ok conn => some (some conn, ⟨now, some opened.isSome, none, [], [], false⟩)
    | .error _ => some (none, ⟨now, some opened.isSome, none, [], [], true⟩)
  | some conn, .emit level msg now utc opened outcome =>
    let (conn, turn) := emit formatTimestamp latest layer conn level msg now utc opened outcome
    some (some conn, turn)
  | _, _ => none

/-- Calls labelled with what they did. -/
def Step (conn : Option SyslogConnection) (event : SyslogCall × SyslogTurn)
    (conn' : Option SyslogConnection) : Prop :=
  next formatTimestamp latest layer retryMin retryMax conn event.1 = some (conn', event.2)

end SyslogLayer

end

end ModbusGateway
