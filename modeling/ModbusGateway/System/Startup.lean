import ModbusGateway.Aggregator.Schedule
import ModbusGateway.Config.Written
import ModbusGateway.Modbus.Connect
import ModbusGateway.System

/-!
# From the command line to the running gateway

`main`, with the part of `run` before it spawns its tasks. What the process
finds outside is a parameter, and so is under which client ids the MQTT library
lets a session last: it panics where it does not.
-/
namespace ModbusGateway

open Foundation

def defaultConfigPath : String := "/etc/modbus-gateway/config.toml"

/-- What the process finds when it starts. -/
structure Process where
  host : Host
  serde : Serde
  readToString : String → Option String
  parseToml : String → Option (List (String × Value))
  -- None where the variable is not set, or is no text.
  var : String → Option String
  installsHandler : Bool
  -- Files as they are after validation.
  read : String → Except String (List UInt8)
  keepsSession : String → Bool

/-! ### The set-up of the MQTT client -/

def maxPacketSize : Nat := 256 * 1024

structure LastWill where
  topic : String
  message : String
  qos : QoS
  retain : Bool
  deriving DecidableEq

inductive MqttTransport where
  | tcp
  -- With the only certificates that are trusted.
  | tls (ca : List UInt8)
  deriving DecidableEq

structure MqttOptions where
  clientId : String
  brokerHost : String
  brokerPort : UInt16
  cleanSession : Bool
  keepAlive : Duration
  credentials : String × String
  maxIncomingPacketSize : Nat
  maxOutgoingPacketSize : Nat
  lastWill : LastWill
  transport : MqttTransport
  deriving DecidableEq

/-- `MqttSetupError` with the errors of what `run` does itself. -/
inductive SetupError where
  | passwordMissing (var : String)
  | caCert (path source : String)
  | qos (error : MqttSetupError)

section

variable (process : Process)

def readPassword (cfg : MqttConfig) : Except SetupError String :=
  match process.var cfg.passwordEnv with
  | some password => .ok password
  | none => .error (.passwordMissing cfg.passwordEnv)

/-- The options under a transport. -/
def MqttConfig.options (cfg : MqttConfig) (gatewayId password : String)
    (transport : MqttTransport) : MqttOptions where
  clientId := cfg.clientId
  brokerHost := cfg.brokerHost
  brokerPort := cfg.brokerPort
  cleanSession := false
  keepAlive := .fromSecs cfg.keepAliveSecs
  credentials := (cfg.username, password)
  maxIncomingPacketSize := maxPacketSize
  maxOutgoingPacketSize := maxPacketSize
  lastWill := ⟨statusTopic gatewayId, offline, .atLeastOnce, true⟩
  transport

/-- No result where `set_clean_session(false)` panics. -/
def buildMqttOptions (cfg : MqttConfig) (gatewayId password : String) :
    Option (Except SetupError MqttOptions) :=
  if ¬process.keepsSession cfg.clientId then none
  else if cfg.tls then
    -- Validation has read the file before; it may be gone since.
    match process.read cfg.caCertPath with
    | .error source => some (.error (.caCert cfg.caCertPath source))
    | .ok ca => some (.ok (cfg.options gatewayId password (.tls ca)))
  else some (.ok (cfg.options gatewayId password .tcp))

/-- What `run` does before any task starts. -/
def setUp (config : Config) : Option (Except SetupError MqttOptions) :=
  match readPassword process config.mqtt with
  | .error e => some (.error e)
  | .ok password =>
    match buildMqttOptions process config.mqtt config.gateway.id password with
    | some (.ok options) =>
      match qos config.mqtt.qos with
      | .ok _ => some (.ok options)
      | .error e => some (.error (.qos e))
    | failed => failed

/-- How far the process comes. -/
inductive Launch where
  | configError (error : ConfigError)
  | handlerMissing
  | setupFailed (error : SetupError)
  | panicked
  | running (config : Config) (options : MqttOptions)

/-- `main` up to where `run` spawns its tasks; the argument is the path on the command line. -/
def main (arg : Option String) : Launch :=
  match load process.host process.serde process.readToString process.parseToml
      (arg.getD defaultConfigPath) with
  | .error e => .configError e
  | .ok config =>
    -- `log_level.parse().expect(..)`.
    if ¬process.host.parsesLevel config.gateway.logLevel then .panicked
    else if ¬process.installsHandler then .handlerMissing
    else match setUp process config with
      | none => .panicked
      | some (.error e) => .setupFailed e
      | some (.ok options) => .running config options

end

/-! ### What an accepted configuration leaves to fail -/

section

variable {process : Process} {config : Config}

theorem qos_of_accepted (least : config.mqtt.qos ≤ 2) : ∃ q, qos config.mqtt.qos = .ok q := by
  have least := UInt8.le_iff_toNat_le.mp least
  have cases : config.mqtt.qos = 0 ∨ config.mqtt.qos = 1 ∨ config.mqtt.qos = 2 := by
    simp only [← UInt8.toNat_inj]
    simp at *
    omega
  rcases cases with same | same | same <;> rw [same] <;> exact ⟨_, rfl⟩

/-- The ways the set-up of an accepted configuration can end. -/
inductive SetUp (process : Process) (config : Config) :
    Option (Except SetupError MqttOptions) → Prop where
  | passwordMissing (missing : process.var config.mqtt.passwordEnv = none) :
      SetUp process config (some (.error (.passwordMissing config.mqtt.passwordEnv)))
  | panicked (password : String) (found : process.var config.mqtt.passwordEnv = some password)
      (refused : process.keepsSession config.mqtt.clientId = false) : SetUp process config none
  | caCert (password source : String)
      (found : process.var config.mqtt.passwordEnv = some password)
      (kept : process.keepsSession config.mqtt.clientId = true) (tls : config.mqtt.tls = true)
      (unreadable : process.read config.mqtt.caCertPath = .error source) :
      SetUp process config (some (.error (.caCert config.mqtt.caCertPath source)))
  | tls (password : String) (ca : List UInt8)
      (found : process.var config.mqtt.passwordEnv = some password)
      (kept : process.keepsSession config.mqtt.clientId = true) (tls : config.mqtt.tls = true)
      (read : process.read config.mqtt.caCertPath = .ok ca) :
      SetUp process config
        (some (.ok (config.mqtt.options config.gateway.id password (.tls ca))))
  | tcp (password : String) (found : process.var config.mqtt.passwordEnv = some password)
      (kept : process.keepsSession config.mqtt.clientId = true) (plain : config.mqtt.tls = false) :
      SetUp process config (some (.ok (config.mqtt.options config.gateway.id password .tcp)))

theorem setUp_of_accepted (least : config.mqtt.qos ≤ 2) :
    SetUp process config (setUp process config) := by
  obtain ⟨q, accepted⟩ := qos_of_accepted least
  unfold setUp readPassword buildMqttOptions
  cases found : process.var config.mqtt.passwordEnv with
  | none => exact .passwordMissing found
  | some password =>
    cases kept : process.keepsSession config.mqtt.clientId with
    | false => exact .panicked password found kept
    | true =>
      cases tls : config.mqtt.tls with
      | false =>
        simp only [accepted]
        exact .tcp password found kept tls
      | true =>
        cases read : process.read config.mqtt.caCertPath with
        | error source => exact .caCert password source found kept tls read
        | ok ca =>
          simp only [accepted]
          exact .tls password ca found kept tls read

theorem setUp_eq_iff (least : config.mqtt.qos ≤ 2)
    {result : Option (Except SetupError MqttOptions)} :
    setUp process config = result ↔ SetUp process config result := by
  constructor
  · rintro rfl
    exact setUp_of_accepted least
  · obtain ⟨q, accepted⟩ := qos_of_accepted least
    rintro (missing | ⟨password, found, refused⟩ | ⟨password, source, found, kept, tls, unreadable⟩ |
      ⟨password, ca, found, kept, tls, read⟩ | ⟨password, found, kept, plain⟩)
    · simp [setUp, readPassword, missing]
    · simp [setUp, readPassword, buildMqttOptions, found, refused]
    · simp [setUp, readPassword, buildMqttOptions, found, kept, tls, unreadable]
    · simp [setUp, readPassword, buildMqttOptions, found, kept, tls, read, accepted]
    · simp [setUp, readPassword, buildMqttOptions, found, kept, plain, accepted]

theorem wellFormed_of_load {path : String}
    (loaded : load process.host process.serde process.readToString process.parseToml path =
      .ok config) :
    config.WellFormed process.host := by
  obtain ⟨_, _, _, _, _, accepted⟩ := load_ok_iff.mp loaded
  exact (validate_ok_iff process.host config).mp accepted

end

/-- The file at the path of the command line is loaded as this configuration. -/
def Process.Loads (process : Process) (arg : Option String) (config : Config) : Prop :=
  load process.host process.serde process.readToString process.parseToml
    (arg.getD defaultConfigPath) = .ok config

/-- Once a configuration is loaded, the signal handler and the set-up decide. -/
theorem main_of_loads {process : Process} {arg : Option String} {config : Config}
    (loads : process.Loads arg config) :
    main process arg =
      if process.installsHandler then
        match setUp process config with
        | none => .panicked
        | some (.error e) => .setupFailed e
        | some (.ok options) => .running config options
      else .handlerMissing := by
  have parses := (wellFormed_of_load loads).log_level
  rw [Process.Loads] at loads
  simp only [main, loads, parses, not_true_eq_false, if_false]
  cases process.installsHandler <;> rfl

/-- How far the process comes, and why. -/
inductive Launches (process : Process) (arg : Option String) : Launch → Prop where
  | configError (e : ConfigError)
      (rejected : load process.host process.serde process.readToString process.parseToml
        (arg.getD defaultConfigPath) = .error e) :
      Launches process arg (.configError e)
  | handlerMissing (config : Config) (loads : process.Loads arg config)
      (missing : process.installsHandler = false) : Launches process arg .handlerMissing
  | setupFailed (config : Config) (e : SetupError) (loads : process.Loads arg config)
      (installed : process.installsHandler = true)
      (failed : SetUp process config (some (.error e))) : Launches process arg (.setupFailed e)
  | panicked (config : Config) (loads : process.Loads arg config)
      (installed : process.installsHandler = true) (panics : SetUp process config none) :
      Launches process arg .panicked
  | running (config : Config) (options : MqttOptions) (loads : process.Loads arg config)
      (installed : process.installsHandler = true)
      (ready : SetUp process config (some (.ok options))) :
      Launches process arg (.running config options)

theorem launches_main (process : Process) (arg : Option String) :
    Launches process arg (main process arg) := by
  cases loaded : load process.host process.serde process.readToString process.parseToml
      (arg.getD defaultConfigPath) with
  | error e =>
    rw [main, loaded]
    exact .configError e loaded
  | ok config =>
    have loads : process.Loads arg config := loaded
    have ended : SetUp process config (setUp process config) :=
      setUp_of_accepted (wellFormed_of_load loaded).qos_le
    rw [main_of_loads loads]
    split
    next installed =>
      split
      next panics => exact .panicked config loads installed (panics ▸ ended)
      next e failed => exact .setupFailed config e loads installed (failed ▸ ended)
      next options ready => exact .running config options loads installed (ready ▸ ended)
    next missing => exact .handlerMissing config loads (Bool.not_eq_true _ ▸ missing)

/-- Once a configuration is loaded, four things are left to fail, and nothing else does: the signal
handler, the password, the client id, and with TLS the certificate. -/
theorem main_eq_iff_launches (process : Process) (arg : Option String) (launch : Launch) :
    main process arg = launch ↔ Launches process arg launch := by
  constructor
  · rintro rfl
    exact launches_main process arg
  · rintro (⟨e, rejected⟩ | ⟨config, loads, missing⟩ | ⟨config, e, loads, installed, failed⟩ |
      ⟨config, loads, installed, panics⟩ | ⟨config, options, loads, installed, ready⟩)
    · rw [main, rejected]
    · rw [main_of_loads loads, missing]
      rfl
    · rw [main_of_loads loads, if_pos installed,
        (setUp_eq_iff (wellFormed_of_load loads).qos_le).mpr failed]
    · rw [main_of_loads loads, if_pos installed,
        (setUp_eq_iff (wellFormed_of_load loads).qos_le).mpr panics]
    · rw [main_of_loads loads, if_pos installed,
        (setUp_eq_iff (wellFormed_of_load loads).qos_le).mpr ready]

theorem SetUp.options {process : Process} {config : Config} {options : MqttOptions}
    (ready : SetUp process config (some (.ok options))) :
    ∃ password transport, process.var config.mqtt.passwordEnv = some password ∧
      options = config.mqtt.options config.gateway.id password transport ∧
      (transport = .tcp ↔ config.mqtt.tls = false) := by
  cases ready with
  | tls password ca found _ tls _ =>
    exact ⟨password, _, found, rfl, iff_of_false nofun (by simp [tls])⟩
  | tcp password found _ plain => exact ⟨password, _, found, rfl, iff_of_true rfl plain⟩

/-- What is settled once the gateway runs: its session lasts and leaves "offline" behind, it
publishes with the configured quality, the first window is found, and its deadline where the clock
has one, every poller has a time to wait, and a serial port is opened with its own settings, or is
not there. -/
theorem configured_of_running (process : Process) (arg : Option String)
    (config : Config) (options : MqttOptions)
    (running : main process arg = .running config options) :
    (∃ password transport, process.var config.mqtt.passwordEnv = some password ∧
      options = config.mqtt.options config.gateway.id password transport ∧
      (transport = .tcp ↔ config.mqtt.tls = false)) ∧
    (∃ q, qos config.mqtt.qos = .ok q) ∧
    (∀ now : Duration, now.nanos < 2 ^ 63 * 10 ^ 9 → ∃ wait boundary,
      nextBoundary now (.fromSecs config.gateway.aggregationWindowSecs) = some (wait, boundary) ∧
      Aligned now config.gateway.aggregationWindowSecs wait boundary ∧
      ∀ startedAt : Instant, (System.start config now startedAt).isSome ↔
        startedAt.nanos + wait.nanos ≤ Instant.latest.nanos) ∧
    ∀ conn ∈ config.connections, 10 ^ 9 ≤ (Duration.fromSecs conn.pollIntervalSecs).nanos ∧
      ∀ (surroundings : Surroundings) serialPort baudRate dataBits parity stopBits
        interFrameDelayMs,
        conn.transport = .rtu serialPort baudRate dataBits parity stopBits interFrameDelayMs →
        ∃ builder : SerialPortBuilder, builder.path = serialPort ∧ builder.baudRate = baudRate ∧
          builder.dataBits.bits = dataBits ∧ builder.parity = parity ∧
          builder.stopBits.bits = stopBits ∧
          connect surroundings conn.transport =
            if surroundings.openSerial builder then .ok () else .error .system := by
  have launched := launches_main process arg
  rw [running] at launched
  cases launched with
  | running _ _ loads _ ready =>
  have wellFormed := wellFormed_of_load loads
  refine ⟨ready.options, qos_of_accepted wellFormed.qos_le, ?_, ?_⟩
  · intro now below
    obtain ⟨wait, boundary, found, aligned⟩ :=
      nextBoundary_aligned now below config.gateway.aggregationWindowSecs wellFormed.window_pos
    refine ⟨wait, boundary, found, aligned, fun startedAt => ?_⟩
    rw [System.start, Option.isSome_map]
    exact AggregatorLoop.isSome_start_iff found
  · intro conn member
    have good := wellFormed.connections conn member
    constructor
    · have positive := UInt64.lt_iff_toNat_lt.mp good.poll_interval_pos
      rw [Duration.nanos_fromSecs]
      have positive : 0 < conn.pollIntervalSecs.toNat := positive
      omega
    · intro surroundings serialPort baudRate dataBits parity stopBits interFrameDelayMs shape
      rw [shape]
      exact connect_rtu surroundings (shape ▸ good.transport)

/-- A router with the shipped file, its password and its certificate. -/
def gwRouter1 : Process where
  host := exampleHost
  serde := .usual
  readToString _ := some "config.toml"
  parseToml _ := some exampleConfig.entries
  var _ := some "secret"
  installsHandler := true
  read _ := .ok []
  keepsSession clientId := clientId ≠ ""

theorem configured_of_running_gwRouter1 :
    main gwRouter1 none = .running exampleConfig
      (exampleConfig.mqtt.options "gw-router1" "secret" (.tls [])) ∧
    ∃ q, qos exampleConfig.mqtt.qos = .ok q := by
  have running : main gwRouter1 none = .running exampleConfig
      (exampleConfig.mqtt.options "gw-router1" "secret" (.tls [])) := rfl
  have configured := configured_of_running gwRouter1 none _ _ running
  exact ⟨running, configured.2.1⟩

end ModbusGateway
