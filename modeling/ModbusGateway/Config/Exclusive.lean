import ModbusGateway.Config.Deserialize
import ModbusGateway.Config.WellFormed

/-!
# The settings of the other transport

Which `[[connection]]` tables are accepted: the fields of the transport that the
tag names decide, and those of the other transport are not looked at.
-/
namespace ModbusGateway

open Foundation

/-- A `[[connection]]` table: each key once, with a value of the type its field has. A key that is
no field's stands for anything. -/
structure ConnectionTable (serde : Serde) where
  entries : List (String × Value)
  distinct : (entries.map Prod.fst).Nodup
  strings : ∀ key ∈ ["id", "transport", "host", "serial_port"], Typed Value.asString entries key
  u8s : ∀ key ∈ ["data_bits", "stop_bits"], Typed Value.asU8 entries key
  u16s : ∀ key ∈ ["port"], Typed Value.asU16 entries key
  u32s : ∀ key ∈ ["baud_rate"], Typed Value.asU32 entries key
  u64s : ∀ key ∈ ["poll_interval_secs", "io_timeout_ms", "reconnect_backoff_min_secs",
    "reconnect_backoff_max_secs", "inter_frame_delay_ms"], Typed Value.asU64 entries key
  parity : Typed (Parity.deserialize serde) entries "parity"
  devices : Typed (Value.asVec (DeviceConfig.deserialize serde)) entries "device"

/-! ### What the two transports are about -/

inductive TransportKind where
  | tcp
  | rtu
  deriving DecidableEq

namespace TransportKind

def tag : TransportKind → String
  | tcp => "tcp"
  | rtu => "rtu"

def other : TransportKind → TransportKind
  | tcp => rtu
  | rtu => tcp

def required : TransportKind → List String
  | tcp => ["host", "port"]
  | rtu => ["serial_port", "baud_rate"]

def settings : TransportKind → List String
  | tcp => ["host", "port"]
  | rtu => ["serial_port", "baud_rate", "data_bits", "parity", "stop_bits",
      "inter_frame_delay_ms"]

theorem tag_injective {kind kind' : TransportKind} (same : kind.tag = kind'.tag) :
    kind = kind' := by
  cases kind <;> cases kind' <;> simp [tag] at same ⊢

end TransportKind

/-- What every connection has to give. -/
def connectionRequired : List String := ["id", "poll_interval_secs", "io_timeout_ms", "device"]

/-- The table has the settings of the transport that it names, and none of the other. -/
def Exclusive (entries : List (String × Value)) : Prop :=
  ∃ kind : TransportKind, ("transport", .string kind.tag) ∈ entries ∧
    (∀ key ∈ kind.required, HasKey entries key) ∧
    ∀ key ∈ kind.other.settings, ¬ HasKey entries key

/-! ### Which tables are accepted -/

theorem Value.exists_string {value : Value} (typed : value.asString.isSome) :
    ∃ text, value = .string text := by
  cases value with
  | string text => exact ⟨text, rfl⟩
  | _ => cases typed

section

variable {serde : Serde} (table : ConnectionTable serde)

/-- A table names one transport. -/
theorem TransportKind.eq_of_mem {kind kind' : TransportKind}
    (tagged : ("transport", .string kind.tag) ∈ table.entries)
    (tagged' : ("transport", .string kind'.tag) ∈ table.entries) : kind = kind' := by
  have same := value_unique table.distinct tagged tagged'
  injection same with same
  exact tag_injective same

theorem tcp_isSome_iff :
    (do
      let host ← required Value.asString table.entries "host"
      let port ← required Value.asU16 table.entries "port"
      return Transport.tcp host port).isSome ↔
      ∀ key ∈ TransportKind.tcp.required, HasKey table.entries key := by
  have host := required_isSome_iff table.distinct (table.strings "host" (by simp))
  have port := required_isSome_iff table.distinct (table.u16s "port" (by simp))
  rw [isSome_bind_iff fun _ => isSome_bind_iff fun _ => iff_of_true rfl trivial, host, port]
  simp [TransportKind.required]

/-- The four other settings have defaults. -/
theorem rtu_isSome_iff :
    (do
      let serialPort ← required Value.asString table.entries "serial_port"
      let baudRate ← required Value.asU32 table.entries "baud_rate"
      let dataBits ← withDefault Value.asU8 defaultDataBits table.entries "data_bits"
      let parity ← withDefault (Parity.deserialize serde) .none table.entries "parity"
      let stopBits ← withDefault Value.asU8 defaultStopBits table.entries "stop_bits"
      let interFrameDelayMs ← withDefault Value.asU64 0 table.entries "inter_frame_delay_ms"
      return Transport.rtu serialPort baudRate dataBits parity stopBits interFrameDelayMs).isSome ↔
      ∀ key ∈ TransportKind.rtu.required, HasKey table.entries key := by
  have serialPort := required_isSome_iff table.distinct (table.strings "serial_port" (by simp))
  have baudRate := required_isSome_iff table.distinct (table.u32s "baud_rate" (by simp))
  have dataBits :=
    withDefault_isSome defaultDataBits table.distinct (table.u8s "data_bits" (by simp))
  have parity := withDefault_isSome Parity.none table.distinct table.parity
  have stopBits :=
    withDefault_isSome defaultStopBits table.distinct (table.u8s "stop_bits" (by simp))
  have delay := withDefault_isSome 0 table.distinct (table.u64s "inter_frame_delay_ms" (by simp))
  rw [isSome_bind_iff fun _ => isSome_bind_iff fun _ => isSome_bind_iff fun _ =>
    isSome_bind_iff fun _ => isSome_bind_iff fun _ => isSome_bind_iff fun _ =>
      iff_of_true rfl trivial, serialPort, baudRate]
  simp [TransportKind.required, dataBits, parity, stopBits, delay]

/-- The transport is read where a valid tag has the settings that its transport requires. -/
theorem transport_isSome_iff :
    (Transport.deserialize serde (unclaimed ConnectionConfig.ownKeys table.entries)).isSome ↔
      ∃ kind : TransportKind, ("transport", .string kind.tag) ∈ table.entries ∧
        ∀ key ∈ kind.required, HasKey table.entries key := by
  unfold Transport.deserialize
  simp (disch := simp [ConnectionConfig.ownKeys]) only [required_unclaimed, withDefault_unclaimed]
  by_cases has : HasKey table.entries "transport"
  · obtain ⟨value, member⟩ := exists_mem_of_hasKey has
    obtain ⟨name, rfl⟩ := Value.exists_string (table.strings "transport" (by simp) value member)
    have named (kind : TransportKind) :
        ("transport", .string kind.tag) ∈ table.entries ↔ kind.tag = name := by
      constructor
      · intro tagged
        cases value_unique table.distinct tagged member
        rfl
      · rintro rfl
        exact member
    rw [required, readField_of_mem none table.distinct member]
    simp only [Value.asString, named]
    by_cases tcp : name = "tcp"
    · subst tcp
      refine (tcp_isSome_iff table).trans ⟨fun all => ⟨.tcp, rfl, all⟩, ?_⟩
      rintro ⟨kind, same, all⟩
      obtain rfl : kind = .tcp := TransportKind.tag_injective same
      exact all
    · by_cases rtu : name = "rtu"
      · subst rtu
        refine (rtu_isSome_iff table).trans ⟨fun all => ⟨.rtu, rfl, all⟩, ?_⟩
        rintro ⟨kind, same, all⟩
        obtain rfl : kind = .rtu := TransportKind.tag_injective same
        exact all
      · -- No variant has another name.
        refine iff_of_false (by simp) ?_
        rintro ⟨kind, rfl, _⟩
        cases kind with
        | tcp => exact tcp rfl
        | rtu => exact rtu rfl
  · rw [required, readField, valuesAt_of_not_hasKey has]
    refine iff_of_false Bool.false_ne_true ?_
    rintro ⟨kind, tagged, _⟩
    exact has (List.mem_map_of_mem tagged)

/-- A table is accepted where nothing required is missing; all other keys may be there. -/
theorem deserialize_isSome_iff :
    (ConnectionConfig.deserialize serde table.entries).isSome ↔
      (∀ key ∈ connectionRequired, HasKey table.entries key) ∧
      ∃ kind : TransportKind, ("transport", .string kind.tag) ∈ table.entries ∧
        ∀ key ∈ kind.required, HasKey table.entries key := by
  have id := required_isSome_iff table.distinct (table.strings "id" (by simp))
  have interval := required_isSome_iff table.distinct (table.u64s "poll_interval_secs" (by simp))
  have timeout := required_isSome_iff table.distinct (table.u64s "io_timeout_ms" (by simp))
  have least := withDefault_isSome defaultBackoffMinSecs table.distinct
    (table.u64s "reconnect_backoff_min_secs" (by simp))
  have greatest := withDefault_isSome defaultBackoffMaxSecs table.distinct
    (table.u64s "reconnect_backoff_max_secs" (by simp))
  have devices := required_isSome_iff table.distinct table.devices
  unfold ConnectionConfig.deserialize
  rw [isSome_bind_iff fun _ => isSome_bind_iff fun _ => isSome_bind_iff fun _ =>
    isSome_bind_iff fun _ => isSome_bind_iff fun _ => isSome_bind_iff fun _ =>
      isSome_bind_iff fun _ => iff_of_true rfl trivial, id, interval, timeout, devices,
    transport_isSome_iff table]
  simp [connectionRequired, least, greatest, and_assoc]

/-- Success means that the settings are those of one transport, exactly for the tables without a
setting of the transport that they do not name, and those that are rejected because something
required is missing. -/
theorem exclusive_iff_no_foreign_setting :
    ((ConnectionConfig.deserialize serde table.entries).isSome → Exclusive table.entries) ↔
      ∀ kind : TransportKind, ("transport", .string kind.tag) ∈ table.entries →
        (∀ key ∈ kind.other.settings, ¬ HasKey table.entries key) ∨
        ∃ key ∈ connectionRequired ++ kind.required, ¬ HasKey table.entries key := by
  rw [deserialize_isSome_iff]
  constructor
  · intro exclusive kind tagged
    -- With nothing missing the table is accepted, and then nothing of the other is there.
    by_cases missing : ∃ key ∈ connectionRequired ++ kind.required, ¬ HasKey table.entries key
    · exact .inr missing
    · left
      have all : ∀ key ∈ connectionRequired ++ kind.required, HasKey table.entries key := by
        intro key member
        by_contra lacks
        exact missing ⟨key, member, lacks⟩
      obtain ⟨own, given⟩ := List.forall_mem_append.mp all
      obtain ⟨kind', tagged', _, nothing⟩ := exclusive ⟨own, kind, tagged, given⟩
      cases TransportKind.eq_of_mem table tagged tagged'
      exact nothing
  · rintro holds ⟨own, kind, tagged, given⟩
    rcases holds kind tagged with nothing | ⟨key, member, missing⟩
    · exact ⟨kind, tagged, given, nothing⟩
    · rcases List.mem_append.mp member with mine | its
      · exact absurd (own key mine) missing
      · exact absurd (given key its) missing

end

/-! ### Rejection at load -/

/-- One connection table that is rejected is enough for the file to be. -/
theorem load_error_of_table {host : Host} {serde : Serde}
    {readToString : String → Option String} {parse : String → Option (List (String × Value))}
    {path contents : String} {entries table : List (String × Value)} {tables : List Value}
    (read : readToString path = some contents) (parsed : parse contents = some entries)
    (distinct : (entries.map Prod.fst).Nodup)
    (connections : ("connection", .array tables) ∈ entries)
    (member : .table table ∈ tables) (rejected : ConnectionConfig.deserialize serde table = none) :
    load host serde readToString parse path = .error (.parse path) := by
  have fails : tables.mapM (Value.asTable (ConnectionConfig.deserialize serde)) = none := by
    by_contra succeeds
    obtain ⟨conns, mapped⟩ := Option.ne_none_iff_exists'.mp succeeds
    have each := (exists_mapM_eq_some_iff _ tables).mp ⟨conns, mapped⟩ _ member
    rw [Value.asTable, rejected] at each
    cases each
  have nothing : Config.deserialize serde entries = none := by
    unfold Config.deserialize
    simp only [required, readField_of_mem none distinct connections, Value.asVec, fails]
    simp
  simp only [load, read, parsed, Option.bind_eq_bind, Option.bind_some, nothing]

/-! ### A meter with a serial port -/

/-- `meter-tcp1` with the port of a serial adapter, which `tcp` does not have. -/
def meterWithSerialPort : ConnectionTable .usual where
  entries := [("id", .string "meter-tcp1"), ("transport", .string "tcp"),
    ("host", .string "192.168.1.50"), ("port", .integer 502),
    ("serial_port", .string "/dev/ttyUSB0"), ("poll_interval_secs", .integer 10),
    ("io_timeout_ms", .integer 1000),
    ("device", .array [.table [("id", .string "meter1"), ("unit_id", .integer 1),
      ("block", .array [.table [("function", .string "holding"), ("start", .integer 3000),
        ("count", .integer 2),
        ("point", .array [.table [("name", .string "voltage_l1"), ("offset", .integer 0),
          ("data_type", .string "f32"), ("unit", .string "V")]])]])]])]
  distinct := by simp
  strings := by simp [Typed, Value.asString]
  u8s := by simp [Typed]
  u16s := by
    simp [Typed]
    decide
  u32s := by simp [Typed]
  u64s := by
    simp [Typed]
    decide
  parity := by simp [Typed]
  devices := by
    simp [Typed]
    rfl

/-- The tables of the shipped file with this connection in place of its own. -/
def strayPortFile : List (String × Value) := [
  ("gateway", .table [("id", .string "gw-router1"), ("aggregation_window_secs", .integer 60),
    ("base_name_prefix", .string "urn:dev:gw-router1:"), ("log_level", .string "info")]),
  ("mqtt", .table [("broker_host", .string "10.0.0.5"), ("broker_port", .integer 8883),
    ("client_id", .string "modbus-gateway-router1"), ("tls", .boolean true),
    ("ca_cert_path", .string "/etc/modbus-gateway/ca.pem"), ("username", .string "gateway"),
    ("password_env", .string "MQTT_PASSWORD"), ("keep_alive_secs", .integer 30),
    ("topic_template", .string "telemetry/\x7bdevice\x7d")]),
  ("connection", .array [.table meterWithSerialPort.entries])]

/-- The serial port is passed over, and the file is loaded. -/
theorem meterWithSerialPort_accepted :
    (ConnectionConfig.deserialize .usual meterWithSerialPort.entries).isSome ∧
      ¬ Exclusive meterWithSerialPort.entries ∧
      ∃ config, load exampleHost .usual (fun _ => some "gateway.toml")
        (fun _ => some strayPortFile) "gateway.toml" = .ok config := by
  refine ⟨rfl, ?_, ?_⟩
  · rintro ⟨kind, tagged, _, nothing⟩
    have tcp : ("transport", .string TransportKind.tcp.tag) ∈ meterWithSerialPort.entries := by
      simp [meterWithSerialPort, TransportKind.tag]
    cases TransportKind.eq_of_mem meterWithSerialPort tagged tcp
    exact nothing "serial_port" (by decide) (by decide)
  · exact ⟨_, rfl⟩

end ModbusGateway
