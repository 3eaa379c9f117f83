import ModbusGateway.Config.Schema
import ModbusGateway.Foundation.Keyed
import ModbusGateway.Status

/-!
# What the status file shows

`StatusState` and its `apply`. Connections and devices are looked up by id, the
first of each id being the one that events change; the two lookups `up?` and
`health?` are all that the display of a connection rests on, and one lemma each
says what an event does to them.
-/
namespace ModbusGateway

open Foundation

/-- A UTC timestamp. Two are equal when they name the same instant. -/
structure OffsetDateTime where
  unixNanos : Int
  deriving DecidableEq

inductive Health where
  -- Not polled since the connection (re)connected.
  | unknown
  | ok
  | problem (reason : String) (since : OffsetDateTime)
  deriving DecidableEq

structure DeviceStatus where
  id : String
  health : Health
  deriving DecidableEq

structure ConnectionStatus where
  id : String
  up : Bool
  devices : List DeviceStatus
  deriving DecidableEq

structure StatusState where
  gatewayId : String
  broker : String
  mqttConnected : Bool
  connections : List ConnectionStatus
  deriving DecidableEq

/-- Connections with their device ids; everything starts down and unknown. -/
def StatusState.new (gatewayId broker : String) (connections : List (String × List String)) :
    StatusState where
  gatewayId := gatewayId
  broker := broker
  mqttConnected := false
  connections := connections.map fun (id, devices) =>
    ⟨id, false, devices.map fun id => ⟨id, .unknown⟩⟩

def StatusState.fromConfig (config : Config) : StatusState :=
  .new config.gateway.id s!"{config.mqtt.brokerHost}:{config.mqtt.brokerPort}"
    (config.connections.map fun c => (c.id, c.devices.map DeviceConfig.id))

/-- What a slot holds after `replace`, and whether that is a change. -/
def replace (slot value : Bool) : Bool × Bool := (value, slot != value)

/-- A failed device keeps the time it first went bad. -/
def Health.fail (reason : String) (now : OffsetDateTime) : Health → Health
  | .problem _ since => .problem reason since
  | .unknown | .ok => .problem reason now

namespace ConnectionStatus

def device (conn : ConnectionStatus) (deviceId : String) : Option DeviceStatus :=
  Keyed.find DeviceStatus.id deviceId conn.devices

def health? (conn : ConnectionStatus) (deviceId : String) : Option Health :=
  (conn.device deviceId).map DeviceStatus.health

/-- What `ConnectionUp` does to a connection. -/
def comeUp (conn : ConnectionStatus) : ConnectionStatus × Bool :=
  if conn.up then (conn, false)
  else
    -- Earlier device states describe the previous connection.
    ({ conn with up := true, devices := conn.devices.map ({ · with health := .unknown }) }, true)

/-- What `ConnectionDown` does to a connection; its devices stay as they are. -/
def goDown (conn : ConnectionStatus) : ConnectionStatus × Bool :=
  let (up, changed) := replace conn.up false
  ({ conn with up }, changed)

/-- What a device event does to a connection. -/
def setHealth (conn : ConnectionStatus) (deviceId : String) (health : Health → Health) :
    ConnectionStatus × Bool :=
  match conn.device deviceId with
  | none => (conn, false)
  | some device =>
    let new := health device.health
    -- A device result means the connection is up, even without a `ConnectionUp`.
    let (up, connChanged) := replace conn.up true
    let changed := decide (device.health ≠ new)
    let devices := Keyed.modify DeviceStatus.id deviceId ({ · with health := new }) conn.devices
    ({ conn with up, devices }, connChanged || changed)

end ConnectionStatus

namespace StatusState

def connection (state : StatusState) (id : String) : Option ConnectionStatus :=
  Keyed.find ConnectionStatus.id id state.connections

/-- Changing the connection with an id; an unknown id is ignored. -/
def updateConnection (state : StatusState) (id : String)
    (update : ConnectionStatus → ConnectionStatus × Bool) : StatusState × Bool :=
  match state.connection id with
  | none => (state, false)
  | some conn =>
    ({ state with
      connections := Keyed.modify ConnectionStatus.id id (fun conn => (update conn).1)
        state.connections },
      (update conn).2)

def setHealth (state : StatusState) (connectionId deviceId : String) (health : Health → Health) :
    StatusState × Bool :=
  state.updateConnection connectionId (·.setHealth deviceId health)

/-- One event applied, and whether anything visible changed. -/
def apply (state : StatusState) (event : StatusEvent) (now : OffsetDateTime) :
    StatusState × Bool :=
  match event with
  | .mqttConnected =>
    let (mqttConnected, changed) := replace state.mqttConnected true
    ({ state with mqttConnected }, changed)
  | .mqttDisconnected =>
    let (mqttConnected, changed) := replace state.mqttConnected false
    ({ state with mqttConnected }, changed)
  | .connectionUp connectionId => state.updateConnection connectionId (·.comeUp)
  | .connectionDown connectionId => state.updateConnection connectionId (·.goDown)
  | .deviceOk connectionId deviceId => state.setHealth connectionId deviceId fun _ => .ok
  | .deviceProblem connectionId deviceId reason =>
    state.setHealth connectionId deviceId (·.fail reason now)

/-- Whether a connection is shown up. -/
def up? (state : StatusState) (connectionId : String) : Option Bool :=
  (state.connection connectionId).map ConnectionStatus.up

/-- The result shown for a device while its connection is up. -/
def health? (state : StatusState) (connectionId deviceId : String) : Option Health :=
  (state.connection connectionId).bind (·.health? deviceId)

end StatusState

/-! ### One connection -/

namespace ConnectionStatus

variable (conn : ConnectionStatus)

@[simp] theorem comeUp_id : conn.comeUp.1.id = conn.id := by
  unfold comeUp
  split <;> rfl

@[simp] theorem goDown_id : conn.goDown.1.id = conn.id := rfl

@[simp] theorem setHealth_id (deviceId : String) (health : Health → Health) :
    (conn.setHealth deviceId health).1.id = conn.id := by
  unfold setHealth
  split <;> rfl

@[simp] theorem comeUp_up : conn.comeUp.1.up = true := by
  unfold comeUp
  split
  next up => exact up
  next => rfl

@[simp] theorem goDown_up : conn.goDown.1.up = false := rfl

theorem setHealth_up (deviceId : String) (health : Health → Health) :
    (conn.setHealth deviceId health).1.up = (conn.up || (conn.health? deviceId).isSome) := by
  unfold setHealth health?
  cases conn.device deviceId <;> simp [replace]

theorem comeUp_health? (deviceId : String) :
    conn.comeUp.1.health? deviceId =
      (conn.health? deviceId).map fun old => if conn.up then old else .unknown := by
  unfold comeUp health? device
  by_cases up : conn.up
  · simp [up, Function.comp_def]
  · simp [up, Keyed.find, List.find?_map, Function.comp_def]

@[simp] theorem goDown_health? (deviceId : String) :
    conn.goDown.1.health? deviceId = conn.health? deviceId := rfl

theorem setHealth_health? (deviceId deviceId' : String) (health : Health → Health) :
    (conn.setHealth deviceId health).1.health? deviceId' =
      (conn.health? deviceId').map fun old => if deviceId = deviceId' then health old else old := by
  unfold setHealth health?
  cases found : conn.device deviceId with
  | none =>
    by_cases same : deviceId = deviceId'
    · subst same
      simp [found]
    · simp [same, Function.comp_def]
  | some device =>
    have kept : ∀ other : DeviceStatus,
        ({ other with health := health device.health } : DeviceStatus).id = other.id :=
      fun _ => rfl
    simp only [ConnectionStatus.device] at found ⊢
    rw [Keyed.find_modify deviceId deviceId' kept conn.devices]
    by_cases same : deviceId = deviceId'
    · subst same
      simp [found]
    · simp [same, Function.comp_def]

theorem comeUp_unchanged (unchanged : conn.comeUp.2 = false) : conn.comeUp.1 = conn := by
  unfold comeUp at unchanged ⊢
  split at unchanged
  next up => rw [if_pos up]
  next => cases unchanged

theorem goDown_unchanged (unchanged : conn.goDown.2 = false) : conn.goDown.1 = conn := by
  have same : conn.up = false := bne_eq_false_iff_eq.mp unchanged
  simp only [goDown, replace, ← same]

theorem setHealth_unchanged {deviceId : String} {health : Health → Health}
    (unchanged : (conn.setHealth deviceId health).2 = false) :
    (conn.setHealth deviceId health).1 = conn := by
  unfold setHealth at unchanged ⊢
  cases found : conn.device deviceId with
  | none => rfl
  | some device =>
    simp only [found, replace, Bool.or_eq_false_iff, bne_eq_false_iff_eq, ne_eq, decide_not,
      Bool.not_eq_eq_eq_not, Bool.not_false, decide_eq_true_eq] at unchanged ⊢
    obtain ⟨up, same⟩ := unchanged
    have fixed : Keyed.modify DeviceStatus.id deviceId
        ({ · with health := health device.health }) conn.devices = conn.devices := by
      apply Keyed.modify_of_fixed
      intro device' again
      obtain rfl : device = device' := Option.some.inj (found.symm.trans again)
      rw [← same]
    rw [fixed, ← up]

@[simp] theorem comeUp_deviceIds :
    conn.comeUp.1.devices.map DeviceStatus.id = conn.devices.map DeviceStatus.id := by
  unfold comeUp
  split
  · rfl
  · simp [Function.comp_def]

theorem setHealth_deviceIds (deviceId : String) (health : Health → Health) :
    (conn.setHealth deviceId health).1.devices.map DeviceStatus.id =
      conn.devices.map DeviceStatus.id := by
  unfold setHealth
  cases conn.device deviceId with
  | none => rfl
  | some device =>
    have kept : ∀ other : DeviceStatus,
        ({ other with health := health device.health } : DeviceStatus).id = other.id :=
      fun _ => rfl
    exact Keyed.map_modify DeviceStatus.id deviceId kept conn.devices

end ConnectionStatus

/-! ### The whole state -/

namespace StatusState

variable (state : StatusState)

theorem connection_updateConnection (id id' : String)
    {update : ConnectionStatus → ConnectionStatus × Bool}
    (kept : ∀ conn, (update conn).1.id = conn.id) :
    (state.updateConnection id update).1.connection id' =
      if id = id' then (state.connection id').map fun conn => (update conn).1
      else state.connection id' := by
  unfold updateConnection
  cases found : state.connection id with
  | none =>
    by_cases same : id = id'
    · subst same
      simp [found]
    · simp [same]
  | some conn => exact Keyed.find_modify id id' kept state.connections

theorem up?_updateConnection (id id' : String)
    {update : ConnectionStatus → ConnectionStatus × Bool}
    (kept : ∀ conn, (update conn).1.id = conn.id) :
    (state.updateConnection id update).1.up? id' =
      if id = id' then (state.connection id').map fun conn => (update conn).1.up
      else state.up? id' := by
  rw [up?, connection_updateConnection state id id' kept]
  split <;> simp [up?, Function.comp_def]

theorem health?_updateConnection (id id' deviceId : String)
    {update : ConnectionStatus → ConnectionStatus × Bool}
    (kept : ∀ conn, (update conn).1.id = conn.id) :
    (state.updateConnection id update).1.health? id' deviceId =
      if id = id' then (state.connection id').bind fun conn => (update conn).1.health? deviceId
      else state.health? id' deviceId := by
  rw [health?, connection_updateConnection state id id' kept]
  split <;> simp [health?, Option.bind_map]

/-- What an event does to whether a connection is shown up. -/
theorem up?_apply (event : StatusEvent) (now : OffsetDateTime) (id : String) :
    (state.apply event now).1.up? id = (state.up? id).map fun up =>
      match event with
      | .connectionUp connectionId => up || connectionId = id
      | .connectionDown connectionId => up && connectionId ≠ id
      | .deviceOk connectionId deviceId | .deviceProblem connectionId deviceId _ =>
        up || connectionId = id && (state.health? id deviceId).isSome
      | .mqttConnected | .mqttDisconnected => up := by
  cases event with
  | mqttConnected | mqttDisconnected => simp [apply, up?, connection, Function.comp_def]
  | connectionUp connectionId =>
    rw [apply, up?_updateConnection state connectionId id (by simp)]
    by_cases own : connectionId = id <;> simp [own, up?, Function.comp_def]
  | connectionDown connectionId =>
    rw [apply, up?_updateConnection state connectionId id (by simp)]
    by_cases own : connectionId = id <;> simp [own, up?, Function.comp_def]
  | deviceOk connectionId deviceId | deviceProblem connectionId deviceId reason =>
    rw [apply, setHealth, up?_updateConnection state connectionId id (by simp)]
    by_cases own : connectionId = id
    · cases found : state.connection id <;>
        simp [own, up?, health?, found, ConnectionStatus.setHealth_up]
    · simp [own]

/-- What an event does to the result of a device. -/
theorem health?_apply (event : StatusEvent) (now : OffsetDateTime) (id deviceId : String) :
    (state.apply event now).1.health? id deviceId = (state.health? id deviceId).map fun old =>
      match event with
      | .connectionUp connectionId =>
        if connectionId = id ∧ state.up? id = some false then .unknown else old
      | .deviceOk connectionId deviceId' =>
        if connectionId = id ∧ deviceId' = deviceId then .ok else old
      | .deviceProblem connectionId deviceId' reason =>
        if connectionId = id ∧ deviceId' = deviceId then old.fail reason now else old
      | .connectionDown _ | .mqttConnected | .mqttDisconnected => old := by
  cases event with
  | mqttConnected | mqttDisconnected =>
    simp [apply, health?, connection]
  | connectionUp connectionId =>
    rw [apply, health?_updateConnection state connectionId id deviceId (by simp)]
    by_cases own : connectionId = id
    · cases found : state.connection id with
      | none => simp [own, health?, found]
      | some conn =>
        cases up : conn.up <;>
          simp [own, up?, health?, found, up, ConnectionStatus.comeUp_health?]
    · simp [own]
  | connectionDown connectionId =>
    rw [apply, health?_updateConnection state connectionId id deviceId (by simp)]
    by_cases own : connectionId = id <;> simp [own, health?]
  | deviceOk connectionId deviceId' | deviceProblem connectionId deviceId' reason =>
    rw [apply, setHealth, health?_updateConnection state connectionId id deviceId (by simp)]
    by_cases own : connectionId = id
    · cases found : state.connection id <;>
        simp [own, health?, found, ConnectionStatus.setHealth_health?]
    · simp [own]

/-! ### What events leave as it is -/

/-- An update whose flag tells the truth reports no change only where there is none. -/
theorem updateConnection_unchanged {id : String}
    {update : ConnectionStatus → ConnectionStatus × Bool}
    (truthful : ∀ conn, (update conn).2 = false → (update conn).1 = conn)
    (unchanged : (state.updateConnection id update).2 = false) :
    (state.updateConnection id update).1 = state := by
  unfold updateConnection at unchanged ⊢
  cases found : state.connection id with
  | none => rfl
  | some conn =>
    simp only [found] at unchanged ⊢
    have fixed : Keyed.modify ConnectionStatus.id id (fun conn => (update conn).1)
        state.connections = state.connections := by
      apply Keyed.modify_of_fixed
      intro conn' again
      obtain rfl : conn = conn' := Option.some.inj (found.symm.trans again)
      exact truthful conn unchanged
    rw [fixed]

theorem apply_unchanged (event : StatusEvent) (now : OffsetDateTime)
    (unchanged : (state.apply event now).2 = false) : (state.apply event now).1 = state := by
  cases event with
  | mqttConnected | mqttDisconnected =>
    have same : state.mqttConnected = _ := bne_eq_false_iff_eq.mp unchanged
    simp only [apply, replace, ← same]
  | connectionUp connectionId =>
    exact state.updateConnection_unchanged (fun conn => conn.comeUp_unchanged) unchanged
  | connectionDown connectionId =>
    exact state.updateConnection_unchanged (fun conn => conn.goDown_unchanged) unchanged
  | deviceOk connectionId deviceId | deviceProblem connectionId deviceId reason =>
    exact state.updateConnection_unchanged (fun conn => conn.setHealth_unchanged) unchanged

/-- The ids a state lists, connection by connection. -/
def ids : List (String × List String) :=
  state.connections.map fun conn => (conn.id, conn.devices.map DeviceStatus.id)

theorem ids_fromConfig (config : Config) :
    (fromConfig config).ids =
      config.connections.map fun c => (c.id, c.devices.map DeviceConfig.id) := by
  simp [ids, fromConfig, new, Function.comp_def]

theorem up_fromConfig {config : Config} {conn : ConnectionStatus}
    (member : conn ∈ (fromConfig config).connections) : conn.up = false := by
  obtain ⟨listed, _, rfl⟩ := List.mem_map.mp member
  rfl

theorem ids_updateConnection (id : String) {update : ConnectionStatus → ConnectionStatus × Bool}
    (kept : ∀ conn, (update conn).1.id = conn.id ∧
      (update conn).1.devices.map DeviceStatus.id = conn.devices.map DeviceStatus.id) :
    (state.updateConnection id update).1.ids = state.ids := by
  unfold updateConnection
  cases state.connection id with
  | none => rfl
  | some conn =>
    exact Keyed.map_modify _ id (fun conn => Prod.ext (kept conn).1 (kept conn).2) _

theorem ids_apply (event : StatusEvent) (now : OffsetDateTime) :
    (state.apply event now).1.ids = state.ids := by
  cases event with
  | mqttConnected | mqttDisconnected => rfl
  | connectionUp connectionId =>
    exact state.ids_updateConnection _ fun conn => ⟨conn.comeUp_id, conn.comeUp_deviceIds⟩
  | connectionDown connectionId =>
    exact state.ids_updateConnection _ fun conn => ⟨conn.goDown_id, rfl⟩
  | deviceOk connectionId deviceId | deviceProblem connectionId deviceId reason =>
    exact state.ids_updateConnection _ fun conn =>
      ⟨conn.setHealth_id _ _, conn.setHealth_deviceIds _ _⟩

variable {state} in
/-- What the lookups show is shown of some connection and device. -/
theorem exists_of_health? {id deviceId : String} {health : Health}
    (shown : state.health? id deviceId = some health) :
    ∃ conn ∈ state.connections, conn.id = id ∧ state.up? id = some conn.up ∧
      ∃ device ∈ conn.devices, device.id = deviceId ∧ device.health = health := by
  obtain ⟨conn, found, inside⟩ := Option.bind_eq_some_iff.mp shown
  obtain ⟨device, listed, rfl⟩ := Option.map_eq_some_iff.mp inside
  obtain ⟨member, same⟩ := Keyed.mem_of_find found
  obtain ⟨member', same'⟩ := Keyed.mem_of_find listed
  exact ⟨conn, member, same, by rw [up?, found, Option.map_some], device, member', same', rfl⟩

/-- No two connections share an id, and no two devices of a connection do. -/
structure Distinct : Prop where
  connections : (state.ids.map Prod.fst).Nodup
  devices : ∀ listed ∈ state.ids, listed.2.Nodup

variable {state}

theorem Distinct.connection_of_mem (distinct : state.Distinct) {conn : ConnectionStatus}
    (member : conn ∈ state.connections) : state.connection conn.id = some conn := by
  have ids := distinct.connections
  rw [StatusState.ids, List.map_map] at ids
  exact Keyed.find_of_mem ids member

/-- Where ids are distinct the lookups show every connection. -/
theorem Distinct.up?_of_mem (distinct : state.Distinct) {conn : ConnectionStatus}
    (member : conn ∈ state.connections) : state.up? conn.id = some conn.up := by
  rw [up?, distinct.connection_of_mem member, Option.map_some]

theorem Distinct.health?_of_mem (distinct : state.Distinct) {conn : ConnectionStatus}
    (member : conn ∈ state.connections) {device : DeviceStatus} (listed : device ∈ conn.devices) :
    state.health? conn.id device.id = some device.health := by
  have ids := distinct.devices _ (List.mem_map_of_mem member)
  have found : conn.device device.id = some device := Keyed.find_of_mem ids listed
  rw [health?, distinct.connection_of_mem member, Option.bind_some, ConnectionStatus.health?,
    found, Option.map_some]

end StatusState

end ModbusGateway
