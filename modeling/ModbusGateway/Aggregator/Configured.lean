import ModbusGateway.Aggregator.Window
import ModbusGateway.Config.WellFormed

/-!
# Configured points and their accumulators

A configured point is a position in the configuration: connection, device,
block and point. `init_from_config` files accumulators under names instead, so
there is one for each configured point only as far as the names tell them
apart.
-/
namespace ModbusGateway

open Foundation

structure ConfiguredPoint where
  connection : ConnectionConfig
  device : DeviceConfig
  block : BlockConfig
  point : PointConfig
  deriving DecidableEq

namespace ConfiguredPoint

def pointId (configured : ConfiguredPoint) : PointId :=
  ⟨configured.device.id, configured.point.name⟩

end ConfiguredPoint

/-- The positions of a configuration, in the order of its loops. -/
def configuredPoints (config : Config) : List ConfiguredPoint :=
  config.connections.flatMap fun connection =>
    connection.devices.flatMap fun device =>
      device.blocks.flatMap fun block =>
        block.points.map fun point => ⟨connection, device, block, point⟩

theorem mem_configuredPoints {config : Config} {configured : ConfiguredPoint} :
    configured ∈ configuredPoints config ↔
      configured.connection ∈ config.connections ∧
      configured.device ∈ configured.connection.devices ∧
      configured.block ∈ configured.device.blocks ∧
      configured.point ∈ configured.block.points := by
  obtain ⟨connection, device, block, point⟩ := configured
  simp only [configuredPoints, List.mem_flatMap, List.mem_map, ConfiguredPoint.mk.injEq]
  constructor
  · rintro ⟨_, connected, _, attached, _, read, _, listed, rfl, rfl, rfl, rfl⟩
    exact ⟨connected, attached, read, listed⟩
  · rintro ⟨connected, attached, read, listed⟩
    exact ⟨_, connected, _, attached, _, read, _, listed, rfl, rfl, rfl, rfl⟩

/-- The loops of `init_from_config` insert the configured points one by one. -/
theorem initFromConfig_eq_collect (config : Config) :
    initFromConfig config = HashMap.collect ((configuredPoints config).map fun configured =>
      (configured.pointId, PointAgg.new configured.point.unit)) := by
  simp only [initFromConfig, HashMap.collect, configuredPoints, List.foldl_map,
    List.foldl_flatMap, ConfiguredPoint.pointId]

theorem mem_initFromConfig {config : Config} {pointId : PointId} :
    pointId ∈ initFromConfig config ↔
      ∃ configured ∈ configuredPoints config, configured.pointId = pointId := by
  rw [initFromConfig_eq_collect, HashMap.mem_collect]
  simp

theorem fresh_initFromConfig (config : Config) : Fresh (initFromConfig config) := by
  intro e member
  rw [initFromConfig_eq_collect] at member
  obtain ⟨configured, _, same⟩ := List.mem_map.mp (HashMap.mem_of_mem_collect member)
  obtain ⟨_, found⟩ := Prod.mk.inj same
  rw [← found]
  rfl

/-- One accumulator for each configured point, or two points with the same names. -/
theorem length_initFromConfig_iff (config : Config) :
    (initFromConfig config).entries.length = (configuredPoints config).length ↔
      ((configuredPoints config).map ConfiguredPoint.pointId).Nodup := by
  have pairs := HashMap.length_collect_iff ((configuredPoints config).map fun configured =>
    (configured.pointId, PointAgg.new configured.point.unit))
  rwa [List.length_map, List.map_map, ← initFromConfig_eq_collect] at pairs

theorem initFromConfig_perm {config : Config}
    (different : ((configuredPoints config).map ConfiguredPoint.pointId).Nodup) :
    (initFromConfig config).entries.Perm ((configuredPoints config).map fun configured =>
      ⟨configured.pointId, .new configured.point.unit⟩) := by
  rw [initFromConfig_eq_collect]
  have kept := HashMap.collect_perm ((configuredPoints config).map fun configured =>
    (configured.pointId, PointAgg.new configured.point.unit)) (by simpa [Function.comp_def])
  simpa [Function.comp_def] using kept

/-! ### Names that tell points apart -/

/-- What the configuration's comments ask of names: a device id is unique in the
gateway, a point name in its device. -/
structure Config.NamesUnique (config : Config) : Prop where
  devices : ((config.connections.flatMap ConnectionConfig.devices).map DeviceConfig.id).Nodup
  points : ∀ conn ∈ config.connections, ∀ device ∈ conn.devices,
    ((device.blocks.flatMap BlockConfig.points).map PointConfig.name).Nodup

/-- The names of a device's points, under its id. -/
def DeviceConfig.pointIds (device : DeviceConfig) : List PointId :=
  (device.blocks.flatMap BlockConfig.points).map fun point => ⟨device.id, point.name⟩

theorem pointIds_configuredPoints (config : Config) :
    (configuredPoints config).map ConfiguredPoint.pointId =
      (config.connections.flatMap ConnectionConfig.devices).flatMap DeviceConfig.pointIds := by
  have named (device : DeviceConfig) : device.pointIds =
      device.blocks.flatMap fun block => block.points.map fun point => ⟨device.id, point.name⟩ := by
    simp only [DeviceConfig.pointIds, List.map_flatMap]
  simp only [configuredPoints, ConfiguredPoint.pointId, funext named, List.map_flatMap,
    List.map_map, List.flatMap_assoc, Function.comp_def]

theorem Config.NamesUnique.pointIds_nodup {config : Config} (unique : config.NamesUnique) :
    ((configuredPoints config).map ConfiguredPoint.pointId).Nodup := by
  rw [pointIds_configuredPoints, List.nodup_flatMap]
  constructor
  · intro device member
    obtain ⟨conn, connected, attached⟩ := List.mem_flatMap.mp member
    have names := unique.points conn connected device attached
    refine List.Nodup.of_map PointId.point ?_
    rwa [DeviceConfig.pointIds, List.map_map]
  · refine (List.pairwise_map.mp unique.devices).imp fun {device device'} apart => ?_
    intro pointId first second
    obtain ⟨_, _, rfl⟩ := List.mem_map.mp first
    obtain ⟨_, _, same⟩ := List.mem_map.mp second
    exact apart (PointId.mk.inj same).1.symm

end ModbusGateway
