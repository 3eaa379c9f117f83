import ModbusGateway.Foundation.BaseFields
import ModbusGateway.Senml

/-!
# What a pack says

A receiver resolves the base fields of a pack. The records that `encode_senml`
builds resolve to the points of the batch, whatever the emitted base unit is:
it applies to no record, since each carries a unit of its own.
-/
namespace ModbusGateway

open Foundation BaseFields

/-- The fields of a record as a receiver finds them. -/
def SenmlRecord.fields (record : SenmlRecord) : BaseFields.Record String UInt64 String F64 where
  baseName := record.baseName
  baseTime := record.baseTime
  baseUnit := record.baseUnit
  name := some record.n
  unit := some record.u
  value := record.v

/-- A measurement on its own: its full name, the window's start, its unit and mean. -/
def AggregatedPoint.entry (batch : AggregatedBatch) (baseNamePrefix : String)
    (point : AggregatedPoint) : Entry String UInt64 String F64 where
  name := some (baseNamePrefix ++ batch.deviceId ++ ":" ++ point.name)
  time := some batch.windowStart
  unit := some point.unit
  value := point.mean

/-- The record of a point that is not the first. -/
def AggregatedPoint.record (point : AggregatedPoint) : SenmlRecord where
  baseName := none
  baseTime := none
  baseUnit := none
  n := point.name
  u := point.unit
  v := point.mean

/-- Only the first record of a pack carries base fields. -/
theorem encodeSenml_of_cons {batch : AggregatedBatch} {point : AggregatedPoint}
    {points : List AggregatedPoint} (first : batch.points = point :: points)
    (baseNamePrefix : String) :
    encodeSenml batch baseNamePrefix =
      { point.record with
        baseName := some (baseNamePrefix ++ batch.deviceId ++ ":")
        baseTime := some batch.windowStart
        baseUnit := majorityUnit batch.points } :: points.map AggregatedPoint.record := by
  have others : points.mapIdx (fun _ p => p.record) = points.map AggregatedPoint.record :=
    List.mapIdx_eq_iff.mpr fun i => List.getElem?_map ..
  simp only [encodeSenml, first, List.mapIdx_cons, if_true, Nat.add_eq_zero_iff, Nat.one_ne_zero,
    and_false, if_false]
  rw [← others]
  rfl

/-- A pack resolves to one entry for each point of its batch, in the same order. -/
theorem resolve_encodeSenml (batch : AggregatedBatch) (baseNamePrefix : String) :
    resolve .unset ((encodeSenml batch baseNamePrefix).map SenmlRecord.fields) =
      batch.points.map (AggregatedPoint.entry batch baseNamePrefix) := by
  cases first : batch.points with
  | nil => simp [encodeSenml, first, resolve]
  | cons point points =>
    have plain : ∀ record ∈ (points.map AggregatedPoint.record).map SenmlRecord.fields,
        record.Plain := by
      intro record member
      obtain ⟨_, listed, rfl⟩ := List.mem_map.mp member
      obtain ⟨point, _, rfl⟩ := List.mem_map.mp listed
      exact ⟨rfl, rfl, rfl⟩
    rw [encodeSenml_of_cons first, List.map_cons, resolve_cons_of_plain _ _ plain]
    -- Under the base values of the first record every record is the entry of its point.
    simp [Record.entry, Base.override, SenmlRecord.fields, AggregatedPoint.record,
      AggregatedPoint.entry, Function.comp_def, String.append_assoc]

end ModbusGateway
