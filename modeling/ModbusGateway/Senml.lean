import ModbusGateway.Foundation.HashMap
import ModbusGateway.Types

/-!
# SenML packs

`encode_senml` up to the writing of JSON text: the records of a pack, and for
their values what `serde_json` makes of an `f64`. The counts of `majority_unit`
are iterated in an order the source does not fix; the result does not depend
on it.
-/
namespace ModbusGateway

open Foundation

structure SenmlRecord where
  baseName : Option String
  baseTime : Option UInt64
  baseUnit : Option String
  n : String
  u : String
  v : F64
  deriving DecidableEq

/-- An `f64` in JSON: the number, or `null` where there is none. -/
def F64.toJson : F64 → Option ℚ
  | .finite q => some q
  | .inf _ | .nan => none

/-- `majority_unit` when its counts are iterated in the order of `counts`. -/
def majorityUnitOf (counts : HashMap String Nat) (points : List AggregatedPoint) :
    Option String :=
  if points.isEmpty then none
  else do
    -- `max_by_key` returns the last of several greatest entries.
    let ⟨unit, count⟩ ← counts.entries.reverse.argmax fun e => e.2
    -- A strict majority, not the most frequent unit.
    if count * 2 > points.length then some unit else none

def majorityUnit (points : List AggregatedPoint) : Option String :=
  majorityUnitOf (HashMap.tally (points.map AggregatedPoint.unit)) points

/-- One SenML pack per device. -/
def encodeSenml (batch : AggregatedBatch) (baseNamePrefix : String) : List SenmlRecord :=
  let baseUnit := majorityUnit batch.points
  batch.points.mapIdx fun i p =>
    { baseName := if i = 0 then some s!"{baseNamePrefix}{batch.deviceId}:" else none
      baseTime := if i = 0 then some batch.windowStart else none
      baseUnit := if i = 0 then baseUnit else none
      n := p.name
      u := p.unit
      v := p.mean }

/-! ### The unit of most points -/

/-- Whatever the order of iteration, the unit found is that of a strict majority. -/
theorem majorityUnitOf_eq_some_iff {points : List AggregatedPoint} {counts : HashMap String Nat}
    (perm : counts.entries.Perm
      (HashMap.tally (points.map AggregatedPoint.unit)).entries) (unit : String) :
    majorityUnitOf counts points = some unit ↔
      points.length < 2 * (points.map AggregatedPoint.unit).count unit := by
  have size : (points.map AggregatedPoint.unit).length = points.length := List.length_map _
  constructor
  · intro found
    simp only [majorityUnitOf, Option.bind_eq_bind] at found
    split at found
    · cases found
    · obtain ⟨e, greatest, kept⟩ := Option.bind_eq_some_iff.mp found
      split at kept
      next most =>
        cases kept
        have member := List.mem_reverse.mp (List.argmax_mem greatest)
        rw [← HashMap.count_of_mem_tally (perm.mem_iff.mp member)]
        omega
      next => cases kept
  · intro most
    have nonempty : points.isEmpty = false := by
      cases points with
      | nil => simp at most
      | cons => rfl
    have orders : counts.entries.reverse.Perm
        (HashMap.tally (points.map AggregatedPoint.unit)).entries :=
      counts.entries.reverse_perm.trans perm
    have greatest := HashMap.argmax_of_majority orders (size.symm ▸ most)
    simp only [majorityUnitOf, nonempty, greatest, Option.bind_eq_bind, Option.bind_some]
    rw [if_neg (by decide), if_pos (by omega)]

theorem majorityUnitOf_eq_none_iff {points : List AggregatedPoint} {counts : HashMap String Nat}
    (perm : counts.entries.Perm
      (HashMap.tally (points.map AggregatedPoint.unit)).entries) :
    majorityUnitOf counts points = none ↔
      ∀ unit, 2 * (points.map AggregatedPoint.unit).count unit ≤ points.length := by
  constructor
  · intro missing unit
    by_contra most
    have found := (majorityUnitOf_eq_some_iff perm unit).mpr (by omega)
    rw [missing] at found
    cases found
  · intro balanced
    cases found : majorityUnitOf counts points with
    | none => rfl
    | some unit =>
      have most := (majorityUnitOf_eq_some_iff perm unit).mp found
      have least := balanced unit
      omega

/-- Neither the order of the points nor that of the counts matters. -/
theorem majorityUnitOf_perm {points points' : List AggregatedPoint}
    {counts counts' : HashMap String Nat} (reordered : points'.Perm points)
    (perm : counts.entries.Perm
      (HashMap.tally (points.map AggregatedPoint.unit)).entries)
    (perm' : counts'.entries.Perm
      (HashMap.tally (points'.map AggregatedPoint.unit)).entries) :
    majorityUnitOf counts' points' = majorityUnitOf counts points := by
  apply Option.ext
  intro unit
  have units := (reordered.map AggregatedPoint.unit).count_eq unit
  rw [majorityUnitOf_eq_some_iff perm', majorityUnitOf_eq_some_iff perm, units,
    reordered.length_eq]

/-- The `bu` of a pack: that of its first record, the only one that may have one. -/
def emittedBaseUnit (records : List SenmlRecord) : Option String :=
  records.head?.bind SenmlRecord.baseUnit

theorem emittedBaseUnit_encodeSenml (batch : AggregatedBatch) (baseNamePrefix : String) :
    emittedBaseUnit (encodeSenml batch baseNamePrefix) = majorityUnit batch.points := by
  cases shape : batch.points with
  | nil => simp [emittedBaseUnit, encodeSenml, majorityUnit, majorityUnitOf, shape]
  | cons first rest => simp [emittedBaseUnit, encodeSenml, shape]

/-- The unit found is that of more than half of the points, and there is none when there is no
such unit, in whatever order the counts are iterated; so the `bu` of a pack is the same for its
points in every order. -/
theorem majorityUnit_exact (points : List AggregatedPoint) (counts : HashMap String Nat)
    (order : counts.entries.Perm (HashMap.tally (points.map AggregatedPoint.unit)).entries) :
    (∀ unit, majorityUnitOf counts points = some unit ↔
      points.length < 2 * (points.map AggregatedPoint.unit).count unit) ∧
    (majorityUnitOf counts points = none ↔
      ∀ unit, ¬ points.length < 2 * (points.map AggregatedPoint.unit).count unit) ∧
    ∀ points' : List AggregatedPoint, points'.Perm points →
      (∀ counts' : HashMap String Nat,
        counts'.entries.Perm (HashMap.tally (points'.map AggregatedPoint.unit)).entries →
        majorityUnitOf counts' points' = majorityUnitOf counts points) ∧
      ∀ (batch : AggregatedBatch) (baseNamePrefix : String),
        emittedBaseUnit (encodeSenml { batch with points := points' } baseNamePrefix) =
          majorityUnitOf counts points := by
  refine ⟨majorityUnitOf_eq_some_iff order, ?_, ?_⟩
  · simpa only [Nat.not_lt] using majorityUnitOf_eq_none_iff order
  · intro points' reordered
    constructor
    · intro counts' order'
      exact majorityUnitOf_perm reordered order order'
    · intro batch baseNamePrefix
      rw [emittedBaseUnit_encodeSenml]
      exact majorityUnitOf_perm reordered order (List.Perm.refl _)

/-- Two points in °C and one in bar, with the counts iterated in the other order. -/
def mixedPoints : List AggregatedPoint :=
  [⟨"a", "Cel", .finite 1⟩, ⟨"b", "bar", .finite 2⟩, ⟨"c", "Cel", .finite 3⟩]

def mixedCounts : HashMap String Nat := HashMap.collect [("Cel", 2), ("bar", 1)]

theorem mixedCounts_perm : mixedCounts.entries.Perm
    (HashMap.tally (mixedPoints.map AggregatedPoint.unit)).entries := by
  decide

theorem majorityUnit_exact_mixedPoints :
    (∀ unit, majorityUnitOf mixedCounts mixedPoints = some unit ↔
      mixedPoints.length < 2 * (mixedPoints.map AggregatedPoint.unit).count unit) ∧
    majorityUnitOf mixedCounts mixedPoints = some "Cel" :=
  have exactly := (majorityUnit_exact mixedPoints mixedCounts mixedCounts_perm).1
  ⟨exactly, (exactly "Cel").mpr (by decide)⟩

/-! ### What the records carry -/

/-- Every record is that of its point: name, own unit and mean. -/
theorem records_encodeSenml (batch : AggregatedBatch) (baseNamePrefix : String) :
    (encodeSenml batch baseNamePrefix).map (fun record =>
      AggregatedPoint.mk record.n record.u record.v) = batch.points := by
  apply List.ext_getElem?
  intro i
  cases found : batch.points[i]? <;> simp [encodeSenml, found]

theorem F64.isSome_toJson (a : F64) : a.toJson.isSome = a.isFinite := by
  cases a <;> rfl

/-- A pack is all numbers exactly when the means of its batch are all finite. -/
theorem numbers_encodeSenml (batch : AggregatedBatch) (baseNamePrefix : String) :
    (∀ record ∈ encodeSenml batch baseNamePrefix, record.v.toJson.isSome) ↔
      ∀ point ∈ batch.points, point.mean.isFinite := by
  rw [← records_encodeSenml batch baseNamePrefix]
  simp [F64.isSome_toJson]

end ModbusGateway
