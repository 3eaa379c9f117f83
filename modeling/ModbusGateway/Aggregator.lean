import ModbusGateway.Config.Schema
import ModbusGateway.Foundation.HashMap
import ModbusGateway.Foundation.Runs
import ModbusGateway.Time
import ModbusGateway.Types

/-!
# The aggregator task

`run_aggregator` as a transition system: one step for each branch its `select!`
takes. The accumulator map and the per-device map are iterated in an order the
source does not fix, so a tick may send any list of batches that some order
gives. Integer additions wrap; additions to an instant panic past the clock's
last one.
-/
namespace ModbusGateway

open Foundation

structure PointAgg where
  sum : F64
  count : UInt32
  min : F64
  max : F64
  unit : String
  deriving DecidableEq

namespace PointAgg

def new (unit : String) : PointAgg where
  sum := 0
  count := 0
  min := .infinity
  max := .negInfinity
  unit := unit

def reset (pointAgg : PointAgg) : PointAgg :=
  { pointAgg with sum := 0, count := 0, min := .infinity, max := .negInfinity }

/-- The update `record` makes to the accumulator it finds. -/
def add (pointAgg : PointAgg) (value : F64) : PointAgg :=
  { pointAgg with
    sum := pointAgg.sum + value
    count := pointAgg.count + 1
    min := pointAgg.min.min value
    max := pointAgg.max.max value }

end PointAgg

def initFromConfig (config : Config) : HashMap PointId PointAgg :=
  config.connections.foldl (fun agg conn =>
    conn.devices.foldl (fun agg device =>
      device.blocks.foldl (fun agg block =>
        -- A later point of the same names replaces an earlier one, unit included.
        block.points.foldl (fun agg point =>
          agg.insert ⟨device.id, point.name⟩ (.new point.unit)) agg) agg) agg) ∅

/-- Wait duration and absolute boundary for the next tick. -/
def nextBoundary (now window : Duration) : Option (Duration × UInt64) :=
  let windowSecs := window.asSecs
  -- Division by zero panics, and so does a negative difference of durations.
  if windowSecs = 0 then none
  else
    let boundarySecs := (now.asSecs / windowSecs + 1) * windowSecs
    let boundary := Duration.fromSecs boundarySecs
    (boundary.sub? now).map fun wait => (wait, boundarySecs)

def record (agg : HashMap PointId PointAgg) (reading : Reading) : HashMap PointId PointAgg :=
  -- `get_mut`: a reading of an unknown point changes nothing.
  HashMap.modify reading.pointId (fun pointAgg => pointAgg.add reading.value) agg

/-- What the loop of `flush` does to `by_device` at one entry. -/
def flushEntry (byDevice : HashMap String (List AggregatedPoint)) (pointId : PointId)
    (pointAgg : PointAgg) : HashMap String (List AggregatedPoint) :=
  -- A point without readings is dropped, and with it a device that has no other.
  if pointAgg.count = 0 then byDevice
  else
    let mean := pointAgg.sum / .ofInt pointAgg.count.toNat
    HashMap.push byDevice pointId.device ⟨pointId.point, pointAgg.unit, mean⟩

/-- `flush` when both maps are iterated in the order of their entries. -/
def flush (agg : HashMap PointId PointAgg) (windowStart windowEnd : UInt64) :
    HashMap PointId PointAgg × List AggregatedBatch :=
  let byDevice := agg.entries.foldl (fun byDevice e => flushEntry byDevice e.1 e.2) ∅
  (HashMap.update (fun _ pointAgg => pointAgg.reset) agg,
    byDevice.entries.map fun e => ⟨e.1, windowStart, windowEnd, e.2⟩)

/-- The batches `flush` returns for some order of its two iterations. -/
def Flushes (agg : HashMap PointId PointAgg) (windowStart windowEnd : UInt64)
    (batches : List AggregatedBatch) : Prop :=
  ∃ iterated : HashMap PointId PointAgg, iterated.entries.Perm agg.entries ∧
    batches.Perm (flush iterated windowStart windowEnd).2

/-- The variables of the loop. -/
structure AggregatorLoop where
  agg : HashMap PointId PointAgg
  windowEndUnix : UInt64
  deadline : Instant

/-- The variables on entry to the loop of a task that starts at `startedAt`. -/
def AggregatorLoop.start (agg : HashMap PointId PointAgg) (windowSecs : UInt64)
    (nowUnix : Duration) (startedAt : Instant) : Option AggregatorLoop := do
  let (wait, windowEndUnix) ← nextBoundary nowUnix (.fromSecs windowSecs)
  let deadline ← Instant.add? .latest startedAt wait
  pure ⟨agg, windowEndUnix, deadline⟩

theorem AggregatorLoop.start_eq_some_iff {agg : HashMap PointId PointAgg} {windowSecs : UInt64}
    {nowUnix : Duration} {startedAt : Instant} {loop : AggregatorLoop} :
    start agg windowSecs nowUnix startedAt = some loop ↔
      ∃ wait boundary deadline,
        nextBoundary nowUnix (.fromSecs windowSecs) = some (wait, boundary) ∧
        Instant.add? .latest startedAt wait = some deadline ∧ ⟨agg, boundary, deadline⟩ = loop := by
  simp [start, Option.bind_eq_some_iff]

theorem AggregatorLoop.isSome_start_iff {agg : HashMap PointId PointAgg} {windowSecs : UInt64}
    {nowUnix wait : Duration} {boundary : UInt64} {startedAt : Instant}
    (found : nextBoundary nowUnix (.fromSecs windowSecs) = some (wait, boundary)) :
    (start agg windowSecs nowUnix startedAt).isSome ↔
      startedAt.nanos + wait.nanos ≤ Instant.latest.nanos := by
  simp only [Option.isSome_iff_exists, start_eq_some_iff, found, Instant.add?_eq_some_iff]
  constructor
  · rintro ⟨_, _, _, _, ⟨⟩, ⟨fits, _⟩, _⟩
    exact fits
  · intro fits
    exact ⟨_, wait, boundary, _, rfl, ⟨fits, rfl⟩, rfl⟩

inductive AggregatorTask where
  | running (loop : AggregatorLoop)
  | returned
  | panicked

/-- What `select!` waits for: a reading or the end of the readings, or the
deadline, handled at some later instant. `refusedAt` counts the batches the
publish channel took before it turned out to be closed. -/
inductive AggregatorInput where
  | reading (reading : Reading)
  | inputClosed
  | tick (handledAt : Instant) (refusedAt : Option Nat)

/-- One turn of the loop: the input, with the batches that were sent. -/
inductive AggregatorStep (windowSecs : UInt64) :
    AggregatorTask → AggregatorInput × List AggregatedBatch → AggregatorTask → Prop where
  | reading (loop : AggregatorLoop) (reading : Reading) :
      AggregatorStep windowSecs (.running loop) (.reading reading, [])
        (.running { loop with agg := record loop.agg reading })
  | inputClosed (loop : AggregatorLoop) :
      AggregatorStep windowSecs (.running loop) (.inputClosed, []) .returned
  | tick (loop : AggregatorLoop) (handledAt deadline : Instant) (batches : List AggregatedBatch)
      (due : loop.deadline.nanos ≤ handledAt.nanos)
      (flushed : Flushes loop.agg (loop.windowEndUnix - windowSecs) loop.windowEndUnix batches)
      -- Label and deadline move on from where they were, not from `handledAt`.
      (next : Instant.add? .latest loop.deadline (.fromSecs windowSecs) = some deadline) :
      AggregatorStep windowSecs (.running loop) (.tick handledAt none, batches)
        (.running
          { agg := (flush loop.agg (loop.windowEndUnix - windowSecs) loop.windowEndUnix).1
            windowEndUnix := loop.windowEndUnix + windowSecs
            deadline })
  | overflowed (loop : AggregatorLoop) (handledAt : Instant) (batches : List AggregatedBatch)
      (due : loop.deadline.nanos ≤ handledAt.nanos)
      (flushed : Flushes loop.agg (loop.windowEndUnix - windowSecs) loop.windowEndUnix batches)
      (beyond : Instant.add? .latest loop.deadline (.fromSecs windowSecs) = none) :
      -- The batches are sent when the next deadline turns out to have no representation.
      AggregatorStep windowSecs (.running loop) (.tick handledAt none, batches) .panicked
  | refused (loop : AggregatorLoop) (handledAt : Instant) (batches : List AggregatedBatch)
      (refusedAt : Nat) (due : loop.deadline.nanos ≤ handledAt.nanos)
      (flushed : Flushes loop.agg (loop.windowEndUnix - windowSecs) loop.windowEndUnix batches)
      (left : refusedAt < batches.length) :
      AggregatorStep windowSecs (.running loop)
        (.tick handledAt (some refusedAt), batches.take refusedAt) .returned

end ModbusGateway
