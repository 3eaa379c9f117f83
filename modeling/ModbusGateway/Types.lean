import ModbusGateway.F64

/-!
# What the tasks exchange

Readings go from the pollers to the aggregator, batches from the aggregator to
the publisher.
-/
namespace ModbusGateway

structure PointId where
  device : String
  point : String
  deriving DecidableEq

structure Reading where
  pointId : PointId
  value : F64
  deriving DecidableEq

structure AggregatedPoint where
  name : String
  unit : String
  mean : F64
  deriving DecidableEq

structure AggregatedBatch where
  deviceId : String
  windowStart : UInt64
  windowEnd : UInt64
  points : List AggregatedPoint
  deriving DecidableEq

end ModbusGateway
