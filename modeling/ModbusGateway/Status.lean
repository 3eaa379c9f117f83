/-!
# Status events

What pollers and the MQTT event loop report to the status task.
-/
namespace ModbusGateway

inductive StatusEvent where
  | connectionUp (connectionId : String)
  | connectionDown (connectionId : String)
  | deviceOk (connectionId deviceId : String)
  | deviceProblem (connectionId deviceId reason : String)
  | mqttConnected
  | mqttDisconnected
  deriving DecidableEq

end ModbusGateway
