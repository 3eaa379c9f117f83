import ModbusGateway.Foundation.Runs
import ModbusGateway.Foundation.HashMap
import ModbusGateway.Foundation.BoundedQueue
import ModbusGateway.Foundation.Spans
import ModbusGateway.Foundation.Checks
import ModbusGateway.Foundation.Layout
import ModbusGateway.Foundation.Keyed
import ModbusGateway.Foundation.Since
import ModbusGateway.Foundation.BaseFields
import ModbusGateway.Foundation.Utf8
import ModbusGateway.F64
import ModbusGateway.Time
import ModbusGateway.Config.Schema
import ModbusGateway.Config.Validate
import ModbusGateway.Config.WellFormed
import ModbusGateway.Types
import ModbusGateway.Status
import ModbusGateway.Modbus.Decode
import ModbusGateway.Modbus.Poller
import ModbusGateway.Modbus.PollTick
import ModbusGateway.Modbus.Wire
import ModbusGateway.Modbus.Retry
import ModbusGateway.Modbus.ShortReply
import ModbusGateway.Aggregator
import ModbusGateway.Aggregator.Window
import ModbusGateway.Aggregator.Schedule
import ModbusGateway.Aggregator.Configured
import ModbusGateway.Senml
import ModbusGateway.Senml.Resolve
import ModbusGateway.Gateway
import ModbusGateway.Gateway.Delivery
import ModbusGateway.Gateway.Origin
import ModbusGateway.Gateway.Completeness
import ModbusGateway.Gateway.Numbers
import ModbusGateway.Mqtt
import ModbusGateway.Mqtt.Shutdown
import ModbusGateway.Status.State
import ModbusGateway.Status.History
import ModbusGateway.Mqtt.Eventloop
import ModbusGateway.Status.Render
import ModbusGateway.Status.Writer
import ModbusGateway.Status.View
import ModbusGateway.Status.Polling
import ModbusGateway.Status.Agreement
import ModbusGateway.Foundation.Pieces
import ModbusGateway.Mqtt.Topic
import ModbusGateway.Status.Display
import ModbusGateway.Status.Pace
import ModbusGateway.Foundation.FileSystem
import ModbusGateway.Status.AtomicWrite
import ModbusGateway.Config.Culprit
import ModbusGateway.Syslog
import ModbusGateway.Syslog.Pacing
import ModbusGateway.Foundation.Record
import ModbusGateway.Config.Deserialize
import ModbusGateway.Config.Exclusive
import ModbusGateway.Foundation.Simulation
import ModbusGateway.System
import ModbusGateway.System.Refinement
import ModbusGateway.Mqtt.Progress
import ModbusGateway.System.Lifecycle
import ModbusGateway.System.Batches
import ModbusGateway.System.Wire
import ModbusGateway.System.Shutdown
import ModbusGateway.Foundation.Json
import ModbusGateway.Senml.Payload
import ModbusGateway.Status.Task
import ModbusGateway.Config.Written
import ModbusGateway.Modbus.Connect
import ModbusGateway.System.Startup
import ModbusGateway.Modbus.Bus
import ModbusGateway.Syslog.Message
import ModbusGateway.System.Panics
import ModbusGateway.System.Reporting
import ModbusGateway.System.Display
