import ModbusGateway.Config.Schema
import ModbusGateway.Foundation.BoundedQueue
import ModbusGateway.Foundation.Runs
import ModbusGateway.Senml
import ModbusGateway.Status

/-!
# The MQTT publisher

`run_publisher` with what it spawns: the task that drives the event loop, and
one task for each ConnAck that publishes "online". They share one bounded
request queue; the event loop writes its requests to the wire in order. A step
is one task's, up to the next point where it awaits something.

The client is one that keeps its queue when a connection fails, and writes no
request twice. `rumqttc` sets the queue aside then, takes it up again only where
the broker still has the session, and repeats what was not acknowledged; past a
connection error `sent` need not be what the wire has seen.
-/
namespace ModbusGateway

open Foundation

/-- Capacity of the request queue. -/
def queueCapacity : Nat := 100

def online : String := "online"
def offline : String := "offline"

/-- Retained online/offline topic, a fixed pattern. -/
def statusTopic (gatewayId : String) : String := s!"telemetry/{gatewayId}/status"

/-- `str::replace`: one pass from the left, over occurrences that do not overlap. The
number counts the characters of an occurrence that are still to be passed over. -/
def replaceFrom (pattern replacement : List Char) : Nat → List Char → List Char
  | _, [] => []
  | skip + 1, _ :: rest => replaceFrom pattern replacement skip rest
  | 0, c :: rest =>
    if pattern.isPrefixOf (c :: rest) then
      replacement ++ replaceFrom pattern replacement (pattern.length - 1) rest
    else c :: replaceFrom pattern replacement 0 rest

def batchTopic (topicTemplate deviceId : String) : String :=
  .ofList (replaceFrom "\x7bdevice\x7d".toList deviceId.toList 0 topicTemplate.toList)

inductive QoS where
  | atMostOnce
  | atLeastOnce
  | exactlyOnce
  deriving DecidableEq

/-- The error of `qos`; the errors of the rest of the set-up are cases of `SetupError`. -/
inductive MqttSetupError where
  | invalidQos (value : UInt8)

def qos (value : UInt8) : Except MqttSetupError QoS :=
  match value with
  | 0 => .ok .atMostOnce
  | 1 => .ok .atLeastOnce
  | 2 => .ok .exactlyOnce
  | _ => .error (.invalidQos value)

inductive Payload where
  | pack (records : List SenmlRecord)
  | text (message : String)
  deriving DecidableEq

structure Message where
  topic : String
  qos : QoS
  retain : Bool
  payload : Payload
  deriving DecidableEq

/-- What a client puts in the request queue. -/
inductive Request where
  | publish (message : Message)
  | disconnect
  deriving DecidableEq

/-- The tasks that hold a client. -/
inductive Caller where
  | publisher
  | onlineTask
  deriving DecidableEq

/-- Where `run_publisher` awaits: the next batch, the slot for "offline", the slot for
the disconnect, and the end of the event loop. -/
inductive PublisherPhase where
  | receiving
  | publishingOffline
  | disconnecting
  | joining
  | returned
  deriving DecidableEq

inductive Eventloop where
  | disconnected
  | connected
  | returned
  deriving DecidableEq

structure Publisher where
  phase : PublisherPhase
  requests : BoundedQueue queueCapacity (Caller × Request)
  eventloop : Eventloop
  -- Tasks spawned for a ConnAck that have not come to publish yet.
  onlineTasks : Nat
  sent : List Request

inductive PublisherEvent where
  | batch (batch : AggregatedBatch)
  | inputClosed
  | offlineQueued
  | disconnectQueued
  | eventloopEnded
  | connAck
  | connectionError
  | onlineTask
  | requestSent
  deriving DecidableEq

namespace Publisher

/-- `run_publisher` when it first awaits a batch. -/
def start : Publisher := ⟨.receiving, .empty, .disconnected, 0, []⟩

/-- `publish` or `disconnect` of a client; an error once the event loop is gone. -/
def issue (publisher : Publisher) (caller : Caller) (request : Request) : Publisher :=
  if publisher.eventloop = .returned then publisher
  else { publisher with requests := publisher.requests.send (caller, request) }

/-- `try_publish` of a batch, which drops it when the queue is full. -/
def tryIssue (publisher : Publisher) (request : Request) : Publisher :=
  -- Once the event loop is gone the error is logged, as that of a full queue is.
  if publisher.eventloop = .returned then publisher
  else match publisher.requests.trySend (.publisher, request) with
    | some requests => { publisher with requests }
    | none => publisher

/-- Whether the publisher still awaits a slot. -/
def awaitsSlot (publisher : Publisher) : Bool :=
  publisher.requests.waiting.any fun waiting => waiting.1 = .publisher

section

variable (mqtt : MqttConfig) (gateway : GatewayConfig) (qos : QoS)

def telemetry (batch : AggregatedBatch) : Request :=
  .publish ⟨batchTopic mqtt.topicTemplate batch.deviceId, qos, false,
    .pack (encodeSenml batch gateway.baseNamePrefix)⟩

/-- A retained message on the status topic. -/
def statusMessage (text : String) : Request :=
  .publish ⟨statusTopic gateway.id, .atLeastOnce, true, .text text⟩

/-- One step, with what the event loop's task reports; no result where the event does
not fit. -/
def next (publisher : Publisher) : PublisherEvent → Option (Publisher × List StatusEvent)
  | .batch batch =>
    if publisher.phase = .receiving then
      some (publisher.tryIssue (telemetry mqtt gateway qos batch), [])
    else none
  | .inputClosed =>
    if publisher.phase = .receiving then
      some ({ publisher.issue .publisher (statusMessage gateway offline) with
        phase := .publishingOffline }, [])
    else none
  -- The two awaits return once their request is in the queue.
  | .offlineQueued =>
    if publisher.phase = .publishingOffline ∧ !publisher.awaitsSlot then
      some ({ publisher.issue .publisher .disconnect with phase := .disconnecting }, [])
    else none
  | .disconnectQueued =>
    if publisher.phase = .disconnecting ∧ !publisher.awaitsSlot then
      some ({ publisher with phase := .joining }, [])
    else none
  | .eventloopEnded =>
    if publisher.phase = .joining ∧ publisher.eventloop = .returned then
      some ({ publisher with phase := .returned }, [])
    else none
  | .connAck =>
    if publisher.eventloop = .disconnected then
      some ({ publisher with
        eventloop := .connected, onlineTasks := publisher.onlineTasks + 1 }, [.mqttConnected])
    else none
  -- The queue outlives the connection; that of `rumqttc` may be dropped, or sent again.
  | .connectionError =>
    if publisher.eventloop ≠ .returned then
      some ({ publisher with eventloop := .disconnected }, [.mqttDisconnected])
    else none
  | .onlineTask =>
    match publisher.onlineTasks with
    | 0 => none
    | onlineTasks + 1 =>
      some ({ publisher.issue .onlineTask (statusMessage gateway online) with onlineTasks }, [])
  | .requestSent =>
    if publisher.eventloop = .connected then
      match publisher.requests.receive with
      | none => none
      | some ((_, request), requests) =>
        let publisher := { publisher with requests, sent := publisher.sent ++ [request] }
        -- The loop returns on the event that its DISCONNECT went out.
        if request = .disconnect then
          some ({ publisher with eventloop := .returned }, [.mqttDisconnected])
        else some (publisher, [])
    else none

def Step (publisher : Publisher) (event : PublisherEvent × List StatusEvent)
    (publisher' : Publisher) : Prop :=
  publisher.next mqtt gateway qos event.1 = some (publisher', event.2)

end

end Publisher

end ModbusGateway
