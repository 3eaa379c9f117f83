import ModbusGateway.Gateway
import ModbusGateway.Mqtt.Shutdown

/-!
# The gateway as one system

`run` after its set-up: what it waits for itself, and the tasks it spawned,
with the two channels between them. A step is one task's, up to its next await,
so a flush of the aggregator is as many steps as it sends batches. Time is left
out: a timeout may always be what comes first. The status task is not here.
-/
namespace ModbusGateway

open Foundation

/-- Aggregator to publisher. -/
def batchChannelCapacity : Nat := 64

inductive RunError where
  | mqttSetup (error : MqttSetupError)
  | taskExited (task : String)

/-- What the join handle of the publisher gives: its result, or the error of a task that
panicked or was aborted. -/
inductive PublisherResult where
  | finished (result : Except MqttSetupError Unit)
  | joinError

def publisherExit : PublisherResult → RunError
  | .finished (.error e) => .mqttSetup e
  | .finished (.ok ()) | .joinError => .taskExited "mqtt publisher"

/-- What `run` awaits. -/
inductive Control where
  -- Shutdown, or the end of the publisher or the aggregator.
  | selecting
  -- `pollers.shutdown`, with what `select!` gave.
  | stoppingPollers (failure : Option RunError)
  -- The aggregator, then the publisher, under the grace period.
  | draining
  -- The publisher, once it is aborted.
  | aborting
  | flushingStatus
  | returned (result : Except RunError Unit)

/-- `run_aggregator` between its awaits. -/
inductive AggregatorActivity where
  | selecting (loop : AggregatorLoop)
  -- In the `for` loop over the batches of a flush; the accumulators are reset.
  | sending (loop : AggregatorLoop) (handledAt : Instant) (taken rest : List AggregatedBatch)
  | returned
  | panicked
  | aborted

namespace AggregatorActivity

/-- The task has ended, and with it its ends of both channels. -/
def Ended : AggregatorActivity → Prop
  | .selecting _ | .sending .. => False
  | .returned | .panicked | .aborted => True

instance (activity : AggregatorActivity) : Decidable activity.Ended :=
  match activity with
  | .selecting _ | .sending .. => .isFalse not_false
  | .returned | .panicked | .aborted => .isTrue trivial

theorem running_of_selecting {activity : AggregatorActivity} {loop : AggregatorLoop}
    (selecting : activity = .selecting loop) : ¬activity.Ended := by
  rw [selecting]
  exact not_false

theorem running_of_sending {activity : AggregatorActivity} {loop : AggregatorLoop}
    {handledAt : Instant} {taken rest : List AggregatedBatch}
    (sending : activity = .sending loop handledAt taken rest) : ¬activity.Ended := by
  rw [sending]
  exact not_false

/-- The batches of the current flush that the channel has not taken. -/
def unsent : AggregatorActivity → List AggregatedBatch
  | .sending _ _ _ rest => rest
  | .selecting _ | .returned | .panicked | .aborted => []

end AggregatorActivity

structure System where
  control : Control
  connections : List (ConnectionConfig × Poller)
  readings : List Delivery
  aggregator : AggregatorActivity
  batches : List AggregatedBatch
  publisher : Publisher
  publisherAborted : Bool
  -- `abort` was called on the aggregator and the publisher.
  abortRequested : Bool

/-- What a step did. -/
inductive SystemEvent where
  | poll (connection : ConnectionConfig) (input : PollerInput) (actions : List PollerAction)
  | respawn (connection : ConnectionConfig)
  | receive (delivery : Delivery)
  | readingsClosed
  | flush (handledAt : Instant) (batches : List AggregatedBatch)
  | send (batch : AggregatedBatch)
  | advance (handledAt : Instant) (batches : List AggregatedBatch)
  | refused (handledAt : Instant) (taken : List AggregatedBatch)
  | publish (batch : AggregatedBatch) (queued : Bool)
  | batchesClosed
  | publisher (event : PublisherEvent) (reports : List StatusEvent)
  | shutdownRequested
  | publisherExited
  | aggregatorExited
  | pollersStopped
  | drained
  | graceElapsed
  | aggregatorAborted
  | publisherAborted
  | publisherGone
  | statusWriterDone
  | statusFlushElapsed

/-- Whether a request that does not wait for a slot is taken. -/
def Publisher.hasRoom (publisher : Publisher) : Bool :=
  publisher.eventloop ≠ .returned ∧ publisher.requests.items.length < queueCapacity

/-- Events of the publisher that do not take from the batch channel. -/
def PublisherEvent.Own : PublisherEvent → Prop
  | .batch _ | .inputClosed => False
  | .offlineQueued | .disconnectQueued | .eventloopEnded | .connAck | .connectionError
  | .onlineTask | .requestSent => True

namespace System

/-- The gateway when everything is spawned and the aggregator has its first deadline. -/
def start (config : Config) (nowUnix : Duration) (startedAt : Instant) : Option System :=
  (AggregatorLoop.start (initFromConfig config) config.gateway.aggregationWindowSecs nowUnix
    startedAt).map fun loop =>
      { control := .selecting
        connections := config.connections.map fun connection => (connection, .start connection)
        readings := []
        aggregator := .selecting loop
        batches := []
        publisher := .start
        publisherAborted := false
        abortRequested := false }

/-- `pollers.shutdown` has returned: the tasks with the reading senders are gone. -/
def stopped (system : System) : Bool :=
  match system.control with
  | .selecting | .stoppingPollers _ => false
  | .draining | .aborting | .flushingStatus | .returned _ => true

theorem stopped_of_selecting {system : System} (selecting : system.control = .selecting) :
    system.stopped = false := by
  rw [stopped, selecting]

theorem stopped_of_stopping {system : System} {failure : Option RunError}
    (stopping : system.control = .stoppingPollers failure) : system.stopped = false := by
  rw [stopped, stopping]

/-- The outcome of a poller's `try_send` as things stand. -/
def trySend (system : System) : TrySend :=
  if system.aggregator.Ended then .closed
  else if system.readings.length < readingChannelCapacity then .ok else .full

theorem trySend_ne_closed {system : System} (running : ¬system.aggregator.Ended) :
    system.trySend ≠ .closed := by
  rw [trySend, if_neg running]
  split <;> simp

/-- `run_publisher` has ended, and with it the receiver of the batches. -/
def PublisherEnded (system : System) : Prop :=
  system.publisherAborted = true ∨ system.publisher.phase = .returned

instance (system : System) : Decidable system.PublisherEnded :=
  inferInstanceAs (Decidable (_ ∨ _))

/-- No sender of the status channel is left: the pollers are stopped, and the task that
drives the event loop has returned or was aborted with the publisher. -/
def StatusSendersGone (system : System) : Prop :=
  system.stopped = true ∧
    (system.publisherAborted = true ∨ system.publisher.eventloop = .returned)

inductive Step (config : Config) (qos : QoS) : System → SystemEvent → System → Prop where
  | poll (system : System) (before after : List (ConnectionConfig × Poller))
      (connection : ConnectionConfig) (poller poller' : Poller) (input : PollerInput)
      (actions : List PollerAction) (polling : system.stopped = false)
      (connections : system.connections = before ++ (connection, poller) :: after)
      (answered : ∀ outcome, input = .trySend outcome → outcome = system.trySend)
      (moved : poller.Step connection (input, actions) poller') :
      Step config qos system (.poll connection input actions)
        { system with
          connections := before ++ (connection, poller') :: after
          readings := system.readings ++ deliveries connection actions }
  | respawn (system : System) (before after : List (ConnectionConfig × Poller))
      (connection : ConnectionConfig) (backoff : Backoff) (polling : system.stopped = false)
      (connections : system.connections =
        before ++ (connection, ⟨.panicked, backoff⟩) :: after) :
      Step config qos system (.respawn connection)
        { system with connections := before ++ (connection, .start connection) :: after }
  | receive (system : System) (loop : AggregatorLoop) (delivery : Delivery)
      (readings : List Delivery) (selecting : system.aggregator = .selecting loop)
      (oldest : system.readings = delivery :: readings) :
      Step config qos system (.receive delivery)
        { system with
          readings
          aggregator := .selecting { loop with agg := record loop.agg delivery.reading } }
  | readingsClosed (system : System) (loop : AggregatorLoop)
      (selecting : system.aggregator = .selecting loop) (empty : system.readings = [])
      -- Only the pollers' tasks hold senders; without connections there is none from the start.
      (closed : system.stopped = true ∨ ∀ task ∈ system.connections, task.2.phase = .returned) :
      -- The partial window is dropped.
      Step config qos system .readingsClosed { system with aggregator := .returned }
  | flush (system : System) (loop : AggregatorLoop) (handledAt : Instant)
      (batches : List AggregatedBatch) (selecting : system.aggregator = .selecting loop)
      (due : loop.deadline.nanos ≤ handledAt.nanos)
      (flushed : Flushes loop.agg (loop.windowEndUnix - config.gateway.aggregationWindowSecs)
        loop.windowEndUnix batches) :
      Step config qos system (.flush handledAt batches)
        { system with
          aggregator := .sending
            { loop with agg := (ModbusGateway.flush loop.agg
                (loop.windowEndUnix - config.gateway.aggregationWindowSecs)
                loop.windowEndUnix).1 } handledAt [] batches }
  | send (system : System) (loop : AggregatorLoop) (handledAt : Instant)
      (taken rest : List AggregatedBatch) (batch : AggregatedBatch)
      (sending : system.aggregator = .sending loop handledAt taken (batch :: rest))
      (receiver : ¬system.PublisherEnded)
      -- With a full channel the aggregator waits.
      (room : system.batches.length < batchChannelCapacity) :
      Step config qos system (.send batch)
        { system with
          aggregator := .sending loop handledAt (taken ++ [batch]) rest
          batches := system.batches ++ [batch] }
  | advance (system : System) (loop : AggregatorLoop) (handledAt deadline : Instant)
      (taken : List AggregatedBatch)
      (sending : system.aggregator = .sending loop handledAt taken [])
      (next : Instant.add? .latest loop.deadline (.fromSecs config.gateway.aggregationWindowSecs) =
        some deadline) :
      Step config qos system (.advance handledAt taken)
        { system with
          aggregator := .selecting { loop with
            windowEndUnix := loop.windowEndUnix + config.gateway.aggregationWindowSecs
            deadline } }
  | overflowed (system : System) (loop : AggregatorLoop) (handledAt : Instant)
      (taken : List AggregatedBatch)
      (sending : system.aggregator = .sending loop handledAt taken [])
      (beyond : Instant.add? .latest loop.deadline
        (.fromSecs config.gateway.aggregationWindowSecs) = none) :
      -- Everything is sent when the next deadline turns out to have no representation.
      Step config qos system (.advance handledAt taken) { system with aggregator := .panicked }
  | refused (system : System) (loop : AggregatorLoop) (handledAt : Instant)
      (taken rest : List AggregatedBatch) (batch : AggregatedBatch)
      (sending : system.aggregator = .sending loop handledAt taken (batch :: rest))
      (closed : system.PublisherEnded) :
      Step config qos system (.refused handledAt taken) { system with aggregator := .returned }
  | publish (system : System) (batch : AggregatedBatch) (batches : List AggregatedBatch)
      (publisher' : Publisher) (running : system.publisherAborted = false)
      (oldest : system.batches = batch :: batches)
      (moved : system.publisher.Step config.mqtt config.gateway qos (.batch batch, []) publisher') :
      Step config qos system (.publish batch system.publisher.hasRoom)
        { system with batches, publisher := publisher' }
  | batchesClosed (system : System) (publisher' : Publisher)
      (running : system.publisherAborted = false) (empty : system.batches = [])
      -- The aggregator holds the only sender.
      (closed : system.aggregator.Ended)
      (moved : system.publisher.Step config.mqtt config.gateway qos (.inputClosed, []) publisher') :
      Step config qos system .batchesClosed { system with publisher := publisher' }
  | publisher (system : System) (event : PublisherEvent) (reports : List StatusEvent)
      (publisher' : Publisher) (running : system.publisherAborted = false) (own : event.Own)
      (moved : system.publisher.Step config.mqtt config.gateway qos (event, reports) publisher') :
      Step config qos system (.publisher event reports) { system with publisher := publisher' }
  | shutdownRequested (system : System) (selecting : system.control = .selecting) :
      Step config qos system .shutdownRequested { system with control := .stoppingPollers none }
  | publisherExited (system : System) (selecting : system.control = .selecting)
      (ended : system.publisher.phase = .returned) :
      -- The publisher's own set-up repeats a check that `run` has made.
      Step config qos system .publisherExited
        { system with control := .stoppingPollers (some (publisherExit (.finished (.ok ())))) }
  | aggregatorExited (system : System) (selecting : system.control = .selecting)
      (ended : system.aggregator.Ended) :
      Step config qos system .aggregatorExited
        { system with control := .stoppingPollers (some (.taskExited "aggregator")) }
  | pollersStopped (system : System) (failure : Option RunError)
      (stopping : system.control = .stoppingPollers failure) :
      Step config qos system .pollersStopped
        (match failure with
        | some e => { system with control := .returned (.error e), abortRequested := true }
        | none => { system with control := .draining })
  | drained (system : System) (draining : system.control = .draining)
      (aggregator : system.aggregator.Ended) (publisher : system.publisher.phase = .returned) :
      Step config qos system .drained { system with control := .flushingStatus }
  | graceElapsed (system : System) (draining : system.control = .draining) :
      Step config qos system .graceElapsed
        { system with control := .aborting, abortRequested := true }
  -- An abort takes effect at some later await of the task, if it has not ended by then.
  | aggregatorAborted (system : System) (requested : system.abortRequested = true)
      (running : ¬system.aggregator.Ended) :
      Step config qos system .aggregatorAborted { system with aggregator := .aborted }
  | publisherAborted (system : System) (requested : system.abortRequested = true)
      (running : ¬system.PublisherEnded) :
      Step config qos system .publisherAborted { system with publisherAborted := true }
  | publisherGone (system : System) (aborting : system.control = .aborting)
      (ended : system.PublisherEnded) :
      Step config qos system .publisherGone { system with control := .flushingStatus }
  | statusWriterDone (system : System) (flushing : system.control = .flushingStatus)
      (senders : system.StatusSendersGone) :
      Step config qos system .statusWriterDone { system with control := .returned (.ok ()) }
  | statusFlushElapsed (system : System) (flushing : system.control = .flushingStatus) :
      Step config qos system .statusFlushElapsed { system with control := .returned (.ok ()) }

end System

end ModbusGateway
