import ModbusGateway.Aggregator.Configured
import ModbusGateway.Modbus.Poller

/-!
# From the pollers to the aggregator

The part of `run` that readings pass through: one supervised poller for each
connection, the bounded channel they share, and the aggregator. A step is one
task's, so a run is any interleaving of them. The channel carries readings
only; here each keeps the reply it was decoded from.
-/
namespace ModbusGateway

open Foundation

/-- Pollers to aggregator. -/
def readingChannelCapacity : Nat := 1024

/-- A successful read of a block. -/
structure BlockRead where
  connection : ConnectionConfig
  device : DeviceConfig
  block : BlockConfig
  words : List UInt16
  deriving DecidableEq

/-- A reading in the channel, with the read it comes from. -/
structure Delivery extends BlockRead where
  reading : Reading
  deriving DecidableEq

structure Gateway where
  connections : List (ConnectionConfig × Poller)
  channel : List Delivery
  aggregator : AggregatorTask
  -- Set by `pollers.shutdown`, which also drops the channel's senders.
  stopped : Bool

/-- What a step did, as seen from outside. -/
inductive GatewayEvent where
  | poll (connection : ConnectionConfig) (input : PollerInput) (actions : List PollerAction)
  | respawn (connection : ConnectionConfig)
  | shutdown
  | receive (delivery : Delivery)
  | inputClosed
  | tick (handledAt : Instant) (refusedAt : Option Nat) (batches : List AggregatedBatch)

/-- The outcome of a `try_send` into the channel as it stands. -/
def trySend (channel : List Delivery) : AggregatorTask → TrySend
  | .returned | .panicked => .closed
  | .running _ => if channel.length < readingChannelCapacity then .ok else .full

/-- What an action adds to the channel. -/
def PollerAction.delivery? (connection : ConnectionConfig) : PollerAction → Option Delivery
  | .offer device block words reading .ok => some ⟨⟨connection, device, block, words⟩, reading⟩
  | _ => none

def deliveries (connection : ConnectionConfig) (actions : List PollerAction) : List Delivery :=
  actions.filterMap (PollerAction.delivery? connection)

/-- The tasks as they are spawned. -/
def Gateway.start (config : Config) (nowUnix : Duration) (startedAt : Instant) :
    Option Gateway :=
  (AggregatorLoop.start (initFromConfig config) config.gateway.aggregationWindowSecs nowUnix
    startedAt).map fun loop =>
      ⟨config.connections.map fun connection => (connection, Poller.start connection), [],
        .running loop, false⟩

inductive GatewayStep (config : Config) : Gateway → GatewayEvent → Gateway → Prop where
  | poll (before after : List (ConnectionConfig × Poller)) (connection : ConnectionConfig)
      (poller poller' : Poller) (input : PollerInput) (actions : List PollerAction)
      (channel : List Delivery) (aggregator : AggregatorTask)
      -- A poller learns from `try_send` what the channel is like at that moment.
      (answered : ∀ outcome, input = .trySend outcome → outcome = trySend channel aggregator)
      (moved : poller.Step connection (input, actions) poller') :
      GatewayStep config
        ⟨before ++ (connection, poller) :: after, channel, aggregator, false⟩
        (.poll connection input actions)
        ⟨before ++ (connection, poller') :: after, channel ++ deliveries connection actions,
          aggregator, false⟩
  | respawn (before after : List (ConnectionConfig × Poller)) (connection : ConnectionConfig)
      (backoff : Backoff) (channel : List Delivery) (aggregator : AggregatorTask) :
      GatewayStep config
        ⟨before ++ (connection, ⟨.panicked, backoff⟩) :: after, channel, aggregator, false⟩
        (.respawn connection)
        ⟨before ++ (connection, Poller.start connection) :: after, channel, aggregator, false⟩
  | shutdown (connections : List (ConnectionConfig × Poller)) (channel : List Delivery)
      (aggregator : AggregatorTask) :
      GatewayStep config ⟨connections, channel, aggregator, false⟩ .shutdown
        ⟨connections, channel, aggregator, true⟩
  | receive (connections : List (ConnectionConfig × Poller)) (delivery : Delivery)
      (channel : List Delivery) (aggregator aggregator' : AggregatorTask) (stopped : Bool)
      (moved : AggregatorStep config.gateway.aggregationWindowSecs aggregator
        (.reading delivery.reading, []) aggregator') :
      GatewayStep config ⟨connections, delivery :: channel, aggregator, stopped⟩
        (.receive delivery) ⟨connections, channel, aggregator', stopped⟩
  | inputClosed (connections : List (ConnectionConfig × Poller))
      (aggregator aggregator' : AggregatorTask) (stopped : Bool)
      -- Only the pollers' tasks hold senders; without connections there is none from the start.
      (closed : stopped = true ∨ ∀ task ∈ connections, task.2.phase = .returned)
      (moved : AggregatorStep config.gateway.aggregationWindowSecs aggregator
        (.inputClosed, []) aggregator') :
      GatewayStep config ⟨connections, [], aggregator, stopped⟩ .inputClosed
        ⟨connections, [], aggregator', stopped⟩
  | tick (connections : List (ConnectionConfig × Poller)) (channel : List Delivery)
      (aggregator aggregator' : AggregatorTask) (stopped : Bool) (handledAt : Instant)
      (refusedAt : Option Nat) (batches : List AggregatedBatch)
      (moved : AggregatorStep config.gateway.aggregationWindowSecs aggregator
        (.tick handledAt refusedAt, batches) aggregator') :
      GatewayStep config ⟨connections, channel, aggregator, stopped⟩
        (.tick handledAt refusedAt batches) ⟨connections, channel, aggregator', stopped⟩

/-! ### The aggregator's part of a run -/

def GatewayEvent.aggregator? : GatewayEvent → Option AggregatorEvent
  | .receive delivery => some (.reading delivery.reading, [])
  | .inputClosed => some (.inputClosed, [])
  | .tick handledAt refusedAt batches => some (.tick handledAt refusedAt, batches)
  | .poll .. | .respawn .. | .shutdown => none

def aggregatorEvents (events : List GatewayEvent) : List AggregatorEvent :=
  events.filterMap GatewayEvent.aggregator?

/-- The deliveries received since the last tick. -/
def windowDeliveries (events : List GatewayEvent) : List Delivery :=
  events.foldl (fun deliveries event =>
    match event with
    | .receive delivery => deliveries ++ [delivery]
    | .tick .. => []
    | _ => deliveries) []

theorem aggregatorEvents_snoc (events : List GatewayEvent) (event : GatewayEvent) :
    aggregatorEvents (events ++ [event]) =
      aggregatorEvents events ++ event.aggregator?.toList := by
  cases event <;> simp [aggregatorEvents, GatewayEvent.aggregator?]

theorem windowDeliveries_snoc (events : List GatewayEvent) (event : GatewayEvent) :
    windowDeliveries (events ++ [event]) =
      match event with
      | .receive delivery => windowDeliveries events ++ [delivery]
      | .tick .. => []
      | _ => windowDeliveries events := by
  cases event <;> simp [windowDeliveries]

theorem windowReadings_aggregatorEvents (events : List GatewayEvent) :
    windowReadings (aggregatorEvents events) = (windowDeliveries events).map Delivery.reading := by
  induction events using List.reverseRecOn with
  | nil => rfl
  | append_singleton events event ih =>
    rw [aggregatorEvents_snoc, windowDeliveries_snoc]
    cases event <;> simp [GatewayEvent.aggregator?, windowReadings_snoc, ih]

variable {config : Config}

/-- A run of the gateway is a run of its aggregator. -/
theorem aggregator_run {gateway gateway' : Gateway} {events : List GatewayEvent}
    (run : Run (GatewayStep config) gateway events gateway') :
    Run (AggregatorStep config.gateway.aggregationWindowSecs) gateway.aggregator
      (aggregatorEvents events) gateway'.aggregator := by
  induction run with
  | refl => exact .refl _
  | snoc _ moved ih =>
    rw [aggregatorEvents_snoc]
    cases moved with
    | poll | respawn | shutdown => simpa [GatewayEvent.aggregator?] using ih
    | receive _ _ _ _ _ _ moved => exact .snoc ih moved
    | inputClosed _ _ _ _ _ moved => exact .snoc ih moved
    | tick _ _ _ _ _ _ _ _ moved => exact .snoc ih moved

/-- While the aggregator runs, every batch so far has been sent. -/
theorem sent_of_running {windowSecs : UInt64} {task : AggregatorTask} {loop : AggregatorLoop}
    {events : List AggregatorEvent}
    (run : Run (AggregatorStep windowSecs) task events (.running loop)) :
    ∀ event ∈ events, event.Sent := by
  -- A refused batch ends the task, so no step of the run refused one.
  generalize reached : AggregatorTask.running loop = task' at run
  induction run generalizing loop with
  | refl => simp
  | @snoc t u events event before moved ih =>
    subst reached
    obtain ⟨input, batches⟩ := event
    have running : ∃ loop', AggregatorTask.running loop' = t ∧
        AggregatorEvent.Sent (input, batches) := by
      cases moved with
      | reading loop' => exact ⟨loop', rfl, by simp [AggregatorEvent.Sent]⟩
      | tick loop' => exact ⟨loop', rfl, by simp [AggregatorEvent.Sent]⟩
    obtain ⟨loop', earlier, sent⟩ := running
    intro event member
    rcases List.mem_append.mp member with member | member
    · exact ih earlier event member
    · rw [List.mem_singleton.mp member]
      exact sent

/-- What a tick flushes: the accumulators of the deliveries since the last one. -/
theorem tick_contents {gateway₀ gateway gateway' : Gateway} {nowUnix : Duration}
    {startedAt handledAt : Instant} {events : List GatewayEvent}
    {batches : List AggregatedBatch} (started : Gateway.start config nowUnix startedAt = some gateway₀)
    (run : Run (GatewayStep config) gateway₀ events gateway)
    (ticked : GatewayStep config gateway (.tick handledAt none batches) gateway') :
    (contents batches).Perm ((initFromConfig config).entries.filterMap fun e =>
      flushedPoint e.1 (.accumulated e.2.unit
        (valuesOf e.1 ((windowDeliveries events).map Delivery.reading)))) := by
  obtain ⟨loop₀, initial, rfl⟩ := Option.map_eq_some_iff.mp started
  obtain ⟨_, _, _, _, _, rfl⟩ := AggregatorLoop.start_eq_some_iff.mp initial
  have projected := aggregator_run run
  cases ticked with
  | tick _ _ _ _ _ _ _ _ moved =>
    cases moved with
    | tick loop _ _ _ _ flushed | overflowed loop _ _ _ flushed =>
      have now := agg_of_run (fresh_initFromConfig config) projected
        (sent_of_running projected) loop rfl
      refine (flushes_spec flushed).1.trans (List.Perm.of_eq ?_)
      rw [now, windowReadings_aggregatorEvents]
      simp only [accumulators, HashMap.entries_update, List.filterMap_map, Function.comp_def]

end ModbusGateway
