import ModbusGateway.Aggregator.Schedule
import ModbusGateway.System.Lifecycle

/-!
# From a flush to the request queue

What becomes of the batches of a flush: they go through the channel and into the
request queue in order, a full request queue drops some, and an abort loses what
has not come through the channel.
-/
namespace ModbusGateway

open Foundation

namespace SystemEvent

def flushed : SystemEvent → List AggregatedBatch
  | .flush _ batches => batches
  | _ => []

/-- The batch the publisher takes from the channel. -/
def taken : SystemEvent → List AggregatedBatch
  | .publish batch _ => [batch]
  | _ => []

/-- The batch whose pack enters the request queue. -/
def queued : SystemEvent → List AggregatedBatch
  | .publish batch queued => if queued then [batch] else []
  | _ => []

def isFlush : SystemEvent → Bool
  | .flush .. => true
  | _ => false

theorem queued_sublist_taken (event : SystemEvent) : event.queued.Sublist event.taken := by
  cases event with
  | publish batch queued => cases queued <;> simp [queued, taken]
  | _ => exact List.Sublist.refl _

end SystemEvent

/-- The number of flushes begun in a run. -/
def flushes (events : List SystemEvent) : Nat := events.countP SystemEvent.isFlush

/-- Requests that publish telemetry. -/
def Request.isPack : Request → Bool
  | .publish ⟨_, _, _, .pack _⟩ => true
  | .publish ⟨_, _, _, .text _⟩ | .disconnect => false

/-- The telemetry among some requests. -/
def packs (requests : List Request) : List Request := requests.filter Request.isPack

theorem packs_append (requests requests' : List Request) :
    packs (requests ++ requests') = packs requests ++ packs requests' :=
  List.filter_append ..

namespace Publisher

variable {mqtt : MqttConfig} {gateway : GatewayConfig} {qos : QoS}

@[simp] theorem isPack_telemetry (batch : AggregatedBatch) :
    (telemetry mqtt gateway qos batch).isPack = true := rfl

@[simp] theorem isPack_statusMessage (text : String) :
    (statusMessage gateway text).isPack = false := rfl

theorem tryIssue_line (publisher : Publisher) (request : Request) :
    (publisher.tryIssue request).line =
      publisher.line ++ if publisher.hasRoom then [request] else [] := by
  unfold tryIssue
  split
  next gone => simp [hasRoom, gone]
  next running =>
    cases taken : publisher.requests.trySend (.publisher, request) with
    | some requests =>
      have room : publisher.requests.items.length < queueCapacity := by
        by_contra full
        simp [BoundedQueue.trySend, full] at taken
      simp [hasRoom, running, room, line, BoundedQueue.line_trySend taken]
    | none =>
      have full : ¬publisher.requests.items.length < queueCapacity := by
        intro room
        simp [BoundedQueue.trySend, room] at taken
      simp [hasRoom, full]

/-- Apart from the batches it gets, the publisher puts no telemetry on the line. -/
theorem Moves.packs_line {publisher publisher' : Publisher} {event : PublisherEvent}
    {reports : List StatusEvent} (moves : Moves mqtt gateway qos publisher event reports publisher')
    (other : ∀ batch, event ≠ .batch batch) :
    packs publisher'.line = packs publisher.line := by
  have issued (caller : Caller) (text : String) :
      packs (publisher.issue caller (statusMessage gateway text)).line = packs publisher.line := by
    rcases issue_line_cases publisher caller (statusMessage gateway text) with issued | same
    · rw [issued, packs_append]
      simp [packs]
    · rw [same]
  cases moves with
  | batch batch => exact absurd rfl (other batch)
  | inputClosed => exact issued .publisher offline
  | onlineTask => exact issued .onlineTask online
  | offlineQueued =>
    have shape : packs (publisher.issue .publisher .disconnect).line = packs publisher.line := by
      rcases issue_line_cases publisher .publisher .disconnect with issued | same
      · rw [issued, packs_append]
        simp [packs, Request.isPack]
      · rw [same]
    exact shape
  | disconnectQueued | eventloopEnded | connAck | connectionError => rfl
  | requestSent _ _ _ _ oldest | disconnectSent _ _ _ oldest =>
    simp [line, BoundedQueue.line_receive oldest]

end Publisher

namespace System

variable {config : Config} {qos : QoS}

/-- Where the batches flushed so far are. -/
structure Ledger (config : Config) (qos : QoS) (events : List SystemEvent) (system : System) :
    Prop where
  flushed : ∃ lost, events.flatMap SystemEvent.flushed =
      events.flatMap SystemEvent.taken ++ system.batches ++ system.aggregator.unsent ++ lost ∧
    (lost ≠ [] → system.aggregator.Ended ∧ system.abortRequested = true)
  line : packs system.publisher.line =
    (events.flatMap SystemEvent.queued).map (Publisher.telemetry config.mqtt config.gateway qos)

theorem flatMap_snoc {β : Type} (f : SystemEvent → List β) (events : List SystemEvent)
    (event : SystemEvent) : (events ++ [event]).flatMap f = events.flatMap f ++ f event := by
  simp

/-- Steps that move no batch. -/
theorem Ledger.still {events : List SystemEvent} {system system' : System} {event : SystemEvent}
    (ledger : Ledger config qos events system) (flushed : event.flushed = [])
    (taken : event.taken = []) (queued : event.queued = [])
    (batches : system'.batches = system.batches)
    (unsent : system'.aggregator.unsent = system.aggregator.unsent)
    (ended : system.aggregator.Ended → system'.aggregator.Ended)
    (requested : system.abortRequested = true → system'.abortRequested = true)
    (line : packs system'.publisher.line = packs system.publisher.line) :
    Ledger config qos (events ++ [event]) system' := by
  obtain ⟨lost, balance, late⟩ := ledger.flushed
  refine ⟨⟨lost, ?_, fun some => (late some).imp ended requested⟩, ?_⟩
  · rw [flatMap_snoc, flatMap_snoc, flushed, taken, batches, unsent, List.append_nil,
      List.append_nil, balance]
  · rw [flatMap_snoc, queued, List.append_nil, line, ledger.line]

/-- A flush that is cut off loses what the channel has not taken. -/
theorem Ledger.cut {events : List SystemEvent} {system system' : System} {event : SystemEvent}
    (ledger : Ledger config qos events system) (running : ¬system.aggregator.Ended)
    (flushed : event.flushed = []) (taken : event.taken = []) (queued : event.queued = [])
    (batches : system'.batches = system.batches) (unsent : system'.aggregator.unsent = [])
    (ended : system'.aggregator.Ended)
    (requested : system.aggregator.unsent ≠ [] → system'.abortRequested = true)
    (publisher : system'.publisher = system.publisher) :
    Ledger config qos (events ++ [event]) system' := by
  obtain ⟨lost, balance, late⟩ := ledger.flushed
  obtain rfl : lost = [] := Classical.byContradiction fun some => running (late some).1
  refine ⟨⟨system.aggregator.unsent, ?_, fun some => ⟨ended, requested some⟩⟩, ?_⟩
  · rw [flatMap_snoc, flatMap_snoc, flushed, taken, batches, unsent, List.append_nil,
      List.append_nil, balance, List.append_nil, List.append_nil]
  · rw [flatMap_snoc, queued, List.append_nil, publisher, ledger.line]

theorem queued_sublist_taken (events : List SystemEvent) :
    (events.flatMap SystemEvent.queued).Sublist (events.flatMap SystemEvent.taken) := by
  induction events with
  | nil => exact List.Sublist.slnil
  | cons event events ih => exact event.queued_sublist_taken.append ih

theorem Ledger.step {events : List SystemEvent} {system system' : System} {event : SystemEvent}
    (ledger : Ledger config qos events system) (inv : Inv config system)
    (moved : Step config qos system event system') :
    Ledger config qos (events ++ [event]) system' := by
  cases moved with
  | flush loop handledAt batches selecting =>
    obtain ⟨lost, balance, late⟩ := ledger.flushed
    obtain rfl : lost = [] := Classical.byContradiction fun some =>
      AggregatorActivity.running_of_selecting selecting (late some).1
    refine ⟨⟨[], ?_, nofun⟩, ?_⟩
    · rw [flatMap_snoc, flatMap_snoc, balance]
      simp [selecting, AggregatorActivity.unsent, SystemEvent.flushed, SystemEvent.taken]
    · simpa [SystemEvent.queued] using ledger.line
  | send loop handledAt taken rest batch sending =>
    obtain ⟨lost, balance, late⟩ := ledger.flushed
    refine ⟨⟨lost, ?_, fun some => ?_⟩, ?_⟩
    · rw [flatMap_snoc, flatMap_snoc, balance]
      simp [sending, AggregatorActivity.unsent, SystemEvent.flushed, SystemEvent.taken]
    · exact absurd (late some).1 (AggregatorActivity.running_of_sending sending)
    · simpa [SystemEvent.queued] using ledger.line
  | publish batch batches publisher' running oldest moved =>
    obtain ⟨lost, balance, late⟩ := ledger.flushed
    refine ⟨⟨lost, ?_, late⟩, ?_⟩
    · rw [flatMap_snoc, flatMap_snoc, balance]
      simp [oldest, SystemEvent.flushed, SystemEvent.taken]
    · cases Publisher.step_iff_moves.mp moved
      rw [flatMap_snoc, Publisher.tryIssue_line, packs_append, ledger.line, List.map_append]
      cases room : system.publisher.hasRoom <;> simp [SystemEvent.queued, packs]
  | readingsClosed loop selecting =>
    exact ledger.cut (AggregatorActivity.running_of_selecting selecting) rfl rfl rfl rfl rfl trivial
      (fun some => absurd (by simp [selecting, AggregatorActivity.unsent]) some) rfl
  | refused loop handledAt taken rest batch sending closed =>
    have running := AggregatorActivity.running_of_sending sending
    refine ledger.cut running rfl rfl rfl rfl rfl trivial (fun _ => ?_) rfl
    -- The publisher outlives the aggregator unless it was aborted.
    refine inv.aborts.publisher (Bool.not_eq_false _ ▸ fun spared => ?_)
    exact inv.feeding.not_ended running spared closed
  | aggregatorAborted requested running =>
    exact ledger.cut running rfl rfl rfl rfl rfl trivial (fun _ => requested) rfl
  | receive loop delivery readings selecting =>
    exact ledger.still rfl rfl rfl rfl (by simp [selecting, AggregatorActivity.unsent])
      (absurd · (AggregatorActivity.running_of_selecting selecting)) id rfl
  | overflowed loop handledAt taken sending =>
    exact ledger.cut (AggregatorActivity.running_of_sending sending) rfl rfl rfl rfl rfl trivial
      (fun some => absurd (by simp [sending, AggregatorActivity.unsent]) some) rfl
  | advance loop handledAt deadline taken sending =>
    exact ledger.still rfl rfl rfl rfl (by simp [sending, AggregatorActivity.unsent])
      (absurd · (AggregatorActivity.running_of_sending sending)) id rfl
  | batchesClosed publisher' running empty closed moved =>
    have moves := Publisher.step_iff_moves.mp moved
    exact ledger.still rfl rfl rfl rfl rfl id id (moves.packs_line nofun)
  | publisher event reports publisher' running own moved =>
    have moves := Publisher.step_iff_moves.mp moved
    exact ledger.still rfl rfl rfl rfl rfl id id
      (moves.packs_line (by rintro batch rfl; exact own))
  | pollersStopped failure =>
    cases failure with
    | none => exact ledger.still rfl rfl rfl rfl rfl id id rfl
    | some e => exact ledger.still rfl rfl rfl rfl rfl id (fun _ => rfl) rfl
  | graceElapsed => exact ledger.still rfl rfl rfl rfl rfl id (fun _ => rfl) rfl
  | _ => exact ledger.still rfl rfl rfl rfl rfl id id rfl

theorem ledger_of_run {nowUnix : Duration} {startedAt : Instant} {system₀ system : System}
    {events : List SystemEvent} (started : System.start config nowUnix startedAt = some system₀)
    (run : Run (Step config qos) system₀ events system) : Ledger config qos events system := by
  -- The invariant of the steps so far is carried along.
  suffices both : Ledger config qos events system ∧ Inv config system from both.1
  refine run.history (fun events system => Ledger config qos events system ∧ Inv config system)
    ⟨?_, inv_start started⟩ fun _ _ _ _ both moved =>
      ⟨both.1.step both.2 moved, both.2.step moved⟩
  obtain ⟨loop, _, rfl⟩ := Option.map_eq_some_iff.mp started
  exact ⟨⟨[], rfl, nofun⟩, rfl⟩

/-- No connection to the broker failed. A client that loses one may drop what it has queued and
send again what is not acknowledged, which `Publisher` leaves out. -/
def NoConnectionError (events : List SystemEvent) : Prop :=
  ∀ reports, .publisher .connectionError reports ∉ events

/-- Batches go from the flushes to the request queue in order, none twice. Until an abort each
is taken by the publisher, in the channel or still to be sent; the publisher queues what it
takes, but for those that find `QUEUE_CAPACITY` requests queued. As long as no connection
fails, what is written is the first part of what was queued. -/
theorem batches_in_order {nowUnix : Duration} {startedAt : Instant} {system₀ system : System}
    {events : List SystemEvent} (started : System.start config nowUnix startedAt = some system₀)
    (run : Run (Step config qos) system₀ events system) :
    (∃ lost, events.flatMap SystemEvent.flushed =
        events.flatMap SystemEvent.taken ++ system.batches ++ system.aggregator.unsent ++ lost ∧
      (system.abortRequested = false → lost = [])) ∧
    system.batches.length ≤ batchChannelCapacity ∧
    (events.flatMap SystemEvent.queued).Sublist (events.flatMap SystemEvent.taken) ∧
    (∀ batch system', Step config qos system (.publish batch false) system' →
      system.publisher.requests.items.length = queueCapacity) ∧
    (NoConnectionError events → packs system.publisher.sent <+:
      (events.flatMap SystemEvent.queued).map
        (Publisher.telemetry config.mqtt config.gateway qos)) := by
  have ledger := ledger_of_run started run
  have inv := inv_of_run started run
  obtain ⟨lost, balance, late⟩ := ledger.flushed
  refine ⟨⟨lost, balance, fun spared => ?_⟩, inv.feeding.bounded, ?_, ?_, fun _ => ?_⟩
  · refine Classical.byContradiction fun some => ?_
    rw [(late some).2] at spared
    cases spared
  · exact queued_sublist_taken events
  · intro batch system' dropped
    generalize shape : SystemEvent.publish batch false = event at dropped
    cases dropped with
    | publish batch' batches publisher' running oldest moved =>
      obtain ⟨_, full⟩ := SystemEvent.publish.inj shape
      obtain ⟨late, publisherInv⟩ := inv.publisher.inv
      cases Publisher.step_iff_moves.mp moved with
      | batch _ receiving =>
        -- A publisher that receives has its event loop, so it is the queue that refuses.
        have looping := publisherInv.running (publisherInv.disconnect_notMem (.inl receiving))
        have bounded := system.publisher.requests.bounded
        have refused : ¬system.publisher.requests.items.length < queueCapacity := by
          simpa [Publisher.hasRoom, looping] using full
        omega
    | _ => cases shape
  · rw [← ledger.line, Publisher.line, packs_append]
    exact List.prefix_append _ _

theorem batches_in_order_sensorBatch : ∃ system lost,
    Run (Step exampleConfig .atLeastOnce) (startOfMinute exampleConfig) sensorBatchEvents system ∧
    [sensorBatch] = sensorBatchEvents.flatMap SystemEvent.taken ++ system.batches ++
      system.aggregator.unsent ++ lost ∧
    packs system.publisher.sent <+:
      [Publisher.telemetry exampleConfig.mqtt exampleConfig.gateway .atLeastOnce sensorBatch] := by
  obtain ⟨system, run, _⟩ := sensorBatch_run
  obtain ⟨⟨lost, balance, _⟩, _, _, _, written⟩ :=
    batches_in_order (start_eq_startOfMinute rfl) run
  exact ⟨system, lost, run, balance, written (by simp [NoConnectionError, sensorBatchEvents])⟩

end System

end ModbusGateway
