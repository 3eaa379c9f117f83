import ModbusGateway.System.Batches

/-!
# Flushing, draining and giving up

What can always go on. A flush gets through without the broker, since the
publisher takes every batch and drops what its queue does not. A shutdown comes
to its end by itself if the broker can be reached, and through the grace period
if it cannot.
-/
namespace ModbusGateway

open Foundation

namespace AggregatorActivity

def Sending : AggregatorActivity → Prop
  | .sending .. => True
  | .selecting _ | .returned | .panicked | .aborted => False

end AggregatorActivity

namespace System

variable {config : Config} {qos : QoS}

/-! ### Getting a flush through -/

/-- What the aggregator and the publisher do with a flush, without the broker. -/
def HandsOver : SystemEvent → Prop
  | .send _ | .publish .. | .advance .. | .refused .. => True
  | _ => False

def handOverRank (system : System) : ℕ :=
  (match system.aggregator with
    | .sending _ _ _ rest => 2 * rest.length + 1
    | .selecting _ | .returned | .panicked | .aborted => 0) + system.batches.length

theorem HandsOver.lowers {system system' : System} {event : SystemEvent}
    (handsOver : HandsOver event) (moved : Step config qos system event system') :
    system'.handOverRank < system.handOverRank := by
  cases moved with
  | send loop handledAt taken rest batch sending =>
    simp only [handOverRank, sending, List.length_cons, List.length_append, List.length_nil]
    omega
  | publish batch batches publisher' running oldest =>
    simp only [handOverRank, oldest, List.length_cons]
    omega
  | advance loop _ _ taken sending | overflowed loop _ taken sending =>
    simp [handOverRank, sending]
  | refused loop handledAt taken rest batch sending =>
    simp only [handOverRank, sending, List.length_cons]
    omega
  | _ => exact handsOver.elim

/-- A flush is never stuck: a full channel has a publisher that takes from it. -/
theorem Inv.handsOver {system : System} (inv : Inv config system)
    (sending : system.aggregator.Sending) :
    ∃ event system', HandsOver event ∧ Step config qos system event system' := by
  cases activity : system.aggregator with
  | selecting | returned | panicked | aborted => rw [activity] at sending; exact sending.elim
  | sending loop handledAt taken rest =>
    cases rest with
    | nil =>
      cases next : Instant.add? .latest loop.deadline
        (.fromSecs config.gateway.aggregationWindowSecs) with
      | some deadline => exact ⟨.advance handledAt taken, _, trivial,
          .advance system loop handledAt deadline taken activity next⟩
      | none => exact ⟨.advance handledAt taken, _, trivial,
          .overflowed system loop handledAt taken activity next⟩
    | cons batch rest =>
      by_cases ended : system.PublisherEnded
      · exact ⟨.refused handledAt taken, _, trivial,
          .refused system loop handledAt taken rest batch activity ended⟩
      · by_cases room : system.batches.length < batchChannelCapacity
        · exact ⟨.send batch, _, trivial,
            .send system loop handledAt taken rest batch activity ended room⟩
        · -- The channel is full, so there is a batch for the publisher to take.
          have receiving := inv.feeding.receiving (AggregatorActivity.running_of_sending activity)
          cases batches : system.batches with
          | nil => rw [batches] at room; exact absurd (by decide) room
          | cons oldest batches' =>
            have spared : system.publisherAborted = false :=
              Bool.eq_false_iff.mpr fun aborted => ended (.inl aborted)
            exact ⟨.publish oldest _, _, trivial, .publish system oldest batches' _ spared batches
              (Publisher.step_iff_moves.mpr (.batch system.publisher oldest receiving))⟩

theorem progress_flush : Progress (Step config qos) HandsOver (Inv config)
    (fun system => ¬system.aggregator.Sending) handOverRank where
  kept := fun _ _ _ inv _ moved => inv.step moved
  lowers := fun _ _ _ _ handsOver moved => handsOver.lowers moved
  moves := fun _ inv sending => inv.handsOver (not_not.mp sending)

theorem HandsOver.wire {system system' : System} {event : SystemEvent} (handsOver : HandsOver event)
    (moved : Step config qos system event system') :
    system'.publisher.eventloop = system.publisher.eventloop ∧
      system'.publisher.sent = system.publisher.sent := by
  cases moved with
  | send | advance | overflowed | refused => exact ⟨rfl, rfl⟩
  | publish batch batches publisher' running oldest moved =>
    cases Publisher.step_iff_moves.mp moved
    rcases Publisher.tryIssue_cases system.publisher
      (Publisher.telemetry config.mqtt config.gateway qos batch) with same | ⟨_, same, _⟩
    · rw [same]
      exact ⟨rfl, rfl⟩
    · rw [same]
      exact ⟨rfl, rfl⟩
  | _ => exact handsOver.elim

/-- The broker never holds up a flush: in every reachable state the steps of the aggregator
and the publisher alone come to the end of the flush, whatever order they take, and
they leave the event loop and the wire as they were. -/
theorem flush_without_broker {nowUnix : Duration} {startedAt : Instant} {system₀ system : System}
    {events : List SystemEvent} (started : System.start config nowUnix startedAt = some system₀)
    (run : Run (Step config qos) system₀ events system) :
    ∀ handover system', Run (Step config qos) system handover system' →
      (∀ event ∈ handover, HandsOver event) →
      handover.length ≤ system.handOverRank ∧
      system'.publisher.eventloop = system.publisher.eventloop ∧
      system'.publisher.sent = system.publisher.sent ∧
      ∃ more system'', Run (Step config qos) system' more system'' ∧
        (∀ event ∈ more, HandsOver event) ∧ ¬system''.aggregator.Sending := by
  intro handover system' further handsOver
  have inv := inv_of_run started run
  obtain ⟨inv', bound⟩ := progress_flush.length_le inv further handsOver
  have untouched : system'.publisher.eventloop = system.publisher.eventloop ∧
      system'.publisher.sent = system.publisher.sent := by
    clear inv' bound
    induction further with
    | refl => exact ⟨rfl, rfl⟩
    | @snoc between after events event _ moved ih =>
      obtain ⟨eventloop, sent⟩ := ih fun event member =>
        handsOver event (List.mem_append_left _ member)
      obtain ⟨eventloop', sent'⟩ := (handsOver event (by simp)).wire moved
      exact ⟨eventloop'.trans eventloop, sent'.trans sent⟩
  obtain ⟨more, system'', run', handsOver', _, done⟩ := progress_flush.reaches inv'
  exact ⟨by omega, untouched.1, untouched.2, more, system'', run', handsOver', done⟩

/-- Before the broker was ever reached, with the batch of the sensor just handed over. -/
theorem flush_without_broker_sensorBatch : ∃ system more system'',
    Run (Step exampleConfig .atLeastOnce) (startOfMinute exampleConfig)
      (sensorBatchEvents.take 8) system ∧ system.aggregator.unsent = [sensorBatch] ∧
    Run (Step exampleConfig .atLeastOnce) system (.send sensorBatch :: more) system'' ∧
    ¬system''.aggregator.Sending := by
  have parts : sensorBatchEvents = sensorBatchEvents.take 7 ++
      .flush ⟨60 * 10 ^ 9⟩ [sensorBatch] :: .send sensorBatch :: sensorBatchEvents.drop 9 := rfl
  obtain ⟨_, run, _⟩ := sensorBatch_run
  rw [parts] at run
  obtain ⟨_, system, before, flushed, rest⟩ := run.step_at
  obtain ⟨system', sent, _⟩ := Run.cons_iff.mp rest
  have first : Run _ _ (sensorBatchEvents.take 8) system := .snoc before flushed
  have unsent : system.aggregator.unsent = [sensorBatch] := by
    cases flushed
    rfl
  obtain ⟨_, _, _, more, system'', onwards, _, done⟩ :=
    flush_without_broker (start_eq_startOfMinute rfl) first [.send sensorBatch] system'
      (.single sent) (by simp [HandsOver])
  exact ⟨system, more, system'', first, unsent, .cons sent onwards, done⟩

/-! ### Closing down -/

theorem Step.ended {system system' : System} {event : SystemEvent}
    (moved : Step config qos system event system') (ended : system.aggregator.Ended) :
    system'.aggregator.Ended := by
  cases moved with
  | receive loop _ _ selecting | flush loop _ _ selecting =>
    exact absurd ended (AggregatorActivity.running_of_selecting selecting)
  | send loop _ _ _ _ sending | advance loop _ _ _ sending =>
    exact absurd ended (AggregatorActivity.running_of_sending sending)
  | readingsClosed | overflowed | refused | aggregatorAborted => exact trivial
  | pollersStopped failure => cases failure <;> exact ended
  | _ => exact ended

end System

/-- `run` has waited for the aggregator and the publisher. -/
def Control.Drained : Control → Prop
  | .flushingStatus | .returned (.ok _) => True
  | _ => False

/-- On the way from a request to the regular return. -/
def Control.Stopping : Control → Prop
  | .stoppingPollers none | .draining | .flushingStatus | .returned (.ok _) => True
  | _ => False

def Control.rank : Control → ℕ
  | .selecting | .stoppingPollers _ => 3
  | .draining | .aborting => 2
  | .flushingStatus => 1
  | .returned _ => 0

/-- A batch to be sent is also one to be published, and that may add a request. -/
def AggregatorActivity.rank : AggregatorActivity → ℕ
  | .selecting _ => 1
  | .sending _ _ _ rest => 3 * rest.length + 2
  | .returned | .panicked | .aborted => 0

namespace System

variable {config : Config} {qos : QoS}

theorem Step.publisherReturned {system system' : System} {event : SystemEvent}
    (moved : Step config qos system event system') (ended : system.publisher.phase = .returned) :
    system'.publisher.phase = .returned := by
  obtain ⟨publisher, projected, rfl⟩ := simulates_publisher system event system' _ rfl moved
  exact projected.invariant (fun publisher => publisher.phase = .returned) ended
    fun _ _ _ returned moved => (Publisher.step_iff_moves.mp moved).returned returned

/-- Without an abort the drain ends with both tasks. -/
def Closed (system : System) : Prop :=
  system.control.Drained → system.abortRequested = false →
    system.aggregator.Ended ∧ system.publisher.phase = .returned

theorem Closed.step {system system' : System} {event : SystemEvent} (closed : system.Closed)
    (aborts : system.AbortsInOrder) (moved : Step config qos system event system') :
    system'.Closed := by
  intro drained unrequested
  -- The tasks that have ended stay ended; what is left are the steps that end the drain.
  suffices earlier : system.aggregator.Ended ∧ system.publisher.phase = .returned from
    ⟨moved.ended earlier.1, moved.publisherReturned earlier.2⟩
  cases moved with
  | drained _ aggregator publisher => exact ⟨aggregator, publisher⟩
  | publisherGone aborting =>
    have requested := aborts.aborting aborting
    rw [show system.abortRequested = false from unrequested] at requested
    cases requested
  | statusWriterDone flushing | statusFlushElapsed flushing =>
    exact closed (flushing ▸ trivial) unrequested
  | shutdownRequested | publisherExited | aggregatorExited | graceElapsed => exact drained.elim
  | pollersStopped failure => cases failure <;> exact drained.elim
  | _ => exact closed drained unrequested

theorem closed_of_run {nowUnix : Duration} {startedAt : Instant} {system₀ system : System}
    {events : List SystemEvent} (started : System.start config nowUnix startedAt = some system₀)
    (run : Run (Step config qos) system₀ events system) : system.Closed := by
  suffices both : system.Closed ∧ Inv config system from both.1
  refine run.invariant (fun system => system.Closed ∧ Inv config system) ⟨?_, inv_start started⟩
    fun _ _ _ both moved => ⟨both.1.step both.2.aborts moved, both.2.step moved⟩
  obtain ⟨loop, _, rfl⟩ := Option.map_eq_some_iff.mp started
  exact fun drained => drained.elim

/-- Aborts come from the end of the grace period, or with an error. -/
theorem abortRequested_cases {nowUnix : Duration} {startedAt : Instant} {system₀ system : System}
    {events : List SystemEvent} (started : System.start config nowUnix startedAt = some system₀)
    (run : Run (Step config qos) system₀ events system) (requested : system.abortRequested = true) :
    .graceElapsed ∈ events ∨ ∃ e, system.control = .returned (.error e) := by
  induction run with
  | refl =>
    obtain ⟨loop, _, rfl⟩ := Option.map_eq_some_iff.mp started
    cases requested
  | @snoc before after events event _ moved ih =>
    rw [List.mem_append, List.mem_singleton]
    cases moved with
    | graceElapsed => exact .inl (.inr rfl)
    | pollersStopped failure stopping =>
      cases failure with
      | some e => exact .inr ⟨e, rfl⟩
      | none =>
        rcases ih requested with elapsed | ⟨e, failed⟩
        · exact .inl (.inl elapsed)
        · exact nomatch stopping.symm.trans failed
    | shutdownRequested now | publisherExited now | aggregatorExited now | drained now
    | publisherGone now | statusWriterDone now | statusFlushElapsed now =>
      rcases ih requested with elapsed | ⟨e, failed⟩
      · exact .inl (.inl elapsed)
      · exact nomatch now.symm.trans failed
    | _ => exact (ih requested).imp_left .inl

/-! ### Coming to the end in time -/

/-- What happens in a shutdown when the broker can be reached. -/
def ShutsDown : SystemEvent → Prop
  | .receive _ | .readingsClosed | .send _ | .advance .. | .refused .. | .publish ..
  | .batchesClosed | .pollersStopped | .drained | .statusWriterDone => True
  | .publisher event reports => Publisher.Cooperative (event, reports)
  | _ => False

structure ShuttingDown (config : Config) (system : System) : Prop where
  inv : Inv config system
  closed : system.Closed
  stopping : system.control.Stopping
  unrequested : system.abortRequested = false

theorem ShuttingDown.step {system system' : System} {event : SystemEvent}
    (shutting : ShuttingDown config system) (shutsDown : ShutsDown event)
    (moved : Step config qos system event system') : ShuttingDown config system' := by
  obtain ⟨inv, closed, stopping, unrequested⟩ := shutting
  suffices both : system'.control.Stopping ∧ system'.abortRequested = false from
    ⟨inv.step moved, closed.step inv.aborts moved, both.1, both.2⟩
  cases moved with
  | receive | readingsClosed | send | advance | overflowed | refused | publish | batchesClosed
  | publisher =>
    exact ⟨stopping, unrequested⟩
  | pollersStopped failure now =>
    cases failure with
    | none => exact ⟨trivial, unrequested⟩
    | some e => rw [now] at stopping; exact stopping.elim
  | drained | statusWriterDone => exact ⟨trivial, unrequested⟩
  | _ => exact shutsDown.elim

/-- What is left to do until `run` returns. -/
def shutdownRank (system : System) : ℕ :=
  system.control.rank + system.readings.length + system.aggregator.rank +
    2 * system.batches.length + system.publisher.rank

theorem rank_tryIssue_le (publisher : Publisher) (request : Request) :
    (publisher.tryIssue request).rank ≤ publisher.rank + 1 := by
  rcases Publisher.tryIssue_cases publisher request with same | ⟨requests, same, _⟩
  · rw [same]
    exact Nat.le_succ _
  · have pending := Publisher.pending_tryIssue_cases publisher request
    rw [same] at pending ⊢
    simp only [Publisher.rank]
    rcases pending with pending | pending
    · rw [pending, List.length_append, List.length_singleton]
      omega
    · rw [pending]
      omega

theorem ShutsDown.lowers {system system' : System} {event : SystemEvent}
    (shutsDown : ShutsDown event) (moved : Step config qos system event system') :
    system'.shutdownRank < system.shutdownRank := by
  cases moved with
  | receive loop delivery readings selecting oldest =>
    simp only [shutdownRank, selecting, oldest, AggregatorActivity.rank, List.length_cons]
    omega
  | readingsClosed loop selecting =>
    simp only [shutdownRank, selecting, AggregatorActivity.rank]
    omega
  | send loop handledAt taken rest batch sending =>
    simp only [shutdownRank, sending, AggregatorActivity.rank, List.length_cons,
      List.length_append, List.length_nil]
    omega
  | advance loop _ _ taken sending | overflowed loop _ taken sending =>
    simp only [shutdownRank, sending, AggregatorActivity.rank]
    omega
  | refused loop handledAt taken rest batch sending =>
    simp only [shutdownRank, sending, AggregatorActivity.rank]
    omega
  | publish batch batches publisher' running oldest moved =>
    cases Publisher.step_iff_moves.mp moved
    have lower := rank_tryIssue_le system.publisher
      (Publisher.telemetry config.mqtt config.gateway qos batch)
    simp only [shutdownRank, oldest, List.length_cons]
    omega
  | batchesClosed publisher' running empty closed moved =>
    have lower := (Publisher.step_iff_moves.mp moved).lowers trivial
    simp only [shutdownRank]
    omega
  | publisher event reports publisher' running own moved =>
    have lower := (Publisher.step_iff_moves.mp moved).lowers shutsDown
    simp only [shutdownRank]
    omega
  | pollersStopped failure now =>
    cases failure with
    | none | some =>
      simp only [shutdownRank, now, Control.rank]
      omega
  | drained now | statusWriterDone now =>
    simp only [shutdownRank, now, Control.rank]
    omega
  | _ => exact shutsDown.elim

/-- The aggregator and the publisher can go on until both have returned. -/
theorem ShuttingDown.drains {system : System} (shutting : ShuttingDown config system)
    (draining : system.control = .draining)
    (open' : ¬(system.aggregator.Ended ∧ system.publisher.phase = .returned)) :
    ∃ event system', ShutsDown event ∧ Step config qos system event system' := by
  obtain ⟨inv, _, _, unrequested⟩ := shutting
  have spared := inv.aborts.spared unrequested
  have stopped : system.stopped = true := by simp [stopped, draining]
  have consumes (receiving : system.publisher.phase = .receiving) {batch : AggregatedBatch}
      {batches : List AggregatedBatch} (oldest : system.batches = batch :: batches) :
      ∃ event system', ShutsDown event ∧ Step config qos system event system' :=
    ⟨.publish batch _, _, trivial, .publish system batch batches _ spared oldest
      (Publisher.step_iff_moves.mpr (.batch system.publisher batch receiving))⟩
  cases activity : system.aggregator with
  | selecting loop =>
    cases readings : system.readings with
    | nil => exact ⟨.readingsClosed, _, trivial,
        .readingsClosed system loop activity readings (.inl stopped)⟩
    | cons delivery readings' => exact ⟨.receive delivery, _, trivial,
        .receive system loop delivery readings' activity readings⟩
  | sending loop handledAt taken rest =>
    have going : ∃ event system', HandsOver event ∧ Step config qos system event system' :=
      inv.handsOver (by rw [activity]; trivial)
    obtain ⟨event, system', handsOver, moved⟩ := going
    refine ⟨event, system', ?_, moved⟩
    cases event with
    | send | publish | advance | refused => exact trivial
    | _ => exact handsOver.elim
  | returned | panicked | aborted =>
    have ended : system.aggregator.Ended := by simp [activity, AggregatorActivity.Ended]
    have running : system.publisher.phase ≠ .returned := fun returned => open' ⟨ended, returned⟩
    by_cases receiving : system.publisher.phase = .receiving
    · cases batches : system.batches with
      | nil => exact ⟨.batchesClosed, _, trivial, .batchesClosed system _ spared batches ended
          (Publisher.step_iff_moves.mpr (.inputClosed system.publisher receiving))⟩
      | cons batch batches' => exact consumes receiving batches
    · have going : ∃ event publisher', Publisher.Cooperative event ∧
          Publisher.Step config.mqtt config.gateway qos system.publisher event publisher' :=
        inv.publisher.moves running
      obtain ⟨⟨event, reports⟩, publisher', cooperative, moved⟩ := going
      -- Not receiving any more, the publisher can only do what is its own.
      have own : event.Own := by
        cases Publisher.step_iff_moves.mp moved with
        | batch _ phase | inputClosed phase => exact absurd phase receiving
        | _ => exact trivial
      exact ⟨.publisher event reports, _, cooperative, .publisher system event reports publisher'
        spared own moved⟩

theorem progress_shutdown : Progress (Step config qos) ShutsDown (ShuttingDown config)
    (fun system => system.control = .returned (.ok ())) shutdownRank where
  kept := fun _ _ _ shutting shutsDown moved => shutting.step shutsDown moved
  lowers := fun _ _ _ _ shutsDown moved => shutsDown.lowers moved
  moves := by
    intro system shutting running
    have stopping := shutting.stopping
    cases control : system.control with
    | selecting | aborting => rw [control] at stopping; exact stopping.elim
    | stoppingPollers failure =>
      cases failure with
      | none => exact ⟨.pollersStopped, _, trivial, .pollersStopped system none control⟩
      | some e => rw [control] at stopping; exact stopping.elim
    | draining =>
      by_cases ended : system.aggregator.Ended ∧ system.publisher.phase = .returned
      · exact ⟨.drained, _, trivial, .drained system control ended.1 ended.2⟩
      · exact shutting.drains control ended
    | flushingStatus =>
      obtain ⟨_, returned⟩ := shutting.closed (control ▸ trivial) shutting.unrequested
      have senders : system.StatusSendersGone :=
        ⟨by simp [stopped, control], .inr (shutting.inv.publisher.joined.ended returned)⟩
      exact ⟨.statusWriterDone, _, trivial, .statusWriterDone system control senders⟩
    | returned result =>
      cases result with
      | error => rw [control] at stopping; exact stopping.elim
      | ok => exact absurd control running

/-- A shutdown that was requested completes in time if the broker can be reached: its steps,
in whatever order, are at most as many as the rank says, and wherever they have got to they
lead on to the regular return. -/
theorem shutdown_completes {nowUnix : Duration} {startedAt : Instant} {system₀ system : System}
    {events : List SystemEvent} (started : System.start config nowUnix startedAt = some system₀)
    (run : Run (Step config qos) system₀ events system) (stopping : system.control.Stopping)
    (unrequested : system.abortRequested = false) :
    ∀ closing system', Run (Step config qos) system closing system' →
      (∀ event ∈ closing, ShutsDown event) →
      closing.length ≤ system.shutdownRank ∧
      ∃ more system'', Run (Step config qos) system' more system'' ∧
        (∀ event ∈ more, ShutsDown event) ∧ system''.control = .returned (.ok ()) := by
  intro closing system' further shutsDown
  have shutting : ShuttingDown config system :=
    ⟨inv_of_run started run, closed_of_run started run, stopping, unrequested⟩
  obtain ⟨shutting', bound⟩ := progress_shutdown.length_le shutting further shutsDown
  obtain ⟨more, system'', run', shutsDown', _, done⟩ := progress_shutdown.reaches shutting'
  exact ⟨by omega, more, system'', run', shutsDown', done⟩

/-- The shipped configuration, asked to stop before anything was read. -/
theorem stopping_run : ∃ system,
    Run (Step exampleConfig .atLeastOnce) (startOfMinute exampleConfig)
      [.shutdownRequested, .pollersStopped] system ∧ system.control = .draining ∧
    system.abortRequested = false ∧ system.publisher.eventloop = .disconnected :=
  ⟨_, .cons (.shutdownRequested _ rfl) (.single (.pollersStopped _ none rfl)), rfl, rfl, rfl⟩

theorem shutdown_completes_gwRouter1 : ∃ events system,
    Run (Step exampleConfig .atLeastOnce) (startOfMinute exampleConfig) events system ∧
      system.control = .returned (.ok ()) := by
  obtain ⟨system, run, draining, unrequested, _⟩ := stopping_run
  obtain ⟨_, more, system'', onwards, _, done⟩ := shutdown_completes (start_eq_startOfMinute rfl)
    run (draining ▸ trivial) unrequested _ _ (.refl _) (by simp)
  exact ⟨_, system'', run.append onwards, done⟩

/-- After a shutdown within the grace period nothing is left over: both tasks are at their end,
every batch flushed was taken by the publisher, the DISCONNECT is on the wire, and nobody can
send to the status task. If no connection failed, every pack that found a slot in the queue
is on the wire too. -/
theorem clean_shutdown {nowUnix : Duration} {startedAt : Instant} {system₀ system : System}
    {events : List SystemEvent} (started : System.start config nowUnix startedAt = some system₀)
    (run : Run (Step config qos) system₀ events system)
    (done : system.control = .returned (.ok ())) (patient : .graceElapsed ∉ events) :
    (system.aggregator = .returned ∨ system.aggregator = .panicked) ∧
    system.publisher.phase = .returned ∧ system.batches = [] ∧
    events.flatMap SystemEvent.flushed = events.flatMap SystemEvent.taken ∧
    .disconnect ∈ system.publisher.sent ∧ system.StatusSendersGone ∧
    (NoConnectionError events → packs system.publisher.sent =
      (events.flatMap SystemEvent.queued).map
        (Publisher.telemetry config.mqtt config.gateway qos)) := by
  have inv := inv_of_run started run
  have unrequested : system.abortRequested = false := by
    refine Bool.eq_false_iff.mpr fun requested => ?_
    rcases abortRequested_cases started run requested with elapsed | ⟨e, failed⟩
    · exact patient elapsed
    · exact nomatch done.symm.trans failed
  obtain ⟨ended, returned⟩ := closed_of_run started run (done ▸ trivial) unrequested
  have aggregator : system.aggregator = .returned ∨ system.aggregator = .panicked := by
    cases activity : system.aggregator with
    | returned => exact .inl rfl
    | panicked => exact .inr rfl
    | aborted => rw [inv.aborts.aggregator activity] at unrequested; cases unrequested
    | selecting | sending => rw [activity] at ended; exact ended.elim
  have empty : system.batches = [] := inv.feeding.empty (by rw [returned]; exact nofun)
  have ledger := ledger_of_run started run
  obtain ⟨lost, balance, late⟩ := ledger.flushed
  obtain rfl : lost = [] := Classical.byContradiction fun some => by
    rw [(late some).2] at unrequested
    cases unrequested
  -- What the publisher left behind is no pack, so all of them are written.
  obtain ⟨disconnected, rest⟩ := inv.publisher.unsent_of_returned returned
  have written : packs (system.publisher.requests.line.map Prod.snd) = [] := by
    refine List.filter_eq_nil_iff.mpr fun request member => ?_
    obtain ⟨pending, queued, rfl⟩ := List.mem_map.mp member
    simp [rest pending queued]
  have line := ledger.line
  rw [Publisher.line, packs_append, written, List.append_nil] at line
  have unsent : system.aggregator.unsent = [] := by
    rcases aggregator with same | same <;> rw [same, AggregatorActivity.unsent]
  refine ⟨aggregator, returned, empty, ?_, disconnected, ?_, fun _ => line⟩
  · simpa [empty, unsent] using balance
  · exact ⟨by simp [stopped, done], .inr (inv.publisher.joined.ended returned)⟩

theorem clean_shutdown_gwRouter1 : ∃ events system,
    Run (Step exampleConfig .atLeastOnce) (startOfMinute exampleConfig) events system ∧
    system.control = .returned (.ok ()) ∧ system.batches = [] ∧
    .disconnect ∈ system.publisher.sent := by
  obtain ⟨system, run, draining, unrequested, _⟩ := stopping_run
  have started : System.start exampleConfig _ _ = some (startOfMinute exampleConfig) :=
    start_eq_startOfMinute rfl
  obtain ⟨more, system'', onwards, shutsDown, _, done⟩ := progress_shutdown.reaches
    ⟨inv_of_run started run, closed_of_run started run, draining ▸ trivial, unrequested⟩
  have patient : .graceElapsed ∉ [.shutdownRequested, .pollersStopped] ++ more := by
    intro elapsed
    rcases List.mem_append.mp elapsed with first | later
    · simp at first
    · exact shutsDown _ later
  obtain ⟨_, _, empty, _, sent, _⟩ :=
    clean_shutdown started (run.append onwards) done patient
  exact ⟨_, system'', run.append onwards, done, empty, sent⟩

/-- The publisher's part of a run in which no session opens. -/
theorem publisher_away {system system' : System} {waiting : List SystemEvent}
    (sound : Publisher.Sound config.gateway system.publisher)
    (away : system.publisher.eventloop = .disconnected)
    (further : Run (Step config qos) system waiting system')
    (unreachable : ∀ reports, .publisher .connAck reports ∉ waiting) :
    system'.publisher.phase ≠ .returned ∧ system'.publisher.sent = system.publisher.sent := by
  obtain ⟨publisher, projected, rfl⟩ := simulates_publisher.run rfl further
  refine Publisher.not_returned_of_unreachable projected away ?_ fun returned => ?_
  · intro event member acknowledged
    obtain ⟨source, happened, shown⟩ := List.mem_filterMap.mp member
    cases source with
    | publisher own reports =>
      obtain rfl := Option.some.inj shown
      obtain rfl : own = .connAck := acknowledged
      exact unreachable reports happened
    | publish | batchesClosed =>
      obtain rfl := Option.some.inj shown
      cases acknowledged
    | _ => cases shown
  · exact nomatch away.symm.trans (sound.joined.ended returned)

/-- As long as the broker stays away a drain goes on, with nothing more written, until the
grace period ends it; then the aborts lead to the regular return, and the status
writer's senders are gone by then. -/
theorem unreachable_broker {nowUnix : Duration} {startedAt : Instant} {system₀ system : System}
    {events : List SystemEvent} (started : System.start config nowUnix startedAt = some system₀)
    (run : Run (Step config qos) system₀ events system) (draining : system.control = .draining)
    (away : system.publisher.eventloop = .disconnected) :
    ∀ waiting system', Run (Step config qos) system waiting system' →
      (∀ reports, .publisher .connAck reports ∉ waiting) → .graceElapsed ∉ waiting →
      system'.control = .draining ∧ system'.publisher.sent = system.publisher.sent ∧
      ∃ system'', Run (Step config qos) system'
          [.graceElapsed, .publisherAborted, .publisherGone, .statusWriterDone] system'' ∧
        system''.control = .returned (.ok ()) ∧ system''.publisher.sent = system.publisher.sent := by
  intro waiting system' further unreachable patient
  have inv := inv_of_run started run
  obtain ⟨running, sent⟩ := publisher_away inv.publisher away further unreachable
  have control : system'.control = .draining := by
    clear running sent
    induction further with
    | refl => exact draining
    | @snoc before after waiting event earlier moved ih =>
      have still := ih (fun reports member => unreachable reports (List.mem_append_left _ member))
        fun elapsed => patient (List.mem_append_left _ elapsed)
      obtain ⟨running, _⟩ := publisher_away inv.publisher away earlier fun reports member =>
        unreachable reports (List.mem_append_left _ member)
      cases moved with
      | drained _ _ returned => exact absurd returned running
      | graceElapsed => exact absurd (List.mem_append_right _ (List.mem_singleton_self _)) patient
      | shutdownRequested now | publisherExited now | aggregatorExited now | pollersStopped _ now
      | publisherGone now | statusWriterDone now | statusFlushElapsed now =>
        exact nomatch still.symm.trans now
      | _ => exact still
  refine ⟨control, sent, ?_⟩
  -- Neither aborted nor returned: the publisher is still there to be aborted.
  have aborts := (inv_of_run started (run.append further)).aborts
  have unended : ¬system'.PublisherEnded := by
    rintro (aborted | returned)
    · exact (aborts.late (aborts.publisher aborted)).2 control
    · exact running returned
  exact ⟨_, .cons (.graceElapsed system' control) (.cons (.publisherAborted _ rfl unended)
    (.cons (.publisherGone _ rfl (.inl rfl)) (.single (.statusWriterDone _ rfl ⟨rfl, .inl rfl⟩)))),
    rfl, sent⟩

/-- One attempt to connect fails during the drain. -/
theorem unreachable_broker_gwRouter1 : ∃ system system' system'',
    Run (Step exampleConfig .atLeastOnce) (startOfMinute exampleConfig)
      [.shutdownRequested, .pollersStopped] system ∧
    Run (Step exampleConfig .atLeastOnce) system
      [.publisher .connectionError [.mqttDisconnected]] system' ∧
    Run (Step exampleConfig .atLeastOnce) system'
      [.graceElapsed, .publisherAborted, .publisherGone, .statusWriterDone] system'' ∧
    system''.control = .returned (.ok ()) := by
  obtain ⟨system, run, draining, unrequested, away⟩ := stopping_run
  have spared := (inv_of_run (start_eq_startOfMinute rfl) run).aborts.spared unrequested
  have failed : Step exampleConfig .atLeastOnce system
      (.publisher .connectionError [.mqttDisconnected]) _ :=
    .publisher system .connectionError _ _ spared trivial
      (Publisher.step_iff_moves.mpr (.connectionError system.publisher (by simp [away])))
  obtain ⟨_, _, system'', given, done, _⟩ := unreachable_broker (start_eq_startOfMinute rfl) run
    draining away _ _ (.single failed) (by simp) (by simp)
  exact ⟨system, _, system'', run, .single failed, given, done⟩

end System

end ModbusGateway
