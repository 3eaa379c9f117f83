import ModbusGateway.Modbus.PollTick
import ModbusGateway.Mqtt.Progress
import ModbusGateway.System.Refinement

/-!
# Which task may end first

A poller ends when the aggregator is gone, the aggregator when the pollers or
the publisher are, the publisher when the aggregator is. So as long as nobody
asks for it none of them does, unless there was no poller to begin with, or the
clock cannot represent the aggregator's next deadline.
-/
namespace ModbusGateway

open Foundation

theorem Poller.Moves.not_returned {cfg : ConnectionConfig} {poller poller' : Poller}
    {input : PollerInput} {actions : List PollerAction}
    (moves : Poller.Moves cfg poller input poller' actions)
    (accepting : input ≠ .trySend .closed) : poller'.phase ≠ .returned := by
  have inTick {phase : PollerPhase} (polling : phase.InTick = true) : phase ≠ .returned := by
    rintro rfl
    cases polling
  cases moves with
  | connected | connectFailed | slept | overflowed | undecodable | fatal => exact nofun
  | ticked => exact inTick (pollDevices_inTick cfg _)
  | words _ cursor _ words values => exact inTick (offerValues_inTick cfg cursor words values)
  | failed _ cursor => exact inTick (pollDevices_inTick cfg cursor.devices)
  | refused => exact absurd rfl accepting
  | offered _ cursor words _ values => exact inTick (offerValues_inTick cfg cursor words values)

/-- Only the end of its input makes the publisher stop receiving. -/
theorem Publisher.Moves.receiving {mqtt : MqttConfig} {gateway : GatewayConfig} {qos : QoS}
    {publisher publisher' : Publisher} {event : PublisherEvent} {reports : List StatusEvent}
    (moves : Publisher.Moves mqtt gateway qos publisher event reports publisher')
    (other : event ≠ .inputClosed) :
    publisher'.phase = .receiving ↔ publisher.phase = .receiving := by
  cases moves with
  | batch batch =>
    rcases tryIssue_cases publisher (telemetry mqtt gateway qos batch) with same | ⟨_, same, _⟩
    · rw [same]
    · rw [same]
  | inputClosed => exact absurd rfl other
  | offlineQueued phase | disconnectQueued phase | eventloopEnded phase => simp [phase]
  | connAck | connectionError | requestSent | disconnectSent => rfl
  | onlineTask => simp

namespace System

variable {config : Config} {qos : QoS}

/-- Aborts are requested once the pollers are stopped, and only then take effect. -/
structure AbortsInOrder (system : System) : Prop where
  late : system.abortRequested = true → system.stopped = true ∧ system.control ≠ .draining
  aborting : system.control = .aborting → system.abortRequested = true
  aggregator : system.aggregator = .aborted → system.abortRequested = true
  publisher : system.publisherAborted = true → system.abortRequested = true

/-- The channel of batches between its two ends. -/
structure Feeding (system : System) : Prop where
  receiving : ¬system.aggregator.Ended → system.publisher.phase = .receiving
  empty : system.publisher.phase ≠ .receiving → system.batches = []
  bounded : system.batches.length ≤ batchChannelCapacity

/-- Why a task ended of itself: there was no poller, or the clock came to its end. -/
def Bereft (system : System) : Prop :=
  system.connections = [] ∨ system.aggregator = .panicked

/-- With connections nothing but a shutdown or the end of the clock ends the aggregator. -/
structure Polling (system : System) : Prop where
  pollers : ¬system.aggregator.Ended → ∀ task ∈ system.connections, task.2.phase ≠ .returned
  aggregator : system.stopped = false → system.aggregator.Ended → system.Bereft
  stopping : ∀ e, system.control = .stoppingPollers (some e) → system.Bereft
  failed : ∀ e, system.control = .returned (.error e) → system.Bereft

structure Inv (config : Config) (system : System) : Prop where
  aborts : system.AbortsInOrder
  feeding : system.Feeding
  polling : system.Polling
  publisher : Publisher.Sound config.gateway system.publisher

theorem inv_start {nowUnix : Duration} {startedAt : Instant} {system : System}
    (started : System.start config nowUnix startedAt = some system) : Inv config system := by
  obtain ⟨loop, _, rfl⟩ := Option.map_eq_some_iff.mp started
  refine ⟨⟨nofun, nofun, nofun, nofun⟩, ⟨fun _ => rfl, fun _ => rfl, Nat.zero_le _⟩,
    ⟨fun _ task member => ?_, fun _ ended => ended.elim, nofun, nofun⟩,
    Publisher.sound_start _⟩
  obtain ⟨connection, _, rfl⟩ := List.mem_map.mp member
  exact nofun

theorem AbortsInOrder.step {system system' : System} {event : SystemEvent}
    (aborts : system.AbortsInOrder) (moved : Step config qos system event system') :
    system'.AbortsInOrder := by
  obtain ⟨late, aborting, aggregator, publisher⟩ := aborts
  cases moved with
  | poll | respawn | publish | batchesClosed | publisher =>
    exact ⟨late, aborting, aggregator, publisher⟩
  | receive | readingsClosed | flush | send | advance | overflowed | refused =>
    exact ⟨late, aborting, nofun, publisher⟩
  | shutdownRequested selecting | publisherExited selecting | aggregatorExited selecting =>
    have polling : system.stopped = false := stopped_of_selecting selecting
    refine ⟨fun requested => ?_, nofun, aggregator, publisher⟩
    rw [(late requested).1] at polling
    cases polling
  | pollersStopped failure stopping =>
    have polling : system.stopped = false := stopped_of_stopping stopping
    cases failure with
    | some e => exact ⟨fun _ => ⟨rfl, nofun⟩, nofun, fun _ => rfl, fun _ => rfl⟩
    | none =>
      refine ⟨fun requested => ?_, nofun, aggregator, publisher⟩
      rw [(late requested).1] at polling
      cases polling
  | drained draining => exact ⟨fun _ => ⟨rfl, nofun⟩, nofun, aggregator, publisher⟩
  | graceElapsed => exact ⟨fun _ => ⟨rfl, nofun⟩, fun _ => rfl, fun _ => rfl, fun _ => rfl⟩
  | aggregatorAborted requested => exact ⟨late, aborting, fun _ => requested, publisher⟩
  | publisherAborted requested => exact ⟨late, aborting, aggregator, fun _ => requested⟩
  | publisherGone | statusWriterDone | statusFlushElapsed =>
    exact ⟨fun _ => ⟨rfl, nofun⟩, nofun, aggregator, publisher⟩

/-- Until the pollers are stopped nothing is aborted. -/
theorem AbortsInOrder.not_requested {system : System} (aborts : system.AbortsInOrder)
    (early : system.stopped = false) : system.abortRequested = false := by
  refine Bool.eq_false_iff.mpr fun requested => ?_
  rw [(aborts.late requested).1] at early
  cases early

theorem AbortsInOrder.spared {system : System} (aborts : system.AbortsInOrder)
    (unrequested : system.abortRequested = false) : system.publisherAborted = false := by
  refine Bool.eq_false_iff.mpr fun aborted => ?_
  rw [aborts.publisher aborted] at unrequested
  cases unrequested

theorem Feeding.step {system system' : System} {event : SystemEvent} (feeding : system.Feeding)
    (moved : Step config qos system event system') : system'.Feeding := by
  obtain ⟨receiving, empty, bounded⟩ := feeding
  cases moved with
  | receive loop _ _ selecting | flush loop _ _ selecting =>
    exact ⟨fun _ => receiving (AggregatorActivity.running_of_selecting selecting), empty, bounded⟩
  | advance loop handledAt deadline taken sending =>
    exact ⟨fun _ => receiving (AggregatorActivity.running_of_sending sending), empty, bounded⟩
  | send loop handledAt taken rest batch sending gone room =>
    have still := receiving (AggregatorActivity.running_of_sending sending)
    refine ⟨fun _ => still, fun left => absurd still left, ?_⟩
    rw [List.length_append, List.length_singleton]
    exact room
  | readingsClosed | overflowed | refused | aggregatorAborted =>
    exact ⟨fun running => absurd trivial running, empty, bounded⟩
  | publish batch batches publisher' running oldest moved =>
    have moves := Publisher.step_iff_moves.mp moved
    have phase := moves.receiving nofun
    refine ⟨fun running => phase.mpr (receiving running), fun left => ?_, ?_⟩
    · rw [ne_eq, phase] at left
      rw [empty left] at oldest
      cases oldest
    · rw [oldest] at bounded
      exact (Nat.le_succ _).trans bounded
  | batchesClosed publisher' running none closed moved =>
    exact ⟨fun open' => absurd closed open', fun _ => none, bounded⟩
  | publisher event reports publisher' running own moved =>
    have moves := Publisher.step_iff_moves.mp moved
    have phase := moves.receiving (by rintro rfl; exact own)
    exact ⟨fun running => phase.mpr (receiving running),
      fun left => empty (phase.not.mp left), bounded⟩
  | pollersStopped failure => cases failure <;> exact ⟨receiving, empty, bounded⟩
  | _ => exact ⟨receiving, empty, bounded⟩

/-- While the aggregator runs the publisher does too, unless it was aborted. -/
theorem Feeding.not_ended {system : System} (feeding : system.Feeding)
    (running : ¬system.aggregator.Ended) (spared : system.publisherAborted = false) :
    ¬system.PublisherEnded := by
  rintro (aborted | returned)
  · rw [spared] at aborted
    cases aborted
  · rw [feeding.receiving running] at returned
    cases returned

/-- Replacing one poller by one that runs keeps all of them running. -/
theorem Polling.replace {system system' : System} (polling : system.Polling)
    {before after : List (ConnectionConfig × Poller)} {connection : ConnectionConfig}
    {poller poller' : Poller} (tasks : system.connections = before ++ (connection, poller) :: after)
    (tasks' : system'.connections = before ++ (connection, poller') :: after)
    (aggregator : system'.aggregator = system.aggregator)
    (control : system'.control = system.control)
    (running : ¬system.aggregator.Ended → poller'.phase ≠ .returned) : system'.Polling := by
  have bereft : system.Bereft → system'.Bereft := by
    rintro (none | panicked)
    · simp [tasks] at none
    · exact .inr (aggregator.trans panicked)
  refine ⟨fun open' task member => ?_, fun early ended => ?_, fun e now => ?_, fun e now => ?_⟩
  · rw [aggregator] at open'
    have others := polling.pollers open'
    rw [tasks'] at member
    rw [tasks] at others
    rcases List.mem_append.mp member with earlier | later
    · exact others task (List.mem_append_left _ earlier)
    · rcases List.mem_cons.mp later with rfl | later
      · exact running open'
      · exact others task (List.mem_append_right _ (List.mem_cons_of_mem _ later))
  · rw [stopped, control] at early
    rw [aggregator] at ended
    exact bereft (polling.aggregator early ended)
  · exact bereft (polling.stopping e (control ▸ now))
  · exact bereft (polling.failed e (control ▸ now))

/-- The connections stay, and an aggregator that runs has not panicked. -/
theorem Bereft.kept {system system' : System} (bereft : system.Bereft)
    (running : ¬system.aggregator.Ended)
    (connections : system'.connections = system.connections) : system'.Bereft := by
  rcases bereft with none | panicked
  · exact .inl (connections.trans none)
  · rw [panicked] at running
    exact absurd trivial running

/-- A step of a running aggregator that leaves it running. -/
theorem Polling.goOn {system system' : System} (polling : system.Polling)
    (running : ¬system.aggregator.Ended) (running' : ¬system'.aggregator.Ended)
    (connections : system'.connections = system.connections)
    (control : system'.control = system.control) : system'.Polling := by
  refine ⟨fun _ => ?_, fun _ ended => absurd ended running',
    fun e now => (polling.stopping e (control ▸ now)).kept running connections,
    fun e now => (polling.failed e (control ▸ now)).kept running connections⟩
  rw [connections]
  exact polling.pollers running

/-- A step that ends the aggregator. -/
theorem Polling.finish {system system' : System} (polling : system.Polling)
    (running : ¬system.aggregator.Ended) (ended : system'.aggregator.Ended)
    (connections : system'.connections = system.connections)
    (control : system'.control = system.control)
    (cause : system.stopped = false → system'.Bereft) : system'.Polling := by
  refine ⟨fun running => absurd ended running, fun early _ => cause ?_,
    fun e now => (polling.stopping e (control ▸ now)).kept running connections,
    fun e now => (polling.failed e (control ▸ now)).kept running connections⟩
  rwa [stopped, control] at early

theorem Polling.step {system system' : System} {event : SystemEvent} (polling : system.Polling)
    (feeding : system.Feeding) (aborts : system.AbortsInOrder)
    (moved : Step config qos system event system') : system'.Polling := by
  cases moved with
  | poll before after connection poller poller' input actions early tasks answered moved =>
    refine polling.replace tasks rfl rfl rfl fun running => ?_
    refine (Poller.moves_of_next moved).not_returned fun refused => ?_
    -- As long as the aggregator runs, no `try_send` finds the channel closed.
    exact trySend_ne_closed running (answered .closed refused).symm
  | respawn before after connection backoff early tasks =>
    exact polling.replace tasks rfl rfl rfl fun _ => nofun
  | receive loop _ _ selecting | flush loop _ _ selecting =>
    exact polling.goOn (AggregatorActivity.running_of_selecting selecting) id rfl rfl
  | advance loop _ _ _ sending | send loop _ _ _ _ sending =>
    exact polling.goOn (AggregatorActivity.running_of_sending sending) id rfl rfl
  | readingsClosed loop selecting empty closed =>
    have running := AggregatorActivity.running_of_selecting selecting
    refine polling.finish running trivial rfl rfl fun early => ?_
    rcases closed with stopped | returned
    · rw [early] at stopped
      cases stopped
    · -- A poller that runs holds the channel of readings open.
      refine .inl (List.eq_nil_iff_forall_not_mem.mpr fun task member => ?_)
      exact absurd (returned task member) (polling.pollers running task member)
  | overflowed loop handledAt taken sending =>
    exact polling.finish (AggregatorActivity.running_of_sending sending) trivial rfl rfl
      fun _ => .inr rfl
  | refused loop handledAt taken rest batch sending closed =>
    have running := AggregatorActivity.running_of_sending sending
    refine polling.finish running trivial rfl rfl fun early => ?_
    -- The publisher stops receiving only after the aggregator.
    have spared := aborts.spared (aborts.not_requested early)
    exact absurd closed (feeding.not_ended running spared)
  | aggregatorAborted requested running =>
    refine polling.finish running trivial rfl rfl fun early => ?_
    rw [aborts.not_requested early] at requested
    cases requested
  | publish | batchesClosed | publisher | publisherAborted =>
    exact ⟨polling.pollers, polling.aggregator, polling.stopping, polling.failed⟩
  | shutdownRequested selecting =>
    exact ⟨polling.pollers, fun _ => polling.aggregator (stopped_of_selecting selecting), nofun,
      nofun⟩
  | publisherExited selecting ended =>
    have early : system.stopped = false := stopped_of_selecting selecting
    have bereft : system.Bereft := polling.aggregator early <| by
      refine Classical.byContradiction fun running => ?_
      rw [feeding.receiving running] at ended
      cases ended
    exact ⟨polling.pollers, fun _ => polling.aggregator early, fun _ _ => bereft, nofun⟩
  | aggregatorExited selecting ended =>
    have early : system.stopped = false := stopped_of_selecting selecting
    exact ⟨polling.pollers, fun _ => polling.aggregator early,
      fun _ _ => polling.aggregator early ended, nofun⟩
  | pollersStopped failure stopping =>
    cases failure with
    | none => exact ⟨polling.pollers, nofun, nofun, nofun⟩
    | some e => exact ⟨polling.pollers, nofun, nofun, fun _ _ => polling.stopping e stopping⟩
  | drained | graceElapsed | publisherGone | statusWriterDone | statusFlushElapsed =>
    exact ⟨polling.pollers, nofun, nofun, nofun⟩

theorem Inv.step {system system' : System} {event : SystemEvent} (inv : Inv config system)
    (moved : Step config qos system event system') : Inv config system' := by
  obtain ⟨publisher, projected, rfl⟩ := simulates_publisher system event system' _ rfl moved
  refine ⟨inv.aborts.step moved, inv.feeding.step moved,
    inv.polling.step inv.feeding inv.aborts moved, ?_⟩
  exact projected.invariant (Publisher.Sound config.gateway) inv.publisher
    fun _ _ _ sound moved => sound.step moved

theorem inv_of_run {nowUnix : Duration} {startedAt : Instant} {system₀ system : System}
    {events : List SystemEvent} (started : System.start config nowUnix startedAt = some system₀)
    (run : Run (Step config qos) system₀ events system) : Inv config system :=
  run.invariant (Inv config) (inv_start started) fun _ _ _ inv moved => inv.step moved

/-! ### Until shutdown is requested -/

/-- A poller keeps its connection. -/
theorem Step.connections {system system' : System} {event : SystemEvent}
    (moved : Step config qos system event system') :
    system'.connections.map Prod.fst = system.connections.map Prod.fst := by
  cases moved with
  | poll before after connection poller poller' input actions early tasks => simp [tasks]
  | respawn before after connection backoff early tasks => simp [tasks]
  | pollersStopped failure => cases failure <;> rfl
  | _ => rfl

theorem connections_of_run {nowUnix : Duration} {startedAt : Instant} {system₀ system : System}
    {events : List SystemEvent} (started : System.start config nowUnix startedAt = some system₀)
    (run : Run (Step config qos) system₀ events system) :
    system.connections.map Prod.fst = config.connections := by
  refine run.invariant (fun system => system.connections.map Prod.fst = config.connections) ?_
    fun _ _ _ same moved => moved.connections.trans same
  obtain ⟨loop, _, rfl⟩ := Option.map_eq_some_iff.mp started
  simp [Function.comp_def]

theorem tasks_of_run {nowUnix : Duration} {startedAt : Instant} {system₀ system : System}
    {events : List SystemEvent} (started : System.start config nowUnix startedAt = some system₀)
    (run : Run (Step config qos) system₀ events system) (connected : config.connections ≠ []) :
    system.connections ≠ [] := by
  intro none
  have kept := connections_of_run started run
  rw [none] at kept
  exact connected kept.symm

/-- Whenever a flush is handled the clock has room for one more window. -/
def ClockLasts (config : Config) (events : List SystemEvent) : Prop :=
  ∀ handledAt batches, .flush handledAt batches ∈ events →
    (Instant.add? .latest handledAt (.fromSecs config.gateway.aggregationWindowSecs)).isSome

/-- The next deadline of a flush that is under way has a representation. -/
def InTime (config : Config) (system : System) : Prop :=
  match system.aggregator with
  | .sending loop _ _ _ =>
    (Instant.add? .latest loop.deadline (.fromSecs config.gateway.aggregationWindowSecs)).isSome
  | .panicked => False
  | .selecting _ | .returned | .aborted => True

theorem InTime.step {system system' : System} {event : SystemEvent} (inTime : InTime config system)
    (moved : Step config qos system event system') (lasts : ClockLasts config [event]) :
    InTime config system' := by
  cases moved with
  | flush loop handledAt batches selecting due =>
    -- A deadline is never later than its flush.
    exact Instant.isSome_add?_of_le due (lasts handledAt batches (List.mem_singleton_self _))
  | send loop _ _ _ _ sending => simpa only [InTime, sending] using inTime
  | overflowed loop _ _ sending beyond =>
    rw [InTime, sending] at inTime
    simp [beyond] at inTime
  | receive | readingsClosed | advance | refused | aggregatorAborted => exact trivial
  | pollersStopped failure => cases failure <;> exact inTime
  | _ => exact inTime

theorem inTime_of_run {nowUnix : Duration} {startedAt : Instant} {system₀ system : System}
    {events : List SystemEvent} (started : System.start config nowUnix startedAt = some system₀)
    (run : Run (Step config qos) system₀ events system) (lasts : ClockLasts config events) :
    InTime config system := by
  induction run with
  | refl =>
    obtain ⟨loop, _, rfl⟩ := Option.map_eq_some_iff.mp started
    exact trivial
  | snoc _ moved ih =>
    exact (ih fun _ _ member => lasts _ _ (List.mem_append_left _ member)).step moved
      fun _ _ member => lasts _ _ (List.mem_append_right _ member)

theorem InTime.connected {system : System} (inTime : InTime config system)
    (connected : system.connections ≠ []) : ¬system.Bereft := by
  rintro (none | panicked)
  · exact connected none
  · simp [InTime, panicked] at inTime

theorem selecting_until_asked {nowUnix : Duration} {startedAt : Instant} {system₀ system : System}
    {events : List SystemEvent} (started : System.start config nowUnix startedAt = some system₀)
    (run : Run (Step config qos) system₀ events system) (lasts : ClockLasts config events)
    (connected : config.connections ≠ []) (unasked : .shutdownRequested ∉ events) :
    system.control = .selecting := by
  induction run with
  | refl =>
    obtain ⟨loop, _, rfl⟩ := Option.map_eq_some_iff.mp started
    rfl
  | @snoc before after events event first moved ih =>
    have lasts' : ClockLasts config events :=
      fun _ _ member => lasts _ _ (List.mem_append_left _ member)
    have selecting := ih lasts' fun asked => unasked (List.mem_append_left _ asked)
    have inv := inv_of_run started first
    have running : ¬before.aggregator.Ended := fun ended =>
      (inTime_of_run started first lasts').connected (tasks_of_run started first connected)
        (inv.polling.aggregator (stopped_of_selecting selecting) ended)
    have elsewhere {control : Control} (now : before.control = control)
        (other : control ≠ .selecting) : False := other (now.symm.trans selecting)
    cases moved with
    | shutdownRequested =>
      exact absurd (List.mem_append_right _ (List.mem_singleton_self _)) unasked
    | publisherExited _ ended =>
      rw [inv.feeding.receiving running] at ended
      cases ended
    | aggregatorExited _ ended => exact absurd ended running
    | pollersStopped _ now | drained now | graceElapsed now | publisherGone now
    | statusWriterDone now | statusFlushElapsed now => exact (elsewhere now nofun).elim
    | _ => exact selecting

/-- What `run` does once the aggregator is gone. -/
theorem aggregatorExited_run {system : System} (selecting : system.control = .selecting)
    (ended : system.aggregator.Ended) :
    ∃ system', Run (Step config qos) system [.aggregatorExited, .pollersStopped] system' ∧
      system'.control = .returned (.error (.taskExited "aggregator")) :=
  ⟨_, .cons (.aggregatorExited _ selecting ended) (.single (.pollersStopped _ _ rfl)), rfl⟩

/-- A gateway with connections runs until it is asked to stop, as long as the clock does: before
that `run` is in its `select!` and no task has ended, and it never returns an error. It may
return one without connections, since nothing then holds the channel of readings open, and
when the aggregator's next deadline has no representation. -/
theorem runs_until_shutdown {nowUnix : Duration} {startedAt : Instant} {system₀ : System}
    (started : System.start config nowUnix startedAt = some system₀) :
    ((∃ events system e, Run (Step config qos) system₀ events system ∧ ClockLasts config events ∧
      system.control = .returned (.error e)) ↔ config.connections = []) ∧
    (config.connections ≠ [] → ∀ events system, Run (Step config qos) system₀ events system →
      ClockLasts config events → .shutdownRequested ∉ events →
        system.control = .selecting ∧ ¬system.aggregator.Ended ∧
        system.publisher.phase = .receiving ∧ system.publisherAborted = false ∧
        ∀ task ∈ system.connections, task.2.phase ≠ .returned) ∧
    (config.connections ≠ [] → ∀ events system, Run (Step config qos) system₀ events system →
      (∀ e, system.control = .returned (.error e) → system.aggregator = .panicked) ∧
      (system.control = .selecting → system.aggregator = .panicked →
        ∃ system', Run (Step config qos) system [.aggregatorExited, .pollersStopped] system' ∧
          system'.control = .returned (.error (.taskExited "aggregator")))) := by
  refine ⟨⟨?_, ?_⟩, fun connected events system run lasts unasked => ?_,
    fun connected events system run => ⟨fun e failed => ?_, fun selecting panicked => ?_⟩⟩
  · rintro ⟨events, system, e, run, lasts, failed⟩
    refine Classical.byContradiction fun connected => ?_
    exact (inTime_of_run started run lasts).connected (tasks_of_run started run connected)
      ((inv_of_run started run).polling.failed e failed)
  · intro unconnected
    obtain ⟨loop, _, spawned⟩ := Option.map_eq_some_iff.mp started
    have control : system₀.control = .selecting := by rw [← spawned]
    have selecting : system₀.aggregator = .selecting loop := by rw [← spawned]
    have empty : system₀.readings = [] := by rw [← spawned]
    have tasks : system₀.connections = [] := by rw [← spawned]; simp [unconnected]
    -- Nobody holds a sender of readings, so the aggregator returns at once.
    have returned : Step config qos system₀ .readingsClosed _ :=
      .readingsClosed system₀ loop selecting empty (.inr (by simp [tasks]))
    obtain ⟨system', exits, failed⟩ : ∃ system', Run (Step config qos)
        { system₀ with aggregator := .returned } [.aggregatorExited, .pollersStopped] system' ∧
        system'.control = .returned (.error (.taskExited "aggregator")) :=
      aggregatorExited_run control trivial
    exact ⟨_, system', _, .cons returned exits, by simp [ClockLasts], failed⟩
  · have inv := inv_of_run started run
    have selecting := selecting_until_asked started run lasts connected unasked
    have early : system.stopped = false := stopped_of_selecting selecting
    have running : ¬system.aggregator.Ended := fun ended =>
      (inTime_of_run started run lasts).connected (tasks_of_run started run connected)
        (inv.polling.aggregator early ended)
    exact ⟨selecting, running, inv.feeding.receiving running,
      inv.aborts.spared (inv.aborts.not_requested early), inv.polling.pollers running⟩
  · exact ((inv_of_run started run).polling.failed e failed).resolve_left
      (tasks_of_run started run connected)
  · exact aggregatorExited_run selecting (panicked ▸ trivial)

theorem runs_until_shutdown_gwRouter1 :
    ¬∃ events system e, Run (Step exampleConfig .atLeastOnce) (startOfMinute exampleConfig)
      events system ∧ ClockLasts exampleConfig events ∧ system.control = .returned (.error e) :=
  fun failing => nomatch (runs_until_shutdown (start_eq_startOfMinute rfl)).1.mp failing

end System

end ModbusGateway
