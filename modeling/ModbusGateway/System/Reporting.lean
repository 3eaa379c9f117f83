import ModbusGateway.Mqtt.Eventloop
import ModbusGateway.Status.Task
import ModbusGateway.Status.View
import ModbusGateway.System.Shutdown

/-!
# The gateway with its status task

All tasks of `run`: what pollers and event loop report goes through one bounded
channel to the status task, and a regular shutdown ends with that task. The
tasks run in parallel, so between two reports of one of them the others may
report or the status task receive. Here the process runs on; what a crash leaves
of the file is the task's own matter.
-/
namespace ModbusGateway

open Foundation

def statusChannelCapacity : Nat := 256

def SystemEvent.reports : SystemEvent → List StatusEvent
  | .poll _ _ actions => ModbusGateway.reports actions
  | .publisher _ reports => reports
  | _ => []

/-- `run_status_writer` has returned or panicked, its last write included. -/
def StatusTask.Finished (task : StatusTask) : Prop :=
  (task.writer.phase = .returned ∨ task.writer.phase = .panicked) ∧ task.file.call.isNone

instance (task : StatusTask) : Decidable task.Finished := inferInstanceAs (Decidable (_ ∧ _))

/-- Whether a `try_send` to the status task succeeds. Its receiver is gone when it has ended. -/
def StatusReporter.takes (channel : List StatusEvent) (task : StatusTask) : Bool :=
  decide (¬task.Finished) && decide (channel.length < statusChannelCapacity)

/-- `report`: a `try_send` whose failure is ignored. -/
def StatusReporter.report (channel : List StatusEvent) (task : StatusTask)
    (event : StatusEvent) : List StatusEvent :=
  if takes channel task then channel ++ [event] else channel

/-- What the status task does without its channel. -/
def StatusTaskEvent.Own : StatusTaskEvent → Prop
  | .turn (.started ..) _ | .turn (.timer ..) _ | .progressed | .returned .. => True
  -- A restart is that of another process.
  | .turn (.event ..) _ | .turn (.closed _) _ | .restarted => False

/-- A task goes on when its reports are out; `shutdown` waits for the pollers to be gone. -/
def SystemEvent.Awaits : SystemEvent → StatusEvent → Prop
  | .poll connection .., report | .respawn connection, report =>
    report.connection? = some connection.id
  | .publisher .connAck _, report | .publisher .connectionError _, report
  | .publisher .requestSent _, report => report.connection? = none
  | .pollersStopped, report => report.connection? ≠ none
  | _, _ => False

structure Reporting where
  system : System
  -- What tasks are about to report.
  outbox : List StatusEvent
  channel : List StatusEvent
  task : StatusTask

inductive ReportingEvent where
  | gateway (event : SystemEvent)
  | offered (report : StatusEvent) (taken : Bool)
  | status (event : StatusTaskEvent)

namespace ReportingEvent

def reports : ReportingEvent → List StatusEvent
  | .gateway event => event.reports
  | .offered .. | .status _ => []

def offer? : ReportingEvent → Option StatusEvent
  | .offered report _ => some report
  | .gateway _ | .status _ => none

def taken? : ReportingEvent → Option StatusEvent
  | .offered report true => some report
  | .offered _ false | .gateway _ | .status _ => none

def system? : ReportingEvent → Option SystemEvent
  | .gateway event => some event
  | .offered .. | .status _ => none

def status? : ReportingEvent → Option StatusTaskEvent
  | .status event => some event
  | .gateway _ | .offered .. => none

end ReportingEvent

namespace Reporting

section

variable (config : Config) (qos : QoS) (formatUtc : OffsetDateTime → TimeFormat → String)

def statusFilePath : Path := config.gateway.statusFilePath.toUTF8.data.toList

/-- A step of `run_status_writer`, with what `run` gives it. -/
def TaskStep : StatusTask → StatusTaskEvent → StatusTask → Prop :=
  StatusTask.Step (statusFilePath config) formatUtc
    (.fromSecs config.gateway.statusDebounceSecs) (.fromSecs config.gateway.statusHeartbeatSecs)
    (.fromConfig config)

inductive Step : Reporting → ReportingEvent → Reporting → Prop where
  | gateway (system system' : System) (event : SystemEvent) (outbox channel : List StatusEvent)
      (task : StatusTask) (moved : System.Step config qos system event system')
      (ready : ∀ report ∈ outbox, ¬event.Awaits report)
      -- `run` awaits the status task before it returns.
      (awaited : event = .statusWriterDone → task.Finished) :
      Step ⟨system, outbox, channel, task⟩ (.gateway event)
        ⟨system', outbox ++ event.reports, channel, task⟩
  | offered (system : System) (before after : List StatusEvent) (report : StatusEvent)
      (channel : List StatusEvent) (task : StatusTask)
      -- Reports of one task are made one after the other.
      (next : ∀ other ∈ before, other.connection? ≠ report.connection?) :
      Step ⟨system, before ++ report :: after, channel, task⟩
        (.offered report (StatusReporter.takes channel task))
        ⟨system, before ++ after, StatusReporter.report channel task report, task⟩
  | received (system : System) (event : StatusEvent) (outbox channel : List StatusEvent)
      (task task' : StatusTask) (utc : OffsetDateTime) (now : Instant) (write : Option StatusWrite)
      (moved : TaskStep config formatUtc task (.turn (.event event utc now) write) task') :
      Step ⟨system, outbox, event :: channel, task⟩ (.status (.turn (.event event utc now) write))
        ⟨system, outbox, channel, task'⟩
  | closed (system : System) (task task' : StatusTask) (utc : OffsetDateTime)
      (write : Option StatusWrite) (senders : system.StatusSendersGone)
      (moved : TaskStep config formatUtc task (.turn (.closed utc) write) task') :
      Step ⟨system, [], [], task⟩ (.status (.turn (.closed utc) write)) ⟨system, [], [], task'⟩
  | status (system : System) (outbox channel : List StatusEvent) (task task' : StatusTask)
      (event : StatusTaskEvent) (own : event.Own)
      (moved : TaskStep config formatUtc task event task') :
      Step ⟨system, outbox, channel, task⟩ (.status event) ⟨system, outbox, channel, task'⟩

/-- Everything spawned, on a file system as it is found. -/
def start (nowUnix : Duration) (startedAt : Instant) (fs : FileSystem Path) : Option Reporting :=
  (System.start config nowUnix startedAt).map fun system =>
    ⟨system, [], [], .start (.fromConfig config) fs⟩

end

end Reporting

/-! ### Reports of the tasks -/

/-- Pollers report on their own connection only. -/
def OwnReports (cfg : ConnectionConfig) (actions : List PollerAction) : Prop :=
  ∀ event ∈ reports actions, event.connection? = some cfg.id

section

variable {cfg : ConnectionConfig}

theorem connection?_deviceEvent (device : DeviceConfig) (problem : Option String) :
    (deviceEvent cfg device problem).connection? = some cfg.id := by
  cases problem <;> rfl

theorem ownReports_pollDevices (devices : List DeviceConfig) :
    OwnReports cfg (pollDevices cfg devices).2 := by
  induction devices with
  | nil => simp [OwnReports, pollDevices]
  | cons device devices ih =>
    unfold pollDevices
    cases device.blocks with
    | nil => simpa [OwnReports, PollerAction.report?, connection?_deviceEvent] using ih
    | cons => simp [OwnReports, PollerAction.report?]

theorem ownReports_finishDevice (cursor : Cursor) (problem : Option String) :
    OwnReports cfg (finishDevice cfg cursor problem).2 := by
  simpa [OwnReports, finishDevice, PollerAction.report?, connection?_deviceEvent] using
    ownReports_pollDevices cursor.devices

theorem ownReports_offerValues (cursor : Cursor) (words : List UInt16)
    (values : List (String × F64)) : OwnReports cfg (offerValues cfg cursor words values).2 := by
  cases values with
  | nil =>
    unfold offerValues nextBlock
    cases cursor.blocks with
    | nil => exact ownReports_finishDevice cursor none
    | cons => simp [OwnReports, PollerAction.report?]
  | cons => simp [OwnReports, offerValues]

theorem Poller.Moves.ownReports {poller poller' : Poller} {input : PollerInput}
    {actions : List PollerAction} (moves : Poller.Moves cfg poller input poller' actions) :
    OwnReports cfg actions := by
  cases moves with
  | connected | connectFailed | slept | overflowed | undecodable | refused | fatal =>
    simp [OwnReports, PollerAction.report?, StatusEvent.connection?]
  | ticked => exact ownReports_pollDevices cfg.devices
  | words _ cursor _ words values =>
    simpa [OwnReports, PollerAction.report?] using ownReports_offerValues cursor words values
  | failed _ cursor _ _ reason =>
    simpa [OwnReports, PollerAction.report?] using ownReports_finishDevice cursor (some reason)
  | offered _ cursor words _ values =>
    simpa [OwnReports, PollerAction.report?] using ownReports_offerValues cursor words values

end

namespace System

variable {config : Config} {qos : QoS} {system system' : System} {event : SystemEvent}

/-- What the reports so far say of the session. -/
def reportedSession (reports : List StatusEvent) (connected : Bool) : Bool :=
  (reports.filter StatusEvent.isMqtt).foldl (fun _ event => decide (event = .mqttConnected))
    connected

/-- The reports of a step tell whether a session is open after it. -/
theorem Step.session (moved : Step config qos system event system') :
    reportedSession event.reports (system.publisher.eventloop = .connected) =
      decide (system'.publisher.eventloop = .connected) := by
  cases moved with
  | poll before after connection poller poller' input actions polling tasks answered moved =>
    have own := (Poller.moves_of_next moved).ownReports
    have none : (reports actions).filter StatusEvent.isMqtt = [] := by
      refine List.filter_eq_nil_iff.mpr fun event member mqtt => ?_
      have about := own event member
      cases event <;> cases mqtt <;> cases about
    simp [reportedSession, SystemEvent.reports, none]
  | publish batch batches publisher' running oldest moved =>
    cases Publisher.step_iff_moves.mp moved
    simp [reportedSession, SystemEvent.reports]
  | batchesClosed publisher' running empty closed moved =>
    cases Publisher.step_iff_moves.mp moved
    simp [reportedSession, SystemEvent.reports]
  | publisher event reports publisher' running own moved =>
    cases Publisher.step_iff_moves.mp moved with
    | connAck | connectionError | disconnectSent => rfl
    | _ => simp [reportedSession, SystemEvent.reports]
  | pollersStopped failure => cases failure <;> rfl
  | _ => rfl

theorem Step.stopped (moved : Step config qos system event system')
    (stopped : system.stopped = true) : system'.stopped = true := by
  cases moved with
  | poll _ _ _ _ _ _ _ early | respawn _ _ _ _ early => exact absurd stopped (by simp [early])
  | shutdownRequested now | publisherExited now | aggregatorExited now =>
    simp [System.stopped, now] at stopped
  | pollersStopped failure => cases failure <;> rfl
  | drained | graceElapsed | publisherGone | statusWriterDone | statusFlushElapsed => rfl
  | _ => exact stopped

/-- Once the senders are gone nothing is reported any more. -/
theorem Step.sendersGone (moved : Step config qos system event system')
    (gone : system.StatusSendersGone) : system'.StatusSendersGone ∧ event.reports = [] := by
  have stopped := moved.stopped gone.1
  obtain ⟨early, aborted | returned⟩ := gone
  · cases moved with
    | poll _ _ _ _ _ _ _ polling => exact absurd early (by simp [polling])
    | publish _ _ _ running | batchesClosed _ running | publisher _ _ _ running =>
      rw [aborted] at running
      cases running
    | publisherAborted => exact ⟨⟨stopped, .inl rfl⟩, rfl⟩
    | pollersStopped failure => cases failure <;> exact ⟨⟨stopped, .inl aborted⟩, rfl⟩
    | _ => exact ⟨⟨stopped, .inl aborted⟩, rfl⟩
  · have other {state : Eventloop} (now : system.publisher.eventloop = state)
        (apart : state ≠ .returned) : False := apart (now.symm.trans returned)
    cases moved with
    | poll _ _ _ _ _ _ _ polling => exact absurd early (by simp [polling])
    | publish _ _ _ _ _ moved | batchesClosed _ _ _ _ moved =>
      cases Publisher.step_iff_moves.mp moved
      exact ⟨⟨stopped, .inr (by simpa using returned)⟩, rfl⟩
    | publisher _ _ _ _ _ moved =>
      cases Publisher.step_iff_moves.mp moved with
      | connAck now | requestSent _ _ _ now | disconnectSent _ _ now =>
        exact (other now nofun).elim
      | connectionError running => exact absurd returned running
      | _ => exact ⟨⟨stopped, .inr (by simpa using returned)⟩, rfl⟩
    | publisherAborted => exact ⟨⟨stopped, .inl rfl⟩, rfl⟩
    | pollersStopped failure => cases failure <;> exact ⟨⟨stopped, .inr returned⟩, rfl⟩
    | _ => exact ⟨⟨stopped, .inr returned⟩, rfl⟩

end System

/-! ### The channel -/

namespace Reporting

variable {config : Config} {qos : QoS} {formatUtc : OffsetDateTime → TimeFormat → String}

theorem simulates_system :
    Simulation (Step config qos formatUtc) (System.Step config qos) ReportingEvent.system?
      (fun whole system => system = whole.system) := by
  rintro whole event whole' system rfl moved
  cases moved with
  | gateway system system' event outbox channel task moved => exact ⟨_, Run.single moved, rfl⟩
  | _ => exact ⟨_, .refl _, rfl⟩

theorem simulates_task :
    Simulation (Step config qos formatUtc) (TaskStep config formatUtc) ReportingEvent.status?
      (fun whole task => task = whole.task) := by
  rintro whole event whole' task rfl moved
  cases moved with
  | gateway | offered => exact ⟨_, .refl _, rfl⟩
  | received _ _ _ _ _ _ _ _ _ moved | closed _ _ _ _ _ _ moved | status _ _ _ _ _ _ _ moved =>
    exact ⟨_, Run.single moved, rfl⟩

/-- What the status task has received, with the times it was applied at. -/
def heard (events : List ReportingEvent) : List TimedEvent :=
  StatusWriter.received (StatusTask.turnsSince (events.filterMap ReportingEvent.status?))

theorem heard_silent (events : List ReportingEvent) {event : ReportingEvent}
    (silent : event.status? = none) : heard (events ++ [event]) = heard events := by
  rw [heard, filterMap_snoc, silent, Option.toList_none, List.append_nil, heard]

theorem heard_status (events : List ReportingEvent) (event : StatusTaskEvent) :
    heard (events ++ [.status event]) = StatusWriter.received
      (StatusTask.turnsSince (events.filterMap ReportingEvent.status? ++ [event])) := by
  rw [heard, filterMap_snoc]
  rfl

theorem heard_turn (events : List ReportingEvent) (input : WriterInput)
    (write : Option StatusWrite) :
    heard (events ++ [.status (.turn input write)]) =
      heard events ++ (StatusWriter.eventOf input).toList := by
  rw [heard_status, StatusTask.turnsSince_snoc, StatusWriter.received_snoc, heard]

theorem heard_own (events : List ReportingEvent) {event : StatusTaskEvent} (own : event.Own) :
    heard (events ++ [.status event]) = heard events := by
  cases event with
  | turn input write =>
    rw [heard_turn]
    cases input with
    | started | timer => exact List.append_nil _
    | event | closed => exact own.elim
  | progressed | returned => rw [heard_status, StatusTask.turnsSince_snoc, heard]
  | restarted => exact own.elim

theorem reportedSession_append (earlier later : List StatusEvent) (connected : Bool) :
    System.reportedSession (earlier ++ later) connected =
      System.reportedSession later (System.reportedSession earlier connected) := by
  simp [System.reportedSession]

/-- The reports of one task. -/
def reportsOf (source : Option String) (reports : List StatusEvent) : List StatusEvent :=
  reports.filter fun report => report.connection? = source

theorem reportsOf_append (source : Option String) (earlier later : List StatusEvent) :
    reportsOf source (earlier ++ later) = reportsOf source earlier ++ reportsOf source later :=
  List.filter_append ..

/-- What is offered next is the oldest report of its task. -/
theorem reportsOf_offered (source : Option String) {before after : List StatusEvent}
    {report : StatusEvent} (next : ∀ other ∈ before, other.connection? ≠ report.connection?) :
    reportsOf source (before ++ report :: after) =
      reportsOf source [report] ++ reportsOf source (before ++ after) := by
  by_cases own : report.connection? = source
  · have others : reportsOf source before = [] := by
      refine List.filter_eq_nil_iff.mpr fun other member => ?_
      simpa [← own] using next other member
    rw [reportsOf_append, reportsOf_append, others, List.nil_append, List.nil_append,
      ← reportsOf_append, List.singleton_append]
  · have foreign : reportsOf source [report] = [] := by simp [reportsOf, own]
    rw [← List.singleton_append, reportsOf_append, reportsOf_append, reportsOf_append, foreign,
      List.nil_append, List.nil_append]

theorem isMqtt_eq (report : StatusEvent) :
    report.isMqtt = decide (report.connection? = none) := by
  cases report <;> rfl

theorem filter_isMqtt (reports : List StatusEvent) :
    reports.filter StatusEvent.isMqtt = reportsOf none reports :=
  List.filter_congr fun report _ => isMqtt_eq report

/-- What is reported, and what becomes of it. -/
structure Relays (events : List ReportingEvent) (whole : Reporting) : Prop where
  offers : ∀ source, reportsOf source (events.filterMap ReportingEvent.offer?) ++
    reportsOf source whole.outbox = reportsOf source (events.flatMap ReportingEvent.reports)
  flow : events.filterMap ReportingEvent.taken? =
    (heard events).map TimedEvent.event ++ whole.channel
  bounded : whole.channel.length ≤ statusChannelCapacity
  session : System.reportedSession (events.flatMap ReportingEvent.reports) false =
    decide (whole.system.publisher.eventloop = .connected)

theorem Relays.step {events : List ReportingEvent} {whole whole' : Reporting}
    {event : ReportingEvent} (relays : Relays events whole)
    (moved : Step config qos formatUtc whole event whole') : Relays (events ++ [event]) whole' := by
  obtain ⟨offers, flow, bounded, session⟩ := relays
  have reported : (events ++ [event]).flatMap ReportingEvent.reports =
      events.flatMap ReportingEvent.reports ++ event.reports := by simp
  have offered := filterMap_snoc ReportingEvent.offer? events event
  have took := filterMap_snoc ReportingEvent.taken? events event
  cases moved with
  | gateway system system' event outbox channel task moved =>
    refine ⟨fun source => ?_, ?_, bounded, ?_⟩
    · rw [reported, reportsOf_append, reportsOf_append, ← offers source, List.append_assoc, offered]
      simp [ReportingEvent.offer?, ReportingEvent.reports]
    · rw [took, heard_silent events rfl]
      simpa [ReportingEvent.taken?] using flow
    · rw [reported, reportedSession_append, session]
      exact moved.session
  | offered system before after report channel task next =>
    refine ⟨fun source => ?_, ?_, ?_, ?_⟩
    · have oldest := offers source
      rw [reportsOf_offered source next] at oldest
      rw [offered, reported, reportsOf_append]
      simpa [ReportingEvent.offer?, ReportingEvent.reports] using oldest
    · rw [took, heard_silent events rfl, flow]
      unfold StatusReporter.report
      cases StatusReporter.takes channel task <;> simp [ReportingEvent.taken?]
    · unfold StatusReporter.report
      split
      next taken =>
        have room := of_decide_eq_true (Bool.and_eq_true_iff.mp taken).2
        simpa using Nat.succ_le_of_lt room
      next refused => exact bounded
    · simpa [reported, ReportingEvent.reports] using session
  | received system event outbox channel task task' utc now write moved =>
    refine ⟨?_, ?_, (Nat.le_succ _).trans bounded, ?_⟩
    · simpa [offered, reported, ReportingEvent.offer?, ReportingEvent.reports] using offers
    · rw [took, heard_turn]
      simpa [ReportingEvent.taken?, StatusWriter.eventOf] using flow
    · simpa [reported, ReportingEvent.reports] using session
  | closed system task task' utc write senders moved =>
    refine ⟨?_, ?_, bounded, ?_⟩
    · simpa [offered, reported, ReportingEvent.offer?, ReportingEvent.reports] using offers
    · rw [took, heard_turn]
      simpa [ReportingEvent.taken?, StatusWriter.eventOf] using flow
    · simpa [reported, ReportingEvent.reports] using session
  | status system outbox channel task task' event own moved =>
    refine ⟨?_, ?_, bounded, ?_⟩
    · simpa [offered, reported, ReportingEvent.offer?, ReportingEvent.reports] using offers
    · rw [took, heard_own events own]
      simpa [ReportingEvent.taken?] using flow
    · simpa [reported, ReportingEvent.reports] using session

theorem relays_of_run {nowUnix : Duration} {startedAt : Instant} {fs : FileSystem Path}
    {whole₀ whole : Reporting} {events : List ReportingEvent}
    (started : start config nowUnix startedAt fs = some whole₀)
    (run : Run (Step config qos formatUtc) whole₀ events whole) : Relays events whole := by
  refine run.history Relays ?_ fun _ _ _ _ relays moved => relays.step moved
  obtain ⟨system, spawned, rfl⟩ := Option.map_eq_some_iff.mp started
  obtain ⟨loop, _, rfl⟩ := Option.map_eq_some_iff.mp spawned
  exact ⟨fun _ => rfl, rfl, Nat.zero_le _, rfl⟩

/-- Every report of a task was taken, and all of them are applied. -/
structure CaughtUp (source : Option String) (events : List ReportingEvent) (whole : Reporting) :
    Prop where
  taken : ∀ report, report.connection? = source → .offered report false ∉ events
  applied : ∀ report ∈ whole.outbox ++ whole.channel, report.connection? ≠ source

theorem reportsOf_taken (source : Option String) {events : List ReportingEvent}
    (lossless : ∀ report, report.connection? = source → .offered report false ∉ events) :
    reportsOf source (events.filterMap ReportingEvent.taken?) =
      reportsOf source (events.filterMap ReportingEvent.offer?) := by
  rw [reportsOf, reportsOf, List.filter_filterMap, List.filter_filterMap]
  refine List.filterMap_congr fun event member => ?_
  cases event with
  | gateway | status => rfl
  | offered report taken =>
    cases taken with
    | true => rfl
    | false =>
      have other : report.connection? ≠ source := fun own => lossless report own member
      simp [ReportingEvent.taken?, ReportingEvent.offer?, Option.filter, other]

theorem Relays.caughtUp {events : List ReportingEvent} {whole : Reporting}
    (relays : Relays events whole) {source : Option String}
    (caught : CaughtUp source events whole) :
    reportsOf source ((heard events).map TimedEvent.event) =
      reportsOf source (events.flatMap ReportingEvent.reports) := by
  have none {reports : List StatusEvent}
      (others : ∀ report ∈ reports, report.connection? ≠ source) : reportsOf source reports = [] :=
    List.filter_eq_nil_iff.mpr fun report member => by simpa using others report member
  have flow := congrArg (reportsOf source) relays.flow
  have offers := relays.offers source
  rw [none fun report member => caught.applied report (List.mem_append_left _ member),
    List.append_nil] at offers
  rw [reportsOf_append,
    none fun report member => caught.applied report (List.mem_append_right _ member),
    List.append_nil] at flow
  rw [← flow, reportsOf_taken source caught.taken, offers]

/-- Once the reports of the event loop are applied the broker is shown as the session is. -/
theorem Relays.broker {events : List ReportingEvent} {whole : Reporting}
    (relays : Relays events whole) (caught : CaughtUp none events whole) :
    ((StatusState.fromConfig config).after (heard events)).mqttConnected =
      decide (whole.system.publisher.eventloop = .connected) := by
  rw [mqttConnected_after, filter_isMqtt, relays.caughtUp caught, ← filter_isMqtt]
  exact relays.session

/-- The shipped configuration, started on an empty disk. -/
def startOfMinute : Reporting where
  system := .startOfMinute exampleConfig
  outbox := []
  channel := []
  task := .start (.fromConfig exampleConfig) ⟨fun _ => none, fun _ => []⟩

theorem start_eq_startOfMinute :
    start exampleConfig ⟨0, by decide⟩ ⟨0⟩ ⟨fun _ => none, fun _ => []⟩ = some startOfMinute := by
  rw [start, System.start_eq_startOfMinute rfl]
  rfl

/-! ### The end of the status task -/

theorem not_returned_of_turn {task task' : StatusTask} {input : WriterInput}
    {write : Option StatusWrite} (moved : TaskStep config formatUtc task (.turn input write) task') :
    task.writer.phase ≠ .returned ∧ task.writer.phase ≠ .panicked := by
  cases moved with
  | turn writer writer' fs input write moved =>
    cases StatusWriter.moves_of_next moved <;> exact ⟨nofun, nofun⟩

/-- The loop returns only when its channel is closed. -/
theorem returned_cases {task task' : StatusTask} {event : StatusTaskEvent}
    (moved : TaskStep config formatUtc task event task')
    (returned : task'.writer.phase = .returned) :
    task.writer.phase = .returned ∨ ∃ utc write, event = .turn (.closed utc) write := by
  have rearms {heartbeat : Duration} {written : Instant} :
      rearmed heartbeat written ≠ .returned := by
    rcases rearmed_cases heartbeat written with ⟨_, _, same⟩ | ⟨_, same⟩ <;> rw [same] <;>
      exact nofun
  cases moved with
  | turn writer writer' fs input write moved =>
    have moves := StatusWriter.moves_of_next moved
    generalize left : writer' = last at moves
    cases moves with
    | closed | flushed => exact .inr ⟨_, _, rfl⟩
    | started | timer =>
      rw [left] at returned
      exact absurd returned rearms
    | unchanged | changed | overflowed =>
      rw [left] at returned
      cases returned
  | progressed | returned => exact .inl returned
  | restarted => cases returned

theorem stuck_of_finished {task task' : StatusTask} {event : StatusTaskEvent}
    (finished : task.Finished) (moved : TaskStep config formatUtc task event task') :
    event = .restarted := by
  obtain ⟨ended, idle⟩ := finished
  cases moved with
  | turn writer writer' fs input write moved =>
    have running := not_returned_of_turn (.turn writer writer' fs input write moved)
    rcases ended with returned | panicked
    · exact absurd returned running.1
    · exact absurd panicked running.2
  | progressed writer file file' moved | returned writer file file' _ _ moved =>
    cases moved
    cases idle
  | restarted => rfl

/-- How the process comes to its end. -/
structure Ending (events : List ReportingEvent) (whole : Reporting) : Prop where
  closed : whole.task.writer.phase = .returned →
    whole.outbox = [] ∧ whole.channel = [] ∧ whole.system.StatusSendersGone
  finished : .gateway .statusFlushElapsed ∉ events →
    whole.system.control = .returned (.ok ()) → whole.task.Finished

theorem Ending.step {events : List ReportingEvent} {whole whole' : Reporting}
    {event : ReportingEvent} (ending : Ending events whole)
    (moved : Step config qos formatUtc whole event whole') :
    Ending (events ++ [event]) whole' := by
  obtain ⟨closed, finished⟩ := ending
  have earlier (patient : .gateway .statusFlushElapsed ∉ events ++ [event]) :
      .gateway .statusFlushElapsed ∉ events :=
    fun member => patient (List.mem_append_left _ member)
  cases moved with
  | gateway system system' event outbox channel task moved ready awaited =>
    refine ⟨fun returned => ?_, fun patient done => ?_⟩
    · obtain ⟨sent, empty, gone⟩ := closed returned
      obtain ⟨gone', silent⟩ := moved.sendersGone gone
      obtain rfl : outbox = [] := sent
      exact ⟨silent, empty, gone'⟩
    · -- Only the step that awaits the status task leads to the regular return in time.
      have still (same : system'.control = system.control) : task.Finished :=
        finished (earlier patient) (same.symm.trans done)
      cases moved with
      | statusWriterDone => exact awaited rfl
      | statusFlushElapsed => exact absurd (List.mem_append_right _ List.mem_cons_self) patient
      | pollersStopped failure => cases failure <;> cases done
      | shutdownRequested | publisherExited | aggregatorExited | drained | graceElapsed
      | publisherGone => cases done
      | _ => exact still rfl
  | offered system before after report channel task next =>
    refine ⟨fun returned => ?_, fun patient done => finished (earlier patient) done⟩
    obtain ⟨sent, _⟩ := closed returned
    exact absurd sent (by simp)
  | received system event outbox channel task task' utc now write moved =>
    refine ⟨fun returned => ?_, fun patient done => ?_⟩
    · rcases returned_cases moved returned with before | ⟨_, _, shape⟩
      · exact absurd before (not_returned_of_turn moved).1
      · cases shape
    · cases stuck_of_finished (finished (earlier patient) done) moved
  | closed system task task' utc write senders moved =>
    refine ⟨fun _ => ⟨rfl, rfl, senders⟩, fun patient done => ?_⟩
    cases stuck_of_finished (finished (earlier patient) done) moved
  | status system outbox channel task task' event own moved =>
    refine ⟨fun returned => ?_, fun patient done => ?_⟩
    · rcases returned_cases moved returned with before | ⟨_, _, rfl⟩
      · exact closed before
      · exact own.elim
    · cases stuck_of_finished (finished (earlier patient) done) moved
      exact own.elim

theorem ending_of_run {nowUnix : Duration} {startedAt : Instant} {fs : FileSystem Path}
    {whole₀ whole : Reporting} {events : List ReportingEvent}
    (started : start config nowUnix startedAt fs = some whole₀)
    (run : Run (Step config qos formatUtc) whole₀ events whole) : Ending events whole := by
  refine run.history Ending ?_ fun _ _ _ _ ending moved => ending.step moved
  obtain ⟨system, spawned, rfl⟩ := Option.map_eq_some_iff.mp started
  obtain ⟨loop, _, rfl⟩ := Option.map_eq_some_iff.mp spawned
  exact ⟨nofun, fun _ => nofun⟩

/-- The status task shows what it has received. -/
theorem state_of_run {nowUnix : Duration} {startedAt : Instant} {fs : FileSystem Path}
    {whole₀ whole : Reporting} {events : List ReportingEvent}
    (started : start config nowUnix startedAt fs = some whole₀)
    (run : Run (Step config qos formatUtc) whole₀ events whole) :
    whole.task.writer.state = (StatusState.fromConfig config).after (heard events) := by
  obtain ⟨system, _, rfl⟩ := Option.map_eq_some_iff.mp started
  obtain ⟨task, projected, rfl⟩ := simulates_task.run rfl run
  exact StatusWriter.state_of_run (StatusTask.writer_run projected)

/-- The clock has room for every time that the status task sets. -/
def ClockLasts (config : Config) (events : List ReportingEvent) : Prop :=
  ∀ input write, .status (.turn input write) ∈ events →
    ¬input.Overflows (.fromSecs config.gateway.statusDebounceSecs)
      (.fromSecs config.gateway.statusHeartbeatSecs)

theorem not_panicked {nowUnix : Duration} {startedAt : Instant} {fs : FileSystem Path}
    {whole₀ whole : Reporting} {events : List ReportingEvent}
    (started : start config nowUnix startedAt fs = some whole₀)
    (run : Run (Step config qos formatUtc) whole₀ events whole) (lasts : ClockLasts config events) :
    whole.task.writer.phase ≠ .panicked := by
  intro panicked
  obtain ⟨system, _, rfl⟩ := Option.map_eq_some_iff.mp started
  obtain ⟨task, projected, rfl⟩ := simulates_task.run rfl run
  obtain ⟨turn, member, overflows⟩ :=
    StatusWriter.overflows_of_panicked (StatusTask.writer_run projected) panicked
  obtain ⟨event, happened, shown⟩ :=
    List.mem_filterMap.mp (StatusTask.mem_of_mem_turnsSince member)
  cases event with
  | status event =>
    obtain rfl := Option.some.inj shown
    exact lasts _ _ happened overflows
  | gateway | offered => cases shown

/-! ### What reaches the status task -/

/-- A report that finds room, with the status task still there. -/
theorem step_taken (system : System) (before after : List StatusEvent) (report : StatusEvent)
    (channel : List StatusEvent) {task : StatusTask}
    (next : ∀ other ∈ before, other.connection? ≠ report.connection?)
    (receives : ¬task.Finished) (room : channel.length < statusChannelCapacity) :
    Step config qos formatUtc ⟨system, before ++ report :: after, channel, task⟩
      (.offered report true) ⟨system, before ++ after, channel ++ [report], task⟩ := by
  have taken : StatusReporter.takes channel task = true := by
    simp [StatusReporter.takes, receives, room]
  have offered : Step config qos formatUtc _ _ _ :=
    .offered system before after report channel task next
  rwa [StatusReporter.report, taken, if_pos rfl] at offered

variable (formatUtc) in
/-- Without a poll the gateway connects, says "offline" and disconnects. -/
theorem clean_run (task : StatusTask) (receives : ¬task.Finished) : ∃ events whole,
    Run (Step exampleConfig .atLeastOnce formatUtc)
      ⟨.startOfMinute exampleConfig, [], [], task⟩ events whole ∧
    whole.task = task ∧ whole.outbox = [] ∧ whole.channel = [.mqttConnected, .mqttDisconnected] ∧
    whole.system.control = .flushingStatus ∧ whole.system.StatusSendersGone ∧
    events.filterMap ReportingEvent.status? = [] ∧
    (∀ report, .offered report false ∉ events) ∧
    .gateway .statusFlushElapsed ∉ events ∧ .gateway .graceElapsed ∉ events :=
  ⟨_, _,
    .cons (.gateway _ _ _ _ _ _ (.shutdownRequested _ rfl) nofun nofun)
      (.cons (.gateway _ _ _ _ _ _ (.pollersStopped _ none rfl) nofun nofun)
      (.cons (.gateway _ _ _ _ _ _ (.readingsClosed _ _ rfl rfl (.inl rfl)) nofun nofun)
      (.cons (.gateway _ _ _ _ _ _ (.batchesClosed _ _ rfl rfl trivial rfl) nofun nofun)
      (.cons (.gateway _ _ _ _ _ _ (.publisher _ .connAck _ _ rfl trivial rfl) nofun nofun)
      (.cons (step_taken _ [] [] .mqttConnected [] nofun receives (by decide))
      (.cons (.gateway _ _ _ _ _ _ (.publisher _ .offlineQueued _ _ rfl trivial rfl) nofun nofun)
      (.cons (.gateway _ _ _ _ _ _ (.publisher _ .requestSent _ _ rfl trivial rfl) nofun nofun)
      (.cons (.gateway _ _ _ _ _ _ (.publisher _ .requestSent _ _ rfl trivial rfl) nofun nofun)
      (.cons (step_taken _ [] [] .mqttDisconnected [_] nofun receives
        (by simp [statusChannelCapacity]))
      (.cons (.gateway _ _ _ _ _ _ (.publisher _ .disconnectQueued _ _ rfl trivial rfl) nofun nofun)
      (.cons (.gateway _ _ _ _ _ _ (.publisher _ .eventloopEnded _ _ rfl trivial rfl) nofun nofun)
      (.single (.gateway _ _ _ _ _ _ (.drained _ rfl trivial rfl) nofun nofun))))))))))))),
    rfl, rfl, rfl, rfl, ⟨rfl, .inr rfl⟩, rfl,
    by simp, by simp, by simp⟩

/-- Every task's reports are offered to the channel in their order, and what it took comes to
the status task in the order it was taken or is still there. A report is lost only while 256
are there, or once the status task has come to the end of its clock. -/
theorem reports_in_order {nowUnix : Duration} {startedAt : Instant} {fs : FileSystem Path}
    {whole₀ whole : Reporting} {events : List ReportingEvent}
    (started : start config nowUnix startedAt fs = some whole₀)
    (run : Run (Step config qos formatUtc) whole₀ events whole) :
    (∀ source, reportsOf source (events.filterMap ReportingEvent.offer?) ++
      reportsOf source whole.outbox = reportsOf source (events.flatMap ReportingEvent.reports)) ∧
    events.filterMap ReportingEvent.taken? =
      (heard events).map TimedEvent.event ++ whole.channel ∧
    whole.channel.length ≤ statusChannelCapacity ∧
    ∀ earlier report later, events = earlier ++ .offered report false :: later →
      (earlier.filterMap ReportingEvent.taken?).length =
        (heard earlier).length + statusChannelCapacity ∨ ¬ClockLasts config earlier := by
  have relays := relays_of_run started run
  refine ⟨relays.offers, relays.flow, relays.bounded, fun earlier report later split => ?_⟩
  subst split
  obtain ⟨before, after, first, moved, _⟩ := run.step_at
  have there := relays_of_run started first
  have ending := ending_of_run started first
  refine Classical.or_iff_not_imp_right.mpr fun lasts => ?_
  have alive := not_panicked started first (Classical.not_not.mp lasts)
  generalize lost : false = taken at moved
  cases moved with
  | offered system before after report channel task next =>
    have bounded : channel.length ≤ statusChannelCapacity := there.bounded
    have receives : ¬task.Finished := by
      rintro ⟨returned | panicked, _⟩
      · -- A task that has returned has nobody left to hear.
        exact absurd (ending.closed returned).1 (by simp)
      · exact alive panicked
    have full : ¬channel.length < statusChannelCapacity := by
      simpa [StatusReporter.takes, receives] using lost
    rw [there.flow, List.length_append, List.length_map]
    change _ + channel.length = _
    omega

theorem reports_in_order_gwRouter1 : ∃ events whole,
    Run (Step exampleConfig .atLeastOnce fun _ _ => "now") startOfMinute events whole ∧
    events.filterMap ReportingEvent.taken? =
      (heard events).map TimedEvent.event ++ [.mqttConnected, .mqttDisconnected] := by
  obtain ⟨events, whole, run, _, _, channel, _⟩ :=
    clean_run (fun _ _ => "now") startOfMinute.task (by decide)
  obtain ⟨_, flow, _⟩ := reports_in_order start_eq_startOfMinute run
  exact ⟨events, whole, run, channel ▸ flow⟩

/-! ### What the file shows -/

/-- What the file says when the last write succeeded and the loop has returned. -/
theorem shown_of_finished {nowUnix : Duration} {startedAt : Instant} {fs : FileSystem Path}
    {whole₀ whole : Reporting} {events : List ReportingEvent}
    (started : start config nowUnix startedAt fs = some whole₀)
    (run : Run (Step config qos formatUtc) whole₀ events whole) (finished : whole.task.Finished)
    (returned : whole.task.writer.phase = .returned)
    (success : StatusTask.lastResult (events.filterMap ReportingEvent.status?) = some (.ok ())) :
    ∃ write : StatusWrite,
      renderStatus formatUtc ((StatusState.fromConfig config).after (heard events)) write.utc =
        some write.text ∧
      whole.task.file.fs.read (statusFilePath config) = some write.bytes := by
  obtain ⟨system, _, rfl⟩ := Option.map_eq_some_iff.mp started
  obtain ⟨task, projected, rfl⟩ := simulates_task.run rfl run
  obtain ⟨write, latest, shown⟩ :=
    (StatusTask.landed_of_run projected).succeeded (Option.isNone_iff_eq_none.mp finished.2) success
  have own := StatusTask.writer_run projected
  have synced : StatusWriter.Synced formatUtc
      (StatusTask.turnsSince (events.filterMap ReportingEvent.status?)) whole.task.writer :=
    Run.history (StatusWriter.Synced formatUtc) (s := .start (.fromConfig config)) trivial
      (fun _ _ _ _ held moved => (StatusWriter.moves_of_next moved).synced held) own
  unfold StatusWriter.Synced at synced
  rw [returned] at synced
  obtain ⟨write', latest', rendered⟩ := synced
  obtain rfl := Option.some.inj (latest.symm.trans latest')
  rw [StatusWriter.state_of_run own] at rendered
  exact ⟨write, rendered, shown⟩

variable (config qos formatUtc) in
/-- A write that the system answers well. -/
theorem exists_write_run (system : System) (writer : StatusWriter)
    (fs : FileSystem Path) (contents : List UInt8) :
    ∃ (steps : List StatusTaskEvent) (fs' : FileSystem Path),
      Run (Step config qos formatUtc) ⟨system, [], [], ⟨writer, ⟨fs, some ⟨contents, .create⟩⟩⟩⟩
        (steps.map .status ++ [.status (.returned contents (.ok ()))])
        ⟨system, [], [], ⟨writer, ⟨fs', none⟩⟩⟩ ∧ ∀ input write, .turn input write ∉ steps := by
  have progressed {fs fs' : FileSystem Path} {phase phase' : AtomicWritePhase} (answer : IoAnswer)
      (moved : writeAtomic (statusFilePath config) contents fs phase answer =
        some (fs', .inl phase')) :
      Step config qos formatUtc ⟨system, [], [], ⟨writer, ⟨fs, some ⟨contents, phase⟩⟩⟩⟩
        (.status .progressed) ⟨system, [], [], ⟨writer, ⟨fs', some ⟨contents, phase'⟩⟩⟩⟩ :=
    .status _ _ _ _ _ _ trivial (.progressed _ _ _ (.progressed _ _ _ _ _ _ moved))
  have synced (fs : FileSystem Path) : ∃ fs', Run (Step config qos formatUtc)
      ⟨system, [], [], ⟨writer, ⟨fs, some ⟨contents, .sync⟩⟩⟩⟩
      [.status .progressed, .status (.returned contents (.ok ()))]
      ⟨system, [], [], ⟨writer, ⟨fs', none⟩⟩⟩ :=
    ⟨_, .cons (progressed .done rfl) (.single (.status _ _ _ _ _ _ trivial
      (.returned _ _ _ _ _ (.returned _ _ _ _ .done _ rfl))))⟩
  by_cases empty : contents = []
  · subst empty
    obtain ⟨fs', rest⟩ := synced (fs.create (tmpPath (statusFilePath config)))
    exact ⟨[.progressed, .progressed], fs',
      .cons (progressed .done rfl) rest, by simp⟩
  · let created := fs.create (tmpPath (statusFilePath config))
    let written := created.append (tmpPath (statusFilePath config)) contents
    have opened : writeAtomic (statusFilePath config) contents fs .create .done =
        some (created, .inl (.write contents)) := by
      simp [writeAtomic, writeAll, empty, created]
    have all : writeAtomic (statusFilePath config) contents created (.write contents)
        (.wrote contents.length) = some (written, .inl .sync) := by
      simp [writeAtomic, writeAll, empty, written]
    obtain ⟨fs', rest⟩ := synced written
    exact ⟨[.progressed, .progressed, .progressed], fs',
      .cons (progressed _ opened) (.cons (progressed _ all) rest), by simp⟩

variable (formatUtc) in
/-- The first write of the loop. -/
theorem exists_started (debounce heartbeat : Duration) (state : StatusState)
    (utc : OffsetDateTime) (written : Instant) :
    ∃ text, StatusWriter.Step formatUtc debounce heartbeat (.start state)
      (.started utc written, some ⟨utc, text⟩) ⟨state, rearmed heartbeat written⟩ := by
  obtain ⟨text, rendered⟩ := exists_renderStatus formatUtc state utc
  refine ⟨text, ?_⟩
  simp only [StatusWriter.Step, StatusWriter.next, StatusWriter.start, StatusWriter.write, rendered]

variable (formatUtc) in
/-- The write of a change that is pending when the channel closes. -/
theorem exists_flushed (debounce heartbeat : Duration) (state : StatusState)
    (nextHeartbeat pending : Instant) (utc : OffsetDateTime) :
    ∃ text, StatusWriter.Step formatUtc debounce heartbeat
      ⟨state, .selecting nextHeartbeat (some pending)⟩ (.closed utc, some ⟨utc, text⟩)
      ⟨state, .returned⟩ := by
  obtain ⟨text, rendered⟩ := exists_renderStatus formatUtc state utc
  refine ⟨text, ?_⟩
  simp [StatusWriter.Step, StatusWriter.next, StatusWriter.write, rendered]

theorem clockLasts_append {earlier later : List ReportingEvent} :
    ClockLasts config (earlier ++ later) ↔ ClockLasts config earlier ∧ ClockLasts config later := by
  simp only [ClockLasts, List.mem_append, or_imp, forall_and]

/-- A first write when the machine was started. -/
theorem lasts_of_started (utc : OffsetDateTime) :
    ¬(WriterInput.started utc ⟨0⟩).Overflows (.fromSecs 2) (.fromSecs 30) := by
  rw [WriterInput.Overflows]
  decide

variable (formatUtc) in
/-- The first write of the shipped configuration, before any other step. -/
theorem exists_opened : ∃ (steps : List StatusTaskEvent) (fs : FileSystem Path),
    Run (Step exampleConfig .atLeastOnce formatUtc) startOfMinute (steps.map .status)
      ⟨.startOfMinute exampleConfig, [], [],
        ⟨⟨.fromConfig exampleConfig, .selecting ⟨30 * 10 ^ 9⟩ none⟩, ⟨fs, none⟩⟩⟩ ∧
    ClockLasts exampleConfig (steps.map .status) := by
  have armed : rearmed (.fromSecs 30) ⟨0⟩ = .selecting ⟨30 * 10 ^ 9⟩ none := by decide
  obtain ⟨text, starts⟩ := exists_started formatUtc (.fromSecs 2) (.fromSecs 30)
    (.fromConfig exampleConfig) ⟨0⟩ ⟨0⟩
  rw [armed] at starts
  obtain ⟨steps, fs, writes, silent⟩ := exists_write_run exampleConfig .atLeastOnce formatUtc
    (.startOfMinute exampleConfig) ⟨.fromConfig exampleConfig, .selecting ⟨30 * 10 ^ 9⟩ none⟩
    ⟨fun _ => none, fun _ => []⟩ (StatusWrite.bytes ⟨⟨0⟩, text⟩)
  have begins : Step exampleConfig .atLeastOnce formatUtc startOfMinute
      (.status (.turn (.started ⟨0⟩ ⟨0⟩) (some ⟨⟨0⟩, text⟩))) _ :=
    .status _ _ _ _ _ _ trivial (.turn _ _ _ _ _ starts)
  refine ⟨.turn (.started ⟨0⟩ ⟨0⟩) (some ⟨⟨0⟩, text⟩) :: steps ++
    [.returned (StatusWrite.bytes ⟨⟨0⟩, text⟩) (.ok ())], fs, ?_, ?_⟩
  · rw [List.map_append, List.map_cons]
    exact .cons begins writes
  · intro input write happened
    obtain ⟨event, member, same⟩ := List.mem_map.mp happened
    cases same
    rcases List.mem_cons.mp member with first | later
    · cases first
      exact lasts_of_started ⟨0⟩
    · simp [silent] at later

variable (formatUtc) in
/-- The whole life of a gateway that is stopped at once, with its first and its last write. -/
theorem exists_whole_run : ∃ events whole,
    Run (Step exampleConfig .atLeastOnce formatUtc) startOfMinute events whole ∧
    whole.system.control = .returned (.ok ()) ∧
    StatusTask.lastResult (events.filterMap ReportingEvent.status?) = some (.ok ()) ∧
    ClockLasts exampleConfig events ∧ (∀ report, .offered report false ∉ events) ∧
    .gateway .statusFlushElapsed ∉ events ∧ .gateway .graceElapsed ∉ events := by
  let state : StatusState := .fromConfig exampleConfig
  let heartbeat : Instant := ⟨30 * 10 ^ 9⟩
  let pending : Instant := ⟨2 * 10 ^ 9 + 1⟩
  obtain ⟨opening, fs, opened, lasts⟩ := exists_opened formatUtc
  obtain ⟨events, ⟨system, outbox, channel, task⟩, quits, same, sent, queued, control, senders,
    unheard, lossless, inTime, patient⟩ :=
    clean_run formatUtc ⟨⟨state, .selecting heartbeat none⟩, ⟨fs, none⟩⟩
      (by rintro ⟨ended | ended, _⟩ <;> cases ended)
  obtain rfl : task = _ := same
  obtain rfl : outbox = _ := sent
  obtain rfl : channel = _ := queued
  let connected := (state.apply .mqttConnected ⟨1⟩).1
  let ended := (connected.apply .mqttDisconnected ⟨2⟩).1
  have opens : StatusWriter.Step formatUtc (.fromSecs 2) (.fromSecs 30)
      ⟨state, .selecting heartbeat none⟩ (.event .mqttConnected ⟨1⟩ ⟨1⟩, none)
      ⟨connected, .selecting heartbeat (some pending)⟩ := rfl
  have ends : StatusWriter.Step formatUtc (.fromSecs 2) (.fromSecs 30)
      ⟨connected, .selecting heartbeat (some pending)⟩ (.event .mqttDisconnected ⟨2⟩ ⟨2⟩, none)
      ⟨ended, .selecting heartbeat (some pending)⟩ := rfl
  obtain ⟨last, flushes⟩ :=
    exists_flushed formatUtc (.fromSecs 2) (.fromSecs 30) ended heartbeat pending ⟨3⟩
  obtain ⟨closing, fs', rewrites, silent⟩ := exists_write_run exampleConfig .atLeastOnce formatUtc
    system ⟨ended, .returned⟩ fs (StatusWrite.bytes ⟨⟨3⟩, last⟩)
  have hears : Run (Step exampleConfig .atLeastOnce formatUtc)
      ⟨system, [], [.mqttConnected, .mqttDisconnected],
        ⟨⟨state, .selecting heartbeat none⟩, ⟨fs, none⟩⟩⟩
      [.status (.turn (.event .mqttConnected ⟨1⟩ ⟨1⟩) none),
        .status (.turn (.event .mqttDisconnected ⟨2⟩ ⟨2⟩) none),
        .status (.turn (.closed ⟨3⟩) (some ⟨⟨3⟩, last⟩))] _ :=
    .cons (.received system _ _ _ _ _ _ _ _ (.turn _ _ _ _ _ opens))
      (.cons (.received _ _ _ _ _ _ _ _ _ (.turn _ _ _ _ _ ends))
      (.single (.closed _ _ _ _ _ senders (.turn _ _ _ _ _ flushes))))
  have returns : Step exampleConfig .atLeastOnce formatUtc
      ⟨system, [], [], ⟨⟨ended, .returned⟩, ⟨fs', none⟩⟩⟩ (.gateway .statusWriterDone) _ :=
    .gateway _ _ _ _ _ _ (.statusWriterDone _ control senders) nofun fun _ => ⟨.inl rfl, rfl⟩
  have lasts' : ClockLasts exampleConfig events := fun input write happened => by
    have turn : StatusTaskEvent.turn input write ∈ events.filterMap ReportingEvent.status? :=
      List.mem_filterMap.mpr ⟨_, happened, rfl⟩
    rw [unheard] at turn
    cases turn
  have soon {event : StatusEvent} {utc : OffsetDateTime} {nanos : ℕ} (early : nanos ≤ 2) :
      ¬(WriterInput.event event utc ⟨nanos⟩).Overflows (.fromSecs 2) (.fromSecs 30) := by
    rw [WriterInput.Overflows, Instant.add?_eq_some]
    · exact nofun
    · exact Nat.le_trans (Nat.add_le_add_right early _) (by decide)
  refine ⟨_, _, opened.append (quits.append (hears.append (rewrites.snoc returns))),
    rfl, ?_, ?_, ?_, ?_, ?_⟩
  · simp [List.filterMap_append, unheard, ReportingEvent.status?, StatusTask.lastResult]
    rfl
  · refine clockLasts_append.mpr ⟨lasts, clockLasts_append.mpr ⟨lasts', clockLasts_append.mpr
      ⟨?_, ?_⟩⟩⟩
    · rintro input write happened
      simp only [List.mem_cons, List.not_mem_nil, or_false, ReportingEvent.status.injEq,
        StatusTaskEvent.turn.injEq] at happened
      rcases happened with ⟨rfl, _⟩ | ⟨rfl, _⟩ | ⟨rfl, _⟩
      · exact soon (by decide)
      · exact soon (by decide)
      · exact id
    · intro input write happened
      simp [silent] at happened
  · simpa using lossless
  · simpa using inTime
  · simpa using patient

/-- After a regular return in time the status file shows what all reports lead to that the
channel took, if the clock has lasted and the last write succeeded. Where none was lost and
the grace period was enough it shows the broker as disconnected. -/
theorem final_status {nowUnix : Duration} {startedAt : Instant} {fs : FileSystem Path}
    {whole₀ whole : Reporting} {events : List ReportingEvent}
    (started : start config nowUnix startedAt fs = some whole₀)
    (run : Run (Step config qos formatUtc) whole₀ events whole)
    (done : whole.system.control = .returned (.ok ()))
    (inTime : .gateway .statusFlushElapsed ∉ events) (lasts : ClockLasts config events)
    (success : StatusTask.lastResult (events.filterMap ReportingEvent.status?) = some (.ok ())) :
    (heard events).map TimedEvent.event = events.filterMap ReportingEvent.taken? ∧
    (∃ write : StatusWrite,
      renderStatus formatUtc ((StatusState.fromConfig config).after (heard events)) write.utc =
        some write.text ∧
      whole.task.file.fs.read (statusFilePath config) = some write.bytes) ∧
    ((∀ report, .offered report false ∉ events) → .gateway .graceElapsed ∉ events →
      ((StatusState.fromConfig config).after (heard events)).mqttConnected = false) := by
  have relays := relays_of_run started run
  have ending := ending_of_run started run
  have finished := ending.finished inTime done
  have returned := finished.1.resolve_right (not_panicked started run lasts)
  obtain ⟨sent, empty, senders⟩ := ending.closed returned
  have flow := relays.flow
  rw [empty, List.append_nil] at flow
  refine ⟨flow.symm, shown_of_finished started run finished returned success,
    fun lossless patient => ?_⟩
  have shown : ((StatusState.fromConfig config).after (heard events)).mqttConnected =
      decide (whole.system.publisher.eventloop = .connected) :=
    relays.broker ⟨fun report _ => lossless report, by simp [sent, empty]⟩
  -- Nothing was aborted, so the event loop has returned on its own.
  obtain ⟨system₀, spawned, rfl⟩ := Option.map_eq_some_iff.mp started
  obtain ⟨system, projected, rfl⟩ := simulates_system.run rfl run
  have unaborted : whole.system.publisherAborted = false := by
    refine Bool.eq_false_iff.mpr fun aborted => ?_
    have requested := (System.inv_of_run spawned projected).aborts.publisher aborted
    rcases System.abortRequested_cases spawned projected requested with elapsed | ⟨e, failed⟩
    · obtain ⟨event, happened, shape⟩ := List.mem_filterMap.mp elapsed
      cases event with
      | gateway event =>
        cases shape
        exact patient happened
      | offered | status => cases shape
    · cases done.symm.trans failed
  rcases senders.2 with aborted | returned
  · rw [unaborted] at aborted
    cases aborted
  · rw [shown, returned]
    rfl

theorem final_status_gwRouter1 : ∃ events whole write utc,
    Run (Step exampleConfig .atLeastOnce fun _ _ => "now") startOfMinute events whole ∧
    renderStatus (fun _ _ => "now") ((StatusState.fromConfig exampleConfig).after (heard events))
      utc = some write ∧
    whole.task.file.fs.read (statusFilePath exampleConfig) = some write.toUTF8.data.toList ∧
    ((StatusState.fromConfig exampleConfig).after (heard events)).mqttConnected = false := by
  obtain ⟨events, whole, run, done, success, lasts, lossless, inTime, patient⟩ :=
    exists_whole_run fun _ _ => "now"
  obtain ⟨_, ⟨write, rendered, shown⟩, disconnected⟩ :=
    final_status start_eq_startOfMinute run done inTime lasts success
  exact ⟨events, whole, write.text, write.utc, run, rendered, shown,
    disconnected lossless patient⟩

end Reporting

end ModbusGateway
