import ModbusGateway.Status.Agreement
import ModbusGateway.System.Reporting

/-!
# The display and the tasks

Each task's reports arrive in order, whatever the others do, so once those of a
poller are applied its connection is shown as the poller left it, and once those
of the event loop are, the broker is shown as the session is. A poller that ends
amid a tick leaves its connection shown up until the next one reports.
-/
namespace ModbusGateway

open Foundation

/-- A task replaced in a list of tasks on distinct connections. -/
theorem mem_replaced {before after : List (ConnectionConfig × Poller)}
    {conn connection : ConnectionConfig} {poller poller' last : Poller}
    (unique : ((before ++ (connection, poller) :: after).map Prod.fst).Nodup)
    (member : (conn, last) ∈ before ++ (connection, poller') :: after) :
    conn = connection ∧ last = poller' ∨
      conn ≠ connection ∧ (conn, last) ∈ before ++ (connection, poller) :: after := by
  rw [List.map_append, List.map_cons, List.nodup_middle, List.nodup_cons, ← List.map_append]
    at unique
  rcases List.mem_append.mp member with earlier | later
  · have elsewhere := List.mem_append_left after earlier
    exact .inr ⟨fun same => unique.1 (List.mem_map.mpr ⟨_, elsewhere, same⟩),
      List.mem_append_left _ earlier⟩
  · rcases List.mem_cons.mp later with replaced | later
    · cases replaced
      exact .inl ⟨rfl, rfl⟩
    · have elsewhere := List.mem_append_right before later
      exact .inr ⟨fun same => unique.1 (List.mem_map.mpr ⟨_, elsewhere, same⟩),
        List.mem_append_right _ (List.mem_cons_of_mem _ later)⟩

namespace SystemEvent

/-- What a poller of the connection did in a step. -/
def actionsOf (conn : ConnectionConfig) : SystemEvent → List PollerAction
  | .poll connection _ actions => if connection = conn then actions else []
  | _ => []

end SystemEvent

namespace System

variable {config : Config} {qos : QoS}

/-- What the pollers of a connection have done. -/
def actionsFor (conn : ConnectionConfig) (events : List SystemEvent) : List PollerAction :=
  events.flatMap (SystemEvent.actionsOf conn)

theorem actionsFor_snoc (conn : ConnectionConfig) (events : List SystemEvent)
    (event : SystemEvent) :
    actionsFor conn (events ++ [event]) = actionsFor conn events ++ event.actionsOf conn := by
  simp [actionsFor]

/-- The display of a connection, as the reports of its pollers leave it, agrees with its task. -/
def Displayed (conn : ConnectionConfig) (view : ConnectionView) (events : List SystemEvent)
    (system : System) : Prop :=
  ∀ poller, (conn, poller) ∈ system.connections → poller.phase.Within conn ∧
    Agrees conn (leftover (actionsFor conn events)) (turns (actionsFor conn events))
      ((ModbusGateway.reports (actionsFor conn events)).foldl (ConnectionView.apply conn.id) view)
      poller.phase

theorem Displayed.still {conn : ConnectionConfig} {view : ConnectionView}
    {events : List SystemEvent} {system system' : System} {event : SystemEvent}
    (displayed : Displayed conn view events system) (silent : event.actionsOf conn = [])
    (kept : ∀ poller, (conn, poller) ∈ system'.connections → (conn, poller) ∈ system.connections) :
    Displayed conn view (events ++ [event]) system' := by
  intro poller member
  rw [actionsFor_snoc, silent, List.append_nil]
  exact displayed poller (kept poller member)

theorem Displayed.step {conn : ConnectionConfig} {view : ConnectionView}
    (units : (conn.devices.map DeviceConfig.unitId).Nodup)
    (ids : (conn.devices.map DeviceConfig.id).Nodup)
    {events : List SystemEvent} {system system' : System} {event : SystemEvent}
    (displayed : Displayed conn view events system)
    (unique : (system.connections.map Prod.fst).Nodup)
    (moved : Step config qos system event system') :
    Displayed conn view (events ++ [event]) system' := by
  cases moved with
  | poll before after connection poller poller' input actions early tasks answered moved =>
    rw [tasks] at unique
    intro last member
    rcases mem_replaced unique member with ⟨rfl, rfl⟩ | ⟨other, kept⟩
    · have moves := Poller.moves_of_next moved
      obtain ⟨within, agrees⟩ := displayed poller (by simp [tasks])
      have own : SystemEvent.actionsOf conn (.poll conn input actions) = actions := if_pos rfl
      rw [actionsFor_snoc, own, ← turnsFrom_turns, ← Leftover.after_leftover, reports_append,
        List.foldl_append]
      exact ⟨moves.within within, moves.agrees units ids within agrees⟩
    · rw [actionsFor_snoc, SystemEvent.actionsOf, if_neg (Ne.symm other), List.append_nil]
      exact displayed last (tasks ▸ kept)
  | respawn before after connection backoff early tasks =>
    rw [tasks] at unique
    intro last member
    have silent : SystemEvent.actionsOf conn (.respawn connection) = [] := rfl
    rw [actionsFor_snoc, silent, List.append_nil]
    rcases mem_replaced unique member with ⟨rfl, rfl⟩ | ⟨other, kept⟩
    · -- Neither the panic nor the respawn reports anything.
      obtain ⟨within, agrees⟩ := displayed ⟨.panicked, backoff⟩ (by simp [tasks])
      exact ⟨trivial, agrees.up, agrees.listed, trivial⟩
    · exact displayed last (tasks ▸ kept)
  | pollersStopped failure => cases failure <;> exact displayed.still rfl fun _ member => member
  | _ => exact displayed.still rfl fun _ member => member

/-- The reports of a step on a connection are those of its poller. -/
theorem Step.reportsOf {system system' : System} {event : SystemEvent}
    (moved : Step config qos system event system')
    (ids : ∀ conn ∈ system.connections.map Prod.fst, ∀ conn' ∈ system.connections.map Prod.fst,
      conn.id = conn'.id → conn = conn')
    {conn : ConnectionConfig} (connected : conn ∈ system.connections.map Prod.fst) :
    Reporting.reportsOf (some conn.id) event.reports =
      ModbusGateway.reports (event.actionsOf conn) := by
  cases moved with
  | poll before after connection poller poller' input actions early tasks answered moved =>
    have own := (Poller.moves_of_next moved).ownReports
    by_cases same : connection = conn
    · subst same
      simp only [SystemEvent.actionsOf, if_true]
      exact List.filter_eq_self.mpr fun report member => by simpa using own report member
    · simp only [SystemEvent.actionsOf, if_neg same]
      refine List.filter_eq_nil_iff.mpr fun report member => ?_
      have apart : connection.id ≠ conn.id := fun eq =>
        same (ids connection (by simp [tasks]) conn connected eq)
      simp [own report member, apart]
  | publisher event reports publisher' running own moved =>
    cases Publisher.step_iff_moves.mp moved <;> rfl
  | pollersStopped failure => cases failure <;> rfl
  | _ => rfl

theorem displayed_of_run {host : Host} (accepted : validate host config = .ok ())
    (connections : (config.connections.map ConnectionConfig.id).Nodup)
    (devices : ∀ conn ∈ config.connections, (conn.devices.map DeviceConfig.id).Nodup)
    {nowUnix : Duration} {startedAt : Instant} {system₀ system : System}
    {events : List SystemEvent} (started : System.start config nowUnix startedAt = some system₀)
    (run : Run (Step config qos) system₀ events system)
    {conn : ConnectionConfig} (connected : conn ∈ config.connections) {view : ConnectionView}
    (down : view.up = false)
    (listed : ∀ device ∈ conn.devices, (view.verdict device.id).isSome) :
    Displayed conn view events system ∧
    Reporting.reportsOf (some conn.id) (events.flatMap SystemEvent.reports) =
      ModbusGateway.reports (actionsFor conn events) := by
  have good := wellFormed_of_validate accepted connected
  induction run with
  | refl =>
    obtain ⟨loop, _, rfl⟩ := Option.map_eq_some_iff.mp started
    refine ⟨fun poller member => ?_, rfl⟩
    obtain ⟨other, _, same⟩ := List.mem_map.mp member
    cases same
    exact ⟨trivial, down, listed, trivial⟩
  | @snoc before after events event first moved ih =>
    obtain ⟨displayed, reported⟩ := ih
    have tasks := connections_of_run started first
    refine ⟨displayed.step good.unit_ids_distinct (devices conn connected)
      (tasks ▸ connections.of_map _) moved, ?_⟩
    have last : Reporting.reportsOf (some conn.id) event.reports =
        ModbusGateway.reports (event.actionsOf conn) := by
      refine moved.reportsOf (fun conn member conn' member' same => ?_) (tasks ▸ connected)
      exact List.inj_on_of_nodup_map connections (tasks ▸ member) (tasks ▸ member') same
    rw [List.flatMap_append, List.flatMap_singleton, Reporting.reportsOf_append, reported, last,
      actionsFor_snoc, reports_append]

end System

namespace Reporting

variable {config : Config} {qos : QoS} {formatUtc : OffsetDateTime → TimeFormat → String}

/-- What the pollers of a connection have done. -/
def polled (conn : ConnectionConfig) (events : List ReportingEvent) : List PollerAction :=
  System.actionsFor conn (events.filterMap ReportingEvent.system?)

theorem flatMap_reports (events : List ReportingEvent) :
    events.flatMap ReportingEvent.reports =
      (events.filterMap ReportingEvent.system?).flatMap SystemEvent.reports := by
  induction events with
  | nil => rfl
  | cons event events ih =>
    rw [List.flatMap_cons, ih]
    cases event <;> rfl

/-- In every run of the whole gateway the status task shows the broker and each connection as
their own tasks have left them, once it has caught up with these. A connection is up while its
poller holds it open, or while one that ended amid a tick was the last to have a say; with no
such poller, exactly while its poller holds it open. Its devices are shown by their latest
polls. The broker is shown as the event loop has left it, which an abort does not change. -/
theorem status_follows_tasks {host : Host} (accepted : validate host config = .ok ())
    (connections : (config.connections.map ConnectionConfig.id).Nodup)
    (devices : ∀ conn ∈ config.connections, (conn.devices.map DeviceConfig.id).Nodup)
    {nowUnix : Duration} {startedAt : Instant} {fs : FileSystem Path} {whole₀ whole : Reporting}
    {events : List ReportingEvent} (started : start config nowUnix startedAt fs = some whole₀)
    (run : Run (Step config qos formatUtc) whole₀ events whole) :
    (CaughtUp none events whole → whole.task.writer.state.mqttConnected =
      decide (whole.system.publisher.eventloop = .connected)) ∧
    ∀ conn poller, (conn, poller) ∈ whole.system.connections →
      CaughtUp (some conn.id) events whole →
      whole.task.writer.state.up? conn.id =
        some (poller.phase.InTick || (leftover (polled conn events)).up) ∧
      (poller.phase.InTick = true → ∀ device ∈ conn.devices, ∃ health,
        whole.task.writer.state.health? conn.id device.id = some health ∧
        ((leftover (polled conn events)).verdicts = false ∨
            latestPoll poller.phase (polled conn events) device ≠ none →
          ShowsPoll device (latestPoll poller.phase (polled conn events) device) health)) ∧
      ((∀ action ∈ polled conn events, action.abandons = false) →
        leftover (polled conn events) = .none) := by
  have relays := relays_of_run started run
  have state := state_of_run started run
  refine ⟨fun caught => ?_, fun conn poller task caught => ?_⟩
  · rw [state]
    exact relays.broker caught
  · obtain ⟨system₀, spawned, rfl⟩ := Option.map_eq_some_iff.mp started
    obtain ⟨system, projected, rfl⟩ := simulates_system.run rfl run
    have connected : conn ∈ config.connections := by
      rw [← System.connections_of_run spawned projected]
      exact List.mem_map_of_mem (f := Prod.fst) task
    obtain ⟨view, initial, down, known⟩ :=
      view_fromConfig (distinct_fromConfig connections devices) connected
    obtain ⟨displayed, reported⟩ := System.displayed_of_run accepted connections devices spawned
      projected connected down known
    obtain ⟨_, agrees⟩ := displayed poller task
    -- What was applied of the connection is what its pollers reported.
    have own : ((heard events).map TimedEvent.event).filter (StatusEvent.isOf conn.id) =
        reports (polled conn events) := by
      rw [polled, ← reported, ← flatMap_reports, ← relays.caughtUp caught]
      rfl
    have shown := (StatusState.fromConfig config).view_after (heard events) conn.id
    rw [initial, Option.map_some, own, ← state] at shown
    refine ⟨by rw [StatusState.up?_of_view shown, polled, agrees.up],
      fun inTick device member => ?_, Leftover.leftover_eq_none⟩
    have verdict := StatusState.verdict_of_view shown device.id
    obtain ⟨health, known⟩ := Option.isSome_iff_exists.mp
      (Option.isSome_map.symm.trans ((congrArg Option.isSome verdict).trans
        (agrees.listed device member)))
    have latest := agrees.latest inTick member
    rw [known] at verdict
    rw [polled] at verdict
    rw [← verdict] at latest
    exact ⟨health, known, fun current => latest.showsPoll current⟩

theorem polled_status (conn : ConnectionConfig) (steps : List StatusTaskEvent)
    (events : List ReportingEvent) :
    polled conn (steps.map .status ++ events) = polled conn events := by
  have none : (steps.map ReportingEvent.status).filterMap ReportingEvent.system? = [] := by
    simp [Function.comp_def, ReportingEvent.system?]
  rw [polled, List.filterMap_append, none, List.nil_append, polled]

/-- The first sensor on the bus does not answer, while the meter is still to be connected. -/
theorem status_follows_tasks_rs485Bus1 : ∃ events whole,
    Run (Step exampleConfig .atLeastOnce fun _ _ => "now") startOfMinute events whole ∧
    whole.task.writer.state.up? rs485Bus1.id = some true ∧
    ∃ since, whole.task.writer.state.health? rs485Bus1.id "tempsensor1" =
      some (.problem "timeout" since) := by
  obtain ⟨opening, fs, opened, _⟩ := exists_opened fun _ _ => "now"
  have polls : Run (Step exampleConfig .atLeastOnce fun _ _ => "now")
      ⟨.startOfMinute exampleConfig, [], [],
        ⟨⟨.fromConfig exampleConfig, .selecting ⟨30 * 10 ^ 9⟩ none⟩, ⟨fs, none⟩⟩⟩
      [.gateway (.poll rs485Bus1 (.connect true) _), .offered (.connectionUp rs485Bus1.id) true,
        .gateway (.poll rs485Bus1 .tick _), .gateway (.poll rs485Bus1 (.response none) _),
        .offered (.deviceProblem rs485Bus1.id "tempsensor1" "timeout") true,
        .status (.turn (.event (.connectionUp rs485Bus1.id) ⟨1⟩ ⟨1⟩) none),
        .status (.turn (.event (.deviceProblem rs485Bus1.id "tempsensor1" "timeout") ⟨2⟩ ⟨2⟩)
          none)] _ :=
    .cons (.gateway _ _ _ _ _ _ (.poll _ [(meterTcp1, Poller.start meterTcp1)] [] rs485Bus1 _ _
        (.connect true) _ rfl rfl (by simp) rfl) nofun nofun)
      (.cons (.offered _ [] [] (.connectionUp rs485Bus1.id) _ _ nofun)
      (.cons (.gateway _ _ _ _ _ _ (.poll _ [_] [] _ _ _ .tick _ rfl rfl (by simp) rfl)
        nofun nofun)
      (.cons (.gateway _ _ _ _ _ _ (.poll _ [_] [] _ _ _ (.response none) _ rfl rfl (by simp) rfl)
        nofun nofun)
      (.cons (.offered _ [] [] (.deviceProblem rs485Bus1.id "tempsensor1" "timeout") _ _ nofun)
      (.cons (.received _ _ _ _ _ _ ⟨1⟩ ⟨1⟩ _ (.turn _ _ _ _ _ rfl))
      (.single (.received _ _ _ _ _ _ ⟨2⟩ ⟨2⟩ _ (.turn _ _ _ _ _ rfl))))))))
  have run := opened.append polls
  obtain ⟨up, shown, kept⟩ := (status_follows_tasks exampleConfig_accepted (by decide +kernel)
    (by decide +kernel) start_eq_startOfMinute run).2 rs485Bus1 _
    (List.mem_append_right _ List.mem_cons_self) ⟨by simp, by simp⟩
  have clean := kept (by rw [polled_status]; decide +kernel)
  rw [clean] at up shown
  obtain ⟨health, known, current⟩ := shown rfl (tempSensor "tempsensor1" 5) List.mem_cons_self
  have poll := current (.inl rfl)
  rw [polled_status] at poll
  obtain ⟨since, rfl⟩ := (poll.problem_iff "timeout").mpr
    ⟨⟨5, [(tempSensorBlock, .timeout)]⟩, by decide +kernel, _, List.mem_cons_self, rfl⟩
  exact ⟨_, _, run, up, since, known⟩

end Reporting

end ModbusGateway
