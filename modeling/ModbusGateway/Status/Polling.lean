import ModbusGateway.Modbus.PollTick
import ModbusGateway.Status.View

/-!
# What pollers report and what is shown

A poller gives each device of its connection a turn in every tick, and reports
the outcome at its end. The display of the connection is a fold over these
reports; it agrees with the poller's own state and with the latest turns.
-/
namespace ModbusGateway

open Foundation

/-! ### Turns -/

/-- What was read while the poller was turned to a unit. -/
structure Turn where
  unitId : UInt8
  reads : List (BlockConfig × BlockResult)
  deriving DecidableEq

def turnStep : List Turn → PollerAction → List Turn
  | _, .report (.connectionUp _) => []
  | turns, .setSlave unitId => ⟨unitId, []⟩ :: turns
  | turn :: turns, .read _ block result =>
    { turn with reads := turn.reads ++ [(block, result)] } :: turns
  | turns, _ => turns

def turnsFrom (turns : List Turn) (log : List PollerAction) : List Turn := log.foldl turnStep turns

/-- The turns on the current connection, the latest one first. -/
def turns (log : List PollerAction) : List Turn := turnsFrom [] log

section

variable (past : List Turn)

@[simp] theorem turnStep_setSlave (unitId : UInt8) :
    turnStep past (.setSlave unitId) = ⟨unitId, []⟩ :: past := by
  cases past <;> rfl

@[simp] theorem turnStep_connectionDown (c : String) :
    turnStep past (.report (.connectionDown c)) = past := by
  cases past <;> rfl

@[simp] theorem turnStep_deviceEvent (cfg : ConnectionConfig) (device : DeviceConfig)
    (problem : Option String) :
    turnStep past (.report (deviceEvent cfg device problem)) = past := by
  cases past <;> cases problem <;> rfl

@[simp] theorem turnStep_read (turn : Turn) (device : DeviceConfig) (block : BlockConfig)
    (result : BlockResult) :
    turnStep (turn :: past) (.read device block result) =
      { turn with reads := turn.reads ++ [(block, result)] } :: past := rfl

@[simp] theorem turnStep_request (device : DeviceConfig) (block : BlockConfig) :
    turnStep past (.request device block) = past := by
  cases past <;> rfl

@[simp] theorem turnStep_sleep (delay : Duration) : turnStep past (.sleep delay) = past := by
  cases past <;> rfl

@[simp] theorem turnStep_offer (device : DeviceConfig) (block : BlockConfig)
    (words : List UInt16) (reading : Reading) (outcome : TrySend) :
    turnStep past (.offer device block words reading outcome) = past := by
  cases past <;> rfl

@[simp] theorem turnsFrom_nil : turnsFrom past [] = past := rfl

@[simp] theorem turnsFrom_cons (action : PollerAction) (log : List PollerAction) :
    turnsFrom past (action :: log) = turnsFrom (turnStep past action) log := rfl

@[simp] theorem turnsFrom_append (log log' : List PollerAction) :
    turnsFrom past (log ++ log') = turnsFrom (turnsFrom past log) log' :=
  List.foldl_append

@[simp] theorem turnsFrom_frameDelays (cfg : ConnectionConfig) :
    turnsFrom past (frameDelays cfg) = past := by
  unfold frameDelays
  cases interFrameDelay cfg.transport <;> simp

@[simp] theorem turnsFrom_offered (device : DeviceConfig) (block : BlockConfig)
    (words : List UInt16) (offered : List (Reading × TrySend)) :
    turnsFrom past (offered.map fun o => .offer device block words o.1 o.2) = past := by
  induction offered with
  | nil => rfl
  | cons o offered ih => rw [List.map_cons, turnsFrom_cons, turnStep_offer, ih]

theorem turnsFrom_turns (log log' : List PollerAction) :
    turnsFrom (turns log) log' = turns (log ++ log') :=
  (turnsFrom_append [] log log').symm

end

def AllRead (reads : List (BlockConfig × BlockResult)) : Prop :=
  ∀ r ∈ reads, ∃ words, r.2 = .words words

theorem AllRead.problem?_eq_none {reads : List (BlockConfig × BlockResult)} (read : AllRead reads) :
    ∀ r ∈ reads, r.2.problem? = none := by
  intro r member
  obtain ⟨words, same⟩ := read r member
  rw [same]
  rfl

/-- How the turn of a device ends: all of its blocks are read, or the last read has a problem. -/
inductive Finished (blocks : List BlockConfig) :
    List (BlockConfig × BlockResult) → Option String → Prop where
  | ok {reads : List (BlockConfig × BlockResult)} (whole : reads.map Prod.fst = blocks)
      (read : AllRead reads) : Finished blocks reads none
  | problem {done : List (BlockConfig × BlockResult)} {block : BlockConfig}
      {result : BlockResult} {reason : String}
      (order : done.map Prod.fst ++ [block] <+: blocks) (read : AllRead done)
      (problem : result.problem? = some reason) :
      Finished blocks (done ++ [(block, result)]) (some reason)

/-- A block that is read comes before the rest of its device's turn. -/
theorem Finished.cons {blocks : List BlockConfig} {reads : List (BlockConfig × BlockResult)}
    {problem : Option String} (finished : Finished blocks reads problem) (block : BlockConfig)
    (words : List UInt16) :
    Finished (block :: blocks) ((block, .words words) :: reads) problem := by
  have first : ∀ done : List (BlockConfig × BlockResult), AllRead done →
      AllRead ((block, .words words) :: done) := by
    intro done read r member
    rcases List.mem_cons.mp member with rfl | later
    · exact ⟨words, rfl⟩
    · exact read r later
  cases finished with
  | ok whole read => exact .ok (by rw [List.map_cons, whole]) (first _ read)
  | @problem done block' result reason order read problem =>
    have order' : ((block, BlockResult.words words) :: done).map Prod.fst ++ [block'] <+:
        block :: blocks := List.prefix_cons_inj block |>.mpr order
    simpa using Finished.problem order' (first done read) problem

theorem Finished.none_iff {blocks : List BlockConfig}
    {reads : List (BlockConfig × BlockResult)} {problem : Option String}
    (finished : Finished blocks reads problem) :
    problem = none ↔ reads.map Prod.fst = blocks ∧ AllRead reads := by
  cases finished with
  | ok whole read => exact iff_of_true rfl ⟨whole, read⟩
  | @problem done block result reason order read problem =>
    refine iff_of_false (by simp) fun both => ?_
    obtain ⟨words, same⟩ := both.2 (block, result) (by simp)
    cases same
    cases problem

theorem Finished.some_iff {blocks : List BlockConfig}
    {reads : List (BlockConfig × BlockResult)} {problem : Option String}
    (finished : Finished blocks reads problem) (reason : String) :
    problem = some reason ↔ ∃ r ∈ reads, r.2.problem? = some reason := by
  cases finished with
  | ok whole read =>
    refine iff_of_false (by simp) ?_
    rintro ⟨r, member, failed⟩
    rw [read.problem?_eq_none r member] at failed
    cases failed
  | @problem done block result reason' order read problem =>
    constructor
    · intro same
      exact ⟨(block, result), by simp, problem.trans same⟩
    · rintro ⟨r, member, failed⟩
      rcases List.mem_append.mp member with earlier | last
      · rw [read.problem?_eq_none r earlier] at failed
        cases failed
      · rw [List.mem_singleton.mp last, problem] at failed
        exact failed

/-- The reads of a turn settle how it ends. -/
theorem Finished.unique {blocks : List BlockConfig} {reads : List (BlockConfig × BlockResult)}
    {problem problem' : Option String} (finished : Finished blocks reads problem)
    (finished' : Finished blocks reads problem') : problem = problem' :=
  Option.ext fun reason => (finished.some_iff reason).trans (finished'.some_iff reason).symm

/-- The verdict that a report gives. -/
def verdictOf : Option String → Verdict
  | none => .ok
  | some reason => .problem reason

theorem apply_deviceEvent (cfg : ConnectionConfig) (view : ConnectionView) (device : DeviceConfig)
    (problem : Option String) :
    view.apply cfg.id (deviceEvent cfg device problem) =
      view.report device.id (verdictOf problem) := by
  cases problem <;> simp [deviceEvent, ConnectionView.apply, verdictOf]

/-! ### A whole tick -/

section

variable {cfg : ConnectionConfig}

theorem DeviceLog.finished {device : DeviceConfig} {blocks : List BlockConfig}
    {log : List PollerAction} (polled : DeviceLog cfg device blocks log) :
    ∃ problem, Finished blocks (reads log) problem ∧
      reports log = [deviceEvent cfg device problem] := by
  induction polled with
  | done => exact ⟨none, .ok rfl (by simp [AllRead, PollerAction.read?]), rfl⟩
  | @words block blocks words values offered log decoded all rest ih =>
    obtain ⟨problem, finished, reported⟩ := ih
    refine ⟨problem, ?_, by simpa [PollerAction.report?] using reported⟩
    simpa [PollerAction.read?] using finished.cons block words
  | @failed block blocks result reason problem =>
    refine ⟨some reason, ?_, by simp [PollerAction.report?]⟩
    have first : ([] : List (BlockConfig × BlockResult)).map Prod.fst ++ [block] <+:
        block :: blocks := ⟨blocks, rfl⟩
    have none : AllRead [] := by simp [AllRead]
    simpa [PollerAction.read?] using Finished.problem first none problem

/-- The actions of a turn add its reads to the turn. -/
theorem DeviceLog.turnsFrom_eq {device : DeviceConfig} {blocks : List BlockConfig}
    {log : List PollerAction} (polled : DeviceLog cfg device blocks log) (turn : Turn)
    (turns : List Turn) :
    turnsFrom (turn :: turns) log = { turn with reads := turn.reads ++ reads log } :: turns := by
  induction polled generalizing turn with
  | done => simp [PollerAction.read?]
  | @words block blocks words values offered log decoded all rest ih =>
    simp [ih, PollerAction.read?]
  | failed problem => simp [PollerAction.read?]

/-- A tick is one finished turn for each device, in order, and its report. -/
theorem TickLog.turns_eq {devices : List DeviceConfig} {log : List PollerAction}
    (tick : TickLog cfg devices log) (turns : List Turn) :
    ∃ results : List (Turn × Option String),
      turnsFrom turns log = (results.map Prod.fst).reverse ++ turns ∧
      List.Forall₂ (fun device result => result.1.unitId = device.unitId ∧
        Finished device.blocks result.1.reads result.2) devices results ∧
      reports log = List.zipWith (fun device result => deviceEvent cfg device result.2)
        devices results := by
  induction tick generalizing turns with
  | done => exact ⟨[], rfl, .nil, rfl⟩
  | @device device devices log rest polled others ih =>
    obtain ⟨problem, finished, reported⟩ := polled.finished
    obtain ⟨results, taken, all, reported'⟩ := ih (⟨device.unitId, reads log⟩ :: turns)
    refine ⟨(⟨device.unitId, reads log⟩, problem) :: results, ?_, .cons ⟨rfl, finished⟩ all, ?_⟩
    · rw [turnsFrom_cons, turnStep_setSlave, turnsFrom_append, polled.turnsFrom_eq,
        List.nil_append, taken]
      simp
    · simp [PollerAction.report?, reported, reported']

/-- The reports of a tick replace the result of each of its devices, and no other. -/
theorem ConnectionView.foldl_reports {devices : List DeviceConfig}
    {results : List (Turn × Option String)} {Polled : DeviceConfig → Turn × Option String → Prop}
    (polled : List.Forall₂ Polled devices results)
    (distinct : (devices.map DeviceConfig.id).Nodup) (view : ConnectionView)
    (listed : ∀ device ∈ devices, (view.verdict device.id).isSome) {shown : ConnectionView}
    (folded : (List.zipWith (fun device result => deviceEvent cfg device result.2)
      devices results).foldl (ConnectionView.apply cfg.id) view = shown) :
    shown.up = (view.up || !devices.isEmpty) ∧
    (∀ d, d ∉ devices.map DeviceConfig.id → shown.verdict d = view.verdict d) ∧
    List.Forall₂ (fun device result => Polled device result ∧
      shown.verdict device.id = some (verdictOf result.2)) devices results := by
  induction polled generalizing view with
  | nil =>
    subst folded
    exact ⟨by simp, fun _ _ => rfl, .nil⟩
  | @cons device result devices results first others ih =>
    rw [List.map_cons, List.nodup_cons] at distinct
    obtain ⟨here, later⟩ := List.forall_mem_cons.mp listed
    rw [List.zipWith_cons_cons, List.foldl_cons] at folded
    obtain ⟨up, kept, all⟩ := ih distinct.2
      (view.apply cfg.id (deviceEvent cfg device result.2))
      (fun other member => by simpa using later other member) folded
    rw [apply_deviceEvent] at up kept
    refine ⟨by simp [up, report_up here], fun d absent => ?_, .cons ⟨first, ?_⟩ all⟩
    · rw [List.map_cons, List.mem_cons, not_or] at absent
      rw [kept d absent.2, report_verdict here, if_neg (Ne.symm absent.1)]
    · -- No later report of the tick is about this device.
      rw [kept device.id distinct.1, report_verdict here, if_pos rfl]

end

/-! ### Dropped reports -/

/-- A report to the status task: lost where the channel was full, else applied at `now`. -/
structure Report where
  event : StatusEvent
  delivered : Bool
  now : OffsetDateTime

namespace Report

def timed (report : Report) : TimedEvent := ⟨report.event, report.now⟩

def isOf (c : String) (report : Report) : Bool := report.event.isOf c

end Report

/-- The reports that reach the status task. -/
def delivered (history : List Report) : List TimedEvent :=
  (history.filter Report.delivered).map Report.timed

/-- A run of a poller with a tick in it that went through all devices. -/
structure TickWithin (cfg : ConnectionConfig)
    (past tick later : List (PollerInput × List PollerAction)) (poller : Poller) : Prop where
  run : ∃ backoff backoff',
    Run (Poller.Step cfg) (Poller.start cfg) past ⟨.ticking, backoff⟩ ∧
    Run (Poller.Step cfg) ⟨.ticking, backoff⟩ tick ⟨.ticking, backoff'⟩ ∧
    Run (Poller.Step cfg) ⟨.ticking, backoff'⟩ later poller
  begins : ∃ actions rest, tick = (.tick, actions) :: rest ∧ ∀ e ∈ rest, e.1.answers = true

theorem TickWithin.tickLog {cfg : ConnectionConfig}
    {past tick later : List (PollerInput × List PollerAction)} {poller : Poller}
    (within : TickWithin cfg past tick later poller) :
    TickLog cfg cfg.devices (actionsOf tick) := by
  obtain ⟨backoff, backoff', _, run, _⟩ := within.run
  obtain ⟨actions, rest, rfl, answers⟩ := within.begins
  exact tickLog_of_answers run answers rfl

/-- What a device is shown with at the end of a turn. -/
def ShowsTurn (state : StatusState) (c : String) (device : DeviceConfig) (turn : Turn) : Prop :=
  turn.unitId = device.unitId ∧ ∃ problem, Finished device.blocks turn.reads problem ∧
    (state.health? c device.id).map Health.verdict = some (verdictOf problem)

theorem ShowsTurn.same {state state' : StatusState} {c : String} {device : DeviceConfig}
    {turn : Turn} (shown : ShowsTurn state c device turn)
    (shown' : ShowsTurn state' c device turn) :
    (state.health? c device.id).map Health.verdict =
      (state'.health? c device.id).map Health.verdict := by
  obtain ⟨_, problem, finished, verdict⟩ := shown
  obtain ⟨_, problem', finished', verdict'⟩ := shown'
  rw [verdict, verdict', finished.unique finished']

/-- Once all reports of a tick are applied, no earlier event of the connection matters. -/
theorem shown_after_tick {state : StatusState} (distinct : state.Distinct)
    {cfg : ConnectionConfig} (listed : (cfg.id, cfg.devices.map DeviceConfig.id) ∈ state.ids)
    (devices : cfg.devices ≠ []) {log : List PollerAction} (tick : TickLog cfg cfg.devices log)
    {events : List TimedEvent} {past : List StatusEvent}
    (own : (events.map TimedEvent.event).filter (StatusEvent.isOf cfg.id) = past ++ reports log) :
    (state.after events).up? cfg.id = some true ∧
      List.Forall₂ (ShowsTurn (state.after events) cfg.id) cfg.devices (turns log).reverse := by
  obtain ⟨results, taken, finished, reported⟩ := tick.turns_eq []
  obtain ⟨view, initial, known⟩ := distinct.exists_view listed
  have shown := state.view_after events cfg.id
  rw [initial, Option.map_some, own, reported, List.foldl_append] at shown
  have still : ∀ device ∈ cfg.devices,
      ((past.foldl (ConnectionView.apply cfg.id) view).verdict device.id).isSome := by
    intro device member
    rw [ConnectionView.isSome_verdict_foldl]
    exact known device.id (List.mem_map_of_mem member)
  obtain ⟨up, _, all⟩ := ConnectionView.foldl_reports finished
    (distinct.devices _ listed) _ still rfl
  refine ⟨?_, ?_⟩
  · rw [StatusState.up?_of_view shown, up]
    simp [devices]
  · rw [turns, taken, List.append_nil, List.reverse_reverse, List.forall₂_map_right_iff]
    refine all.imp ?_
    rintro device result ⟨⟨unit, done⟩, verdict⟩
    exact ⟨unit, result.2, done, by rw [StatusState.verdict_of_view shown, verdict]⟩

section

variable (history : List Report) (c : String)

theorem timed_isOf :
    ((history.map Report.timed).map TimedEvent.event).filter (StatusEvent.isOf c) =
      (history.filter (Report.isOf c)).map Report.event := by
  rw [List.map_map, List.filter_map]
  rfl

theorem delivered_isOf :
    ((delivered history).map TimedEvent.event).filter (StatusEvent.isOf c) =
      ((history.filter (Report.isOf c)).filter Report.delivered).map Report.event := by
  rw [delivered, timed_isOf, List.filter_filter, List.filter_filter]
  congr 2
  funext report
  rw [Bool.and_comm]

end

/-- Whatever was dropped before, a connection is shown as its latest complete tick found it
once all reports of that tick are delivered. -/
theorem tick_shown_despite_drops {state : StatusState} (distinct : state.Distinct)
    {cfg : ConnectionConfig} (listed : (cfg.id, cfg.devices.map DeviceConfig.id) ∈ state.ids)
    (devices : cfg.devices ≠ []) {past tick later : List (PollerInput × List PollerAction)}
    {poller : Poller} (within : TickWithin cfg past tick later poller)
    (latest : reports (actionsOf later) = []) {history : List Report}
    (own : (history.filter (Report.isOf cfg.id)).map Report.event =
      reports (actionsOf (past ++ tick ++ later)))
    (heard : ∀ report ∈ (history.filter (Report.isOf cfg.id)).drop
      (reports (actionsOf past)).length, report.delivered = true) :
    (state.after (delivered history)).up? cfg.id = some true ∧
    (state.after (history.map Report.timed)).up? cfg.id = some true ∧
    List.Forall₂ (fun device turn =>
        ShowsTurn (state.after (delivered history)) cfg.id device turn ∧
        ((state.after (history.map Report.timed)).health? cfg.id device.id).map Health.verdict =
          ((state.after (delivered history)).health? cfg.id device.id).map Health.verdict)
      cfg.devices (turns (actionsOf tick)).reverse := by
  rw [actionsOf_append, actionsOf_append, reports_append, reports_append, latest,
    List.append_nil] at own
  have reported := within.tickLog
  -- The connection's own reports are those of the past, kept or not, and then the tick's.
  have whole := timed_isOf history cfg.id
  rw [own] at whole
  have kept : ∃ before, ((delivered history).map TimedEvent.event).filter
      (StatusEvent.isOf cfg.id) = before ++ reports (actionsOf tick) := by
    rw [delivered_isOf, ← List.take_append_drop (reports (actionsOf past)).length
      (history.filter (Report.isOf cfg.id)), List.filter_append, List.filter_eq_self.mpr heard,
      List.map_append, List.map_drop, own, List.drop_left]
    exact ⟨_, rfl⟩
  obtain ⟨before, kept⟩ := kept
  obtain ⟨up, shown⟩ := shown_after_tick distinct listed devices reported kept
  obtain ⟨up', shown'⟩ := shown_after_tick distinct listed devices reported whole
  refine ⟨up, up', ?_⟩
  rw [List.forall₂_iff_zip] at shown shown' ⊢
  exact ⟨shown.1, fun paired => ⟨shown.2 paired, (shown'.2 paired).same (shown.2 paired)⟩⟩

theorem tick_shown_despite_drops_lost_connect :
    ∃ (history : List Report) (poller : Poller)
        (past tick : List (PollerInput × List PollerAction)),
      TickWithin rs485Bus1 past tick [] poller ∧
      (history.filter (Report.isOf rs485Bus1.id)).map Report.event =
        reports (actionsOf (past ++ tick)) ∧
      (∃ report ∈ history, report.delivered = false) ∧
      (exampleState.after (delivered history)).up? rs485Bus1.id = some true := by
  let history : List Report := [⟨.connectionUp "rs485-bus1", false, ⟨0⟩⟩,
    ⟨.mqttConnected, true, ⟨1⟩⟩,
    ⟨.deviceProblem "rs485-bus1" "tempsensor1" "timeout", true, ⟨2⟩⟩,
    ⟨.deviceProblem "rs485-bus1" "tempsensor2" "timeout", true, ⟨3⟩⟩]
  have within : TickWithin rs485Bus1 [(.connect true, _)]
      [(.tick, _), (.response none, _), (.response none, _)] [] _ :=
    ⟨⟨_, _, .single rfl, .cons rfl (.cons rfl (.single rfl)), .refl _⟩, _, _, rfl, by decide⟩
  refine ⟨history, _, _, _, within, by decide +kernel, ⟨_, List.mem_cons_self, rfl⟩, ?_⟩
  exact (tick_shown_despite_drops exampleState_distinct (by decide +kernel) (by decide) within rfl
    (by decide +kernel) (by decide +kernel)).1

end ModbusGateway
