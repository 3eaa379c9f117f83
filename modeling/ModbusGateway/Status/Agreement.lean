import ModbusGateway.Status.Polling

/-!
# The display agrees with the poller

A simulation between `run_connection` and `StatusState::apply`: with every
report applied, a connection is shown up exactly while its poller holds it open,
and each of its devices as its latest poll on this connection ended. A poller
that ends amid a tick reports nothing, so what it leaves on display is kept
track of.
-/
namespace ModbusGateway

open Foundation

/-! ### What is left on display -/

/-- What ends a poller amid a tick: a reply that is too short, or a closed channel. -/
def PollerAction.abandons : PollerAction → Bool
  | .read _ block (.words words) => (decode block words).isNone
  | .offer _ _ _ _ outcome => decide (outcome = .closed)
  | _ => false

/-- What the pollers before left on the display of a connection. -/
structure Leftover where
  -- The connection is still shown up.
  up : Bool
  -- The verdicts were not cleared when the connection came up.
  verdicts : Bool
  deriving DecidableEq

namespace Leftover

def none : Leftover := ⟨false, false⟩

def step (left : Leftover) : PollerAction → Leftover
  -- A connection that is shown up is not cleared when it comes up.
  | .report (.connectionUp _) => ⟨false, left.up⟩
  | .report (.connectionDown _) => ⟨false, left.verdicts⟩
  | action => if action.abandons then ⟨true, left.verdicts⟩ else left

def after (left : Leftover) (log : List PollerAction) : Leftover := log.foldl step left

end Leftover

/-- What a connection's pollers have left on its display. -/
def leftover (log : List PollerAction) : Leftover := Leftover.none.after log

namespace Leftover

variable (left : Leftover)

@[simp] theorem after_nil : left.after [] = left := rfl

@[simp] theorem after_cons (action : PollerAction) (log : List PollerAction) :
    left.after (action :: log) = (left.step action).after log := rfl

@[simp] theorem after_append (log log' : List PollerAction) :
    left.after (log ++ log') = (left.after log).after log' :=
  List.foldl_append

theorem after_leftover (log log' : List PollerAction) :
    (leftover log).after log' = leftover (log ++ log') :=
  (after_append Leftover.none log log').symm

@[simp] theorem step_deviceEvent (cfg : ConnectionConfig) (device : DeviceConfig)
    (problem : Option String) : left.step (.report (deviceEvent cfg device problem)) = left := by
  cases problem <;> rfl

@[simp] theorem step_setSlave (unitId : UInt8) : left.step (.setSlave unitId) = left := rfl

@[simp] theorem step_request (device : DeviceConfig) (block : BlockConfig) :
    left.step (.request device block) = left := rfl

@[simp] theorem step_sleep (delay : Duration) : left.step (.sleep delay) = left := rfl

@[simp] theorem after_frameDelays (cfg : ConnectionConfig) :
    left.after (frameDelays cfg) = left := by
  unfold frameDelays
  cases interFrameDelay cfg.transport <;> rfl

@[simp] theorem after_pollDevices (cfg : ConnectionConfig) (devices : List DeviceConfig) :
    left.after (pollDevices cfg devices).2 = left := by
  induction devices with
  | nil => rfl
  | cons device devices ih =>
    unfold pollDevices
    cases device.blocks with
    | nil => simpa using ih
    | cons => rfl

@[simp] theorem after_finishDevice (cfg : ConnectionConfig) (cursor : Cursor)
    (problem : Option String) : left.after (finishDevice cfg cursor problem).2 = left := by
  simp [finishDevice]

@[simp] theorem after_offerValues (cfg : ConnectionConfig) (cursor : Cursor) (words : List UInt16)
    (values : List (String × F64)) :
    left.after (offerValues cfg cursor words values).2 = left := by
  cases values with
  | cons => rfl
  | nil =>
    unfold offerValues nextBlock
    cases cursor.blocks with
    | nil => exact after_finishDevice left cfg cursor Option.none
    | cons => rfl

/-- Where no poller ended amid a tick there is nothing left. -/
theorem leftover_eq_none {log : List PollerAction}
    (kept : ∀ action ∈ log, action.abandons = false) : leftover log = none := by
  induction log using List.reverseRecOn with
  | nil => rfl
  | append_singleton log action ih =>
    rw [← after_leftover, ih fun other member => kept other (List.mem_append_left _ member)]
    have last := kept action (List.mem_append_right _ List.mem_cons_self)
    cases action with
    | report event => cases event <;> rfl
    | setSlave | request | sleep => rfl
    | read | offer => simp [step, last]

end Leftover

/-! ### The relation -/

/-- The verdict on a device fits its latest turn. Without one it is unknown, unless verdicts
are left over. -/
def ShownAs (left : Bool) (blocks : List BlockConfig) (verdict : Option Verdict) :
    Option Turn → Prop
  | none => left = false → verdict = some .unknown
  | some turn => ∃ problem, Finished blocks turn.reads problem ∧ verdict = some (verdictOf problem)

/-- Every device is shown as the latest of these turns found it. -/
def Shown (cfg : ConnectionConfig) (left : Bool) (turns : List Turn) (view : ConnectionView) :
    Prop :=
  ∀ device ∈ cfg.devices,
    ShownAs left device.blocks (view.verdict device.id)
      (Keyed.find Turn.unitId device.unitId turns)

/-- In the turn of the device under a cursor, with these blocks still to be read. -/
inductive Turned (cfg : ConnectionConfig) (cursor : Cursor) (remaining : List BlockConfig)
    (left : Bool) (view : ConnectionView) : List Turn → Prop where
  | intro {done : List (BlockConfig × BlockResult)} {past : List Turn}
      (order : done.map Prod.fst ++ remaining = cursor.device.blocks) (read : AllRead done)
      (shown : Shown cfg left past view) :
      Turned cfg cursor remaining left view (⟨cursor.device.unitId, done⟩ :: past)

def Polled (cfg : ConnectionConfig) (left : Bool) (turns : List Turn) (view : ConnectionView) :
    PollerPhase → Prop
  | .ticking => Shown cfg left turns view
  | .reading cursor => Turned cfg cursor (cursor.block :: cursor.blocks) left view turns
  | .offering cursor _ _ _ => Turned cfg cursor cursor.blocks left view turns
  | .connecting | .backingOff | .returned | .panicked => True

/-- How a connection on display is related to a phase of its poller and its past turns. -/
structure Agrees (cfg : ConnectionConfig) (left : Leftover) (turns : List Turn)
    (view : ConnectionView) (phase : PollerPhase) : Prop where
  up : view.up = (phase.InTick || left.up)
  listed : ∀ device ∈ cfg.devices, (view.verdict device.id).isSome
  polled : Polled cfg left.verdicts turns view phase

/-! ### The simulation -/

/-- Coming up clears the verdicts, unless the connection is shown up already. -/
theorem agrees_connected {cfg : ConnectionConfig} {left : Leftover} {view : ConnectionView}
    (up : view.up = left.up) (listed : ∀ device ∈ cfg.devices, (view.verdict device.id).isSome) :
    Agrees cfg ⟨false, left.up⟩ [] (view.apply cfg.id (.connectionUp cfg.id)) .ticking where
  up := by
    have raised : view.comeUp.up = true := by
      unfold ConnectionView.comeUp
      split
      next already => exact already
      next => rfl
    simpa [ConnectionView.apply, PollerPhase.InTick] using raised
  listed device member := by
    rw [ConnectionView.isSome_verdict_apply]
    exact listed device member
  polled device member := by
    intro cleared
    have down : view.up = false := up.trans cleared
    -- Not polled since this connect: nothing of the previous connection is shown.
    obtain ⟨verdict, shown⟩ := Option.isSome_iff_exists.mp (listed device member)
    simp [ConnectionView.apply, ConnectionView.comeUp, down, shown]

theorem agrees_down {cfg : ConnectionConfig} {view : ConnectionView}
    (listed : ∀ device ∈ cfg.devices, (view.verdict device.id).isSome) (verdicts : Bool)
    (turns : List Turn) :
    Agrees cfg ⟨false, verdicts⟩ turns (view.apply cfg.id (.connectionDown cfg.id))
      .backingOff where
  up := by simp [ConnectionView.apply, PollerPhase.InTick, PollerPhase.Polling]
  listed device member := by
    rw [ConnectionView.isSome_verdict_apply]
    exact listed device member
  polled := trivial

/-- A block that is read moves on to the rest of its device's blocks. -/
theorem Turned.read {cfg : ConnectionConfig} {cursor : Cursor} {left : Bool}
    {view : ConnectionView} {turns : List Turn}
    (turned : Turned cfg cursor (cursor.block :: cursor.blocks) left view turns)
    (words : List UInt16) :
    Turned cfg cursor cursor.blocks left view
      (turnStep turns (.read cursor.device cursor.block (.words words))) := by
  obtain ⟨order, read, shown⟩ := turned
  refine .intro (by simpa using order) ?_ shown
  intro r member
  rcases List.mem_append.mp member with earlier | last
  · exact read r earlier
  · rw [List.mem_singleton.mp last]
    exact ⟨words, rfl⟩

/-- A block that fails finishes the turn. -/
theorem Turned.failed {cfg : ConnectionConfig} {cursor : Cursor} {left : Bool}
    {view : ConnectionView} {turns : List Turn}
    (turned : Turned cfg cursor (cursor.block :: cursor.blocks) left view turns)
    {result : BlockResult} {reason : String} (problem : result.problem? = some reason) :
    ∃ reads past, turnStep turns (.read cursor.device cursor.block result) =
        ⟨cursor.device.unitId, reads⟩ :: past ∧
      Finished cursor.device.blocks reads (some reason) ∧ Shown cfg left past view := by
  obtain ⟨order, read, shown⟩ := turned
  refine ⟨_, _, rfl, .problem ⟨cursor.blocks, ?_⟩ read problem, shown⟩
  rw [List.append_assoc]
  exact order

section

variable {cfg : ConnectionConfig} (units : (cfg.devices.map DeviceConfig.unitId).Nodup)
  (ids : (cfg.devices.map DeviceConfig.id).Nodup)

include units ids

/-- The report at the end of a turn is about its device alone. -/
theorem Shown.finish {left : Bool} {past : List Turn} {view : ConnectionView}
    (shown : Shown cfg left past view)
    (listed : ∀ device ∈ cfg.devices, (view.verdict device.id).isSome) {device : DeviceConfig}
    (configured : device ∈ cfg.devices) {reads : List (BlockConfig × BlockResult)}
    {problem : Option String} (finished : Finished device.blocks reads problem) :
    Shown cfg left (⟨device.unitId, reads⟩ :: past)
      (view.apply cfg.id (deviceEvent cfg device problem)) := by
  intro other member
  rw [apply_deviceEvent, ConnectionView.report_verdict (listed device configured),
    Keyed.find_cons]
  by_cases same : device = other
  · subst same
    rw [if_pos rfl, if_pos rfl]
    exact ⟨problem, finished, rfl⟩
  · -- Neither unit nor id is shared, so both sides look past this turn.
    have unit : device.unitId ≠ other.unitId := fun eq =>
      same (List.inj_on_of_nodup_map units configured member eq)
    have id : device.id ≠ other.id := fun eq =>
      same (List.inj_on_of_nodup_map ids configured member eq)
    rw [if_neg unit, if_neg id]
    exact shown other member

/-- At the end of a turn everything is as it is between ticks. -/
theorem Shown.agrees {left : Leftover} {past : List Turn} {view : ConnectionView}
    (shown : Shown cfg left.verdicts past view)
    (listed : ∀ device ∈ cfg.devices, (view.verdict device.id).isSome) {device : DeviceConfig}
    (configured : device ∈ cfg.devices) {reads : List (BlockConfig × BlockResult)}
    {problem : Option String} (finished : Finished device.blocks reads problem) :
    Agrees cfg left (⟨device.unitId, reads⟩ :: past)
      (view.apply cfg.id (deviceEvent cfg device problem)) .ticking where
  up := by
    rw [apply_deviceEvent, ConnectionView.report_up (listed device configured)]
    rfl
  listed other member := by
    rw [ConnectionView.isSome_verdict_apply]
    exact listed other member
  polled := shown.finish units ids listed configured finished

theorem pollDevices_agrees {devices : List DeviceConfig} (within : devices ⊆ cfg.devices)
    {left : Leftover} {past : List Turn} {view : ConnectionView}
    (before : Agrees cfg left past view .ticking) :
    Agrees cfg left (turnsFrom past (pollDevices cfg devices).2)
      ((reports (pollDevices cfg devices).2).foldl (ConnectionView.apply cfg.id) view)
      (pollDevices cfg devices).1 := by
  induction devices generalizing past view with
  | nil => exact before
  | cons device devices ih =>
    obtain ⟨configured, rest⟩ := List.cons_subset.mp within
    unfold pollDevices
    cases blocks : device.blocks with
    | nil =>
      have finished : Finished device.blocks [] none := .ok (by simp [blocks]) (by simp [AllRead])
      have turned := ih rest (before.polled.agrees units ids before.listed configured finished)
      simpa [PollerAction.report?] using turned
    | cons block others =>
      have turned : Turned cfg ⟨device, block, others, devices⟩ (block :: others) left.verdicts
          view (⟨device.unitId, []⟩ :: past) :=
        .intro (by simp [blocks]) (by simp [AllRead]) before.polled
      exact ⟨before.up, before.listed, turned⟩

theorem finishDevice_agrees {cursor : Cursor} (within : cursor.Within cfg) {left : Leftover}
    {past : List Turn} {view : ConnectionView} (shown : Shown cfg left.verdicts past view)
    (listed : ∀ device ∈ cfg.devices, (view.verdict device.id).isSome)
    {reads : List (BlockConfig × BlockResult)} {problem : Option String}
    (finished : Finished cursor.device.blocks reads problem) :
    Agrees cfg left
      (turnsFrom (⟨cursor.device.unitId, reads⟩ :: past) (finishDevice cfg cursor problem).2)
      ((reports (finishDevice cfg cursor problem).2).foldl (ConnectionView.apply cfg.id) view)
      (finishDevice cfg cursor problem).1 := by
  have rest := pollDevices_agrees units ids within.devices
    (shown.agrees units ids listed within.device finished)
  simpa [finishDevice, PollerAction.report?] using rest

/-- The loop over decoded values leaves the turn as it is, up to the end of its blocks. -/
theorem offerValues_agrees {cursor : Cursor} (within : cursor.Within cfg) {left : Leftover}
    {past : List Turn} {view : ConnectionView} (up : view.up = true)
    (listed : ∀ device ∈ cfg.devices, (view.verdict device.id).isSome)
    (turned : Turned cfg cursor cursor.blocks left.verdicts view past) (words : List UInt16)
    (values : List (String × F64)) :
    Agrees cfg left (turnsFrom past (offerValues cfg cursor words values).2)
      ((reports (offerValues cfg cursor words values).2).foldl (ConnectionView.apply cfg.id) view)
      (offerValues cfg cursor words values).1 := by
  cases values with
  | cons value values => exact ⟨up, listed, turned⟩
  | nil =>
    unfold offerValues nextBlock
    obtain ⟨order, read, shown⟩ := turned
    cases blocks : cursor.blocks with
    | nil =>
      rw [blocks, List.append_nil] at order
      exact finishDevice_agrees units ids within shown listed (.ok order read)
    | cons block others =>
      rw [blocks] at order
      exact ⟨up, listed, .intro order read shown⟩

/-- One step of a poller. -/
theorem Poller.Moves.agrees {poller poller' : Poller} {input : PollerInput}
    {actions : List PollerAction} (moves : Poller.Moves cfg poller input poller' actions)
    (within : poller.phase.Within cfg) {left : Leftover} {past : List Turn}
    {view : ConnectionView} (before : Agrees cfg left past view poller.phase) :
    Agrees cfg (left.after actions) (turnsFrom past actions)
      ((reports actions).foldl (ConnectionView.apply cfg.id) view) poller'.phase := by
  obtain ⟨up, listed, polled⟩ := before
  cases moves with
  | connected backoff => exact agrees_connected up listed
  | connectFailed backoff => exact agrees_down listed left.verdicts past
  | slept backoff backoff' | overflowed backoff => exact ⟨up, listed, trivial⟩
  | ticked backoff =>
    rw [Leftover.after_pollDevices]
    exact pollDevices_agrees units ids (List.Subset.refl _) ⟨up, listed, polled⟩
  | words backoff cursor response words values result decoded =>
    have rest := offerValues_agrees units ids within up listed (polled.read words) words values
    simpa [PollerAction.report?, Leftover.step, PollerAction.abandons, decoded] using rest
  | undecodable backoff cursor response words result outOfRange =>
    -- The panic reports nothing: what was shown up stays so.
    have shown : view.up = true := up
    simpa [PollerAction.report?, Leftover.step, PollerAction.abandons, outOfRange] using
      (⟨shown.trans (by simp), listed, trivial⟩ : Agrees cfg ⟨true, left.verdicts⟩ _ view .panicked)
  | failed backoff cursor response result reason read problem =>
    obtain ⟨reads, past, same, finished, shown⟩ := polled.failed problem
    have rest := finishDevice_agrees units ids within shown listed finished
    have unread : left.step (.read cursor.device cursor.block result) = left := by
      cases result <;> first | rfl | cases problem
    simpa [PollerAction.report?, same, unread] using rest
  | fatal backoff cursor =>
    have rest := agrees_down listed left.verdicts
      (turnStep past (.read cursor.device cursor.block .transportFatal))
    simpa [PollerAction.report?, Leftover.step, PollerAction.abandons] using rest
  | refused backoff cursor words value =>
    have shown : view.up = true := up
    simpa [PollerAction.report?, Leftover.step, PollerAction.abandons] using
      (⟨shown.trans (by simp), listed, trivial⟩ : Agrees cfg ⟨true, left.verdicts⟩ _ view .returned)
  | offered backoff cursor words value values outcome kept =>
    have rest := offerValues_agrees units ids within.1 up listed polled words values
    simpa [PollerAction.report?, Leftover.step, PollerAction.abandons, kept] using rest

/-- Every run of a poller. -/
theorem agrees_of_run {view : ConnectionView} (down : view.up = false)
    (listed : ∀ device ∈ cfg.devices, (view.verdict device.id).isSome)
    {events : List (PollerInput × List PollerAction)} {poller : Poller}
    (run : Run (Poller.Step cfg) (Poller.start cfg) events poller) :
    Agrees cfg (leftover (actionsOf events)) (turns (actionsOf events))
      ((reports (actionsOf events)).foldl (ConnectionView.apply cfg.id) view) poller.phase := by
  -- The cursor stays within the configuration, which the step lemma needs as well.
  suffices both : poller.phase.Within cfg ∧
      Agrees cfg (leftover (actionsOf events)) (turns (actionsOf events))
        ((reports (actionsOf events)).foldl (ConnectionView.apply cfg.id) view) poller.phase from
    both.2
  induction run with
  | refl => exact ⟨trivial, down, listed, trivial⟩
  | @snoc before poller' events event first moved ih =>
    obtain ⟨input, actions⟩ := event
    have last : actionsOf [(input, actions)] = actions := by simp [actionsOf]
    rw [actionsOf_append, last]
    obtain ⟨within, agrees⟩ := ih
    have moves := Poller.moves_of_next moved
    refine ⟨moves.within within, ?_⟩
    rw [reports_append, List.foldl_append, ← turnsFrom_turns, ← Leftover.after_leftover]
    exact moves.agrees units ids within agrees

end

/-- With full replies and an open channel no step ends the poller amid a tick. -/
theorem Poller.Moves.leftover_eq_none {cfg : ConnectionConfig}
    (good : ∀ device ∈ cfg.devices, ∀ block ∈ device.blocks, block.WellFormed)
    {poller poller' : Poller} {input : PollerInput} {actions : List PollerAction}
    (moves : Poller.Moves cfg poller input poller' actions) (within : poller.phase.Within cfg)
    (full : ∀ r ∈ reads actions, r.2.Full r.1)
    (channel : ∀ action ∈ actions, action.outcome? ≠ some .closed) :
    Leftover.none.after actions = .none := by
  cases moves with
  | connected | connectFailed | slept | overflowed => rfl
  | ticked => exact Leftover.after_pollDevices _ cfg cfg.devices
  | words backoff cursor response words values result decoded =>
    simp [Leftover.step, PollerAction.abandons, decoded]
  | undecodable backoff cursor response words result outOfRange =>
    have whole := full (cursor.block, .words words) (by simp [PollerAction.read?])
    exact absurd outOfRange (Cursor.Within.decode_ne_none good within whole)
  | failed backoff cursor response result reason read problem =>
    have unread : Leftover.none.step (.read cursor.device cursor.block result) = .none := by
      cases result <;> first | rfl | cases problem
    simp [unread]
  | fatal => simp [Leftover.step, PollerAction.abandons, Leftover.none]
  | refused => exact absurd rfl (channel _ List.mem_cons_self)
  | offered backoff cursor words value values outcome kept =>
    simp [Leftover.step, PollerAction.abandons, kept]

theorem leftover_of_run {cfg : ConnectionConfig}
    (good : ∀ device ∈ cfg.devices, ∀ block ∈ device.blocks, block.WellFormed)
    {events : List (PollerInput × List PollerAction)} {poller : Poller}
    (run : Run (Poller.Step cfg) (Poller.start cfg) events poller)
    (full : ∀ r ∈ reads (actionsOf events), r.2.Full r.1)
    (channel : ∀ action ∈ actionsOf events, action.outcome? ≠ some .closed) :
    leftover (actionsOf events) = .none := by
  suffices both : poller.phase.Within cfg ∧ leftover (actionsOf events) = .none from both.2
  induction run with
  | refl => exact ⟨trivial, rfl⟩
  | @snoc before poller' events event first moved ih =>
    obtain ⟨input, actions⟩ := event
    have last : actionsOf [(input, actions)] = actions := by simp [actionsOf]
    rw [actionsOf_append, last] at full channel ⊢
    obtain ⟨within, clean⟩ := ih (fun r member => full r (by simp [member]))
      (fun action member => channel action (List.mem_append_left _ member))
    have moves := Poller.moves_of_next moved
    refine ⟨moves.within within, ?_⟩
    rw [← Leftover.after_leftover, clean]
    exact moves.leftover_eq_none good within (fun r member => full r (by simp [member]))
      (fun action member => channel action (List.mem_append_right _ member))

/-! ### What is shown -/

theorem distinct_fromConfig {config : Config}
    (connections : (config.connections.map ConnectionConfig.id).Nodup)
    (devices : ∀ conn ∈ config.connections, (conn.devices.map DeviceConfig.id).Nodup) :
    (StatusState.fromConfig config).Distinct := by
  constructor
  · simpa [StatusState.ids_fromConfig, Function.comp_def] using connections
  · simpa [StatusState.ids_fromConfig] using devices

/-- Everything starts down. -/
theorem view_fromConfig {config : Config} (distinct : (StatusState.fromConfig config).Distinct)
    {conn : ConnectionConfig} (connected : conn ∈ config.connections) :
    ∃ view, (StatusState.fromConfig config).view conn.id = some view ∧ view.up = false ∧
      ∀ device ∈ conn.devices, (view.verdict device.id).isSome := by
  have listed : (conn.id, conn.devices.map DeviceConfig.id) ∈
      (StatusState.fromConfig config).ids := by
    rw [StatusState.ids_fromConfig]
    exact List.mem_map_of_mem connected
  obtain ⟨view, initial, known⟩ := distinct.exists_view listed
  obtain ⟨status, member, same⟩ := List.mem_map.mp listed
  obtain ⟨id, -⟩ := Prod.mk.inj same
  have up := StatusState.up?_of_view initial
  rw [← id, distinct.up?_of_mem member, StatusState.up_fromConfig member] at up
  exact ⟨view, initial, (Option.some.inj up).symm,
    fun device inside => known device.id (List.mem_map_of_mem inside)⟩

/-- The latest turn of a device that is over: while polling, the current turn is not. -/
def latestPoll (phase : PollerPhase) (log : List PollerAction) (device : DeviceConfig) :
    Option Turn :=
  Keyed.find Turn.unitId device.unitId (if phase.Polling then (turns log).tail else turns log)

/-- A device is shown by its latest poll on the current connection. -/
structure ShowsPoll (device : DeviceConfig) (latest : Option Turn) (health : Health) : Prop where
  ok_iff : health = .ok ↔ ∃ turn, latest = some turn ∧
    turn.reads.map Prod.fst = device.blocks ∧ AllRead turn.reads
  problem_iff : ∀ reason, (∃ since, health = .problem reason since) ↔
    ∃ turn, latest = some turn ∧ ∃ r ∈ turn.reads, r.2.problem? = some reason
  unknown_iff : health = .unknown ↔ latest = none

theorem ShownAs.showsPoll {left : Bool} {device : DeviceConfig} {latest : Option Turn}
    {health : Health} (shown : ShownAs left device.blocks (some health.verdict) latest)
    (current : left = false ∨ latest ≠ none) : ShowsPoll device latest health := by
  cases latest with
  | none =>
    have cleared := current.resolve_right (by simp)
    have unknown : health = .unknown := by
      cases health <;> simp_all [ShownAs, Health.verdict]
    subst unknown
    exact ⟨by simp, by simp, by simp⟩
  | some turn =>
    obtain ⟨problem, finished, verdict⟩ := shown
    have same := Option.some.inj verdict
    constructor
    · simp only [Option.some.injEq, exists_eq_left', ← finished.none_iff]
      cases health <;> cases problem <;> simp_all [Health.verdict, verdictOf]
    · intro reason
      simp only [Option.some.injEq, exists_eq_left', ← finished.some_iff]
      cases health <;> cases problem <;> simp_all [Health.verdict, verdictOf]
    · cases health <;> cases problem <;> simp_all [Health.verdict, verdictOf]

theorem Agrees.latest {cfg : ConnectionConfig} {left : Leftover} {log : List PollerAction}
    {view : ConnectionView} {phase : PollerPhase} (agrees : Agrees cfg left (turns log) view phase)
    (inTick : phase.InTick = true) {device : DeviceConfig} (member : device ∈ cfg.devices) :
    ShownAs left.verdicts device.blocks (view.verdict device.id)
      (latestPoll phase log device) := by
  have polled := agrees.polled
  unfold latestPoll
  generalize turns log = past at polled
  cases phase with
  | connecting | backingOff | returned | panicked => cases inTick
  | ticking => exact polled device member
  | reading cursor | offering cursor =>
    obtain ⟨order, read, shown⟩ := polled
    exact shown device member

/-- The display of a connection agrees with its poller after every run. -/
theorem status_agrees_with_poller {host : Host} {config : Config}
    (accepted : validate host config = .ok ())
    (connections : (config.connections.map ConnectionConfig.id).Nodup)
    (devices : ∀ conn ∈ config.connections, (conn.devices.map DeviceConfig.id).Nodup)
    {conn : ConnectionConfig} (connected : conn ∈ config.connections)
    {events : List (PollerInput × List PollerAction)} {poller : Poller}
    (run : Run (Poller.Step conn) (Poller.start conn) events poller)
    (full : ∀ r ∈ reads (actionsOf events), r.2.Full r.1)
    (channel : ∀ action ∈ actionsOf events, action.outcome? ≠ some .closed)
    {history : List TimedEvent}
    (own : (history.map TimedEvent.event).filter (StatusEvent.isOf conn.id) =
      reports (actionsOf events)) :
    ((StatusState.fromConfig config).after history).up? conn.id = some poller.phase.InTick ∧
    (poller.phase.InTick = true → ∀ device ∈ conn.devices, ∃ health,
      ((StatusState.fromConfig config).after history).health? conn.id device.id = some health ∧
      ShowsPoll device (latestPoll poller.phase (actionsOf events) device) health) := by
  have good := wellFormed_of_validate accepted connected
  obtain ⟨view, initial, down, known⟩ :=
    view_fromConfig (distinct_fromConfig connections devices) connected
  have shown := (StatusState.fromConfig config).view_after history conn.id
  rw [initial, Option.map_some, own] at shown
  have agrees := agrees_of_run good.unit_ids_distinct (devices conn connected) down known run
  rw [leftover_of_run good.blocks run full channel] at agrees
  refine ⟨by rw [StatusState.up?_of_view shown, agrees.up]; exact congrArg some (Bool.or_false _),
    fun inTick device member => ?_⟩
  have verdict := StatusState.verdict_of_view shown device.id
  have latest := agrees.latest inTick member
  obtain ⟨health, known⟩ := Option.isSome_iff_exists.mp
    (Option.isSome_map.symm.trans ((congrArg Option.isSome verdict).trans
      (agrees.listed device member)))
  rw [known] at verdict
  rw [← verdict] at latest
  exact ⟨health, known, latest.showsPoll (.inl rfl)⟩

theorem status_agrees_with_poller_in_tick :
    ∃ (events : List (PollerInput × List PollerAction)) (poller : Poller)
        (history : List TimedEvent),
      Run (Poller.Step rs485Bus1) (Poller.start rs485Bus1) events poller ∧
      poller.phase.InTick = true ∧
      (exampleState.after history).up? rs485Bus1.id = some true ∧
      ∃ health, (exampleState.after history).health? rs485Bus1.id "tempsensor1" = some health ∧
        ∃ since, health = .problem "timeout" since := by
  -- The first sensor did not answer, the second one is being read.
  have run : Run (Poller.Step rs485Bus1) (Poller.start rs485Bus1)
      [(.connect true, _), (.tick, _), (.response none, _)] _ :=
    .cons rfl (.cons rfl (.single rfl))
  let history : List TimedEvent := [(StatusEvent.connectionUp "rs485-bus1").at 0,
    StatusEvent.mqttConnected.at 1, (StatusEvent.connectionDown "meter-tcp1").at 2,
    (StatusEvent.deviceProblem "rs485-bus1" "tempsensor1" "timeout").at 3]
  have agrees := status_agrees_with_poller exampleConfig_accepted (by decide +kernel)
    (by decide +kernel) rs485Bus1_mem run (by decide +kernel) (by decide +kernel)
    (show (history.map TimedEvent.event).filter (StatusEvent.isOf rs485Bus1.id) = _ by
      decide +kernel)
  obtain ⟨health, shown, poll⟩ := agrees.2 rfl (tempSensor "tempsensor1" 5) List.mem_cons_self
  refine ⟨_, _, history, run, rfl, agrees.1, health, shown, (poll.problem_iff "timeout").mpr ?_⟩
  exact ⟨_, rfl, _, List.mem_cons_self, rfl⟩

end ModbusGateway
