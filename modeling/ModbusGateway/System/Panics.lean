import ModbusGateway.Modbus.Retry
import ModbusGateway.System.Lifecycle

/-!
# Panics of pollers

A poller panics where a reply does not reach to the end of some point of its
block, and where the delay of its backoff cannot be doubled. With delays that
can be, the panics of a connection balance with its respawns, whatever the
other tasks do meanwhile.
-/
namespace ModbusGateway

open Foundation

/-! ### One poller -/

/-- A reply that some point of its block lies beyond. -/
def PollerAction.isShort : PollerAction → Bool
  | .read _ block (.words words) => ¬block.Covered words
  | _ => false

theorem PollerAction.isShort_iff {action : PollerAction} :
    action.isShort = true ↔
      ∃ device block words, action = .read device block (.words words) ∧
        ¬block.Covered words := by
  unfold isShort
  split
  next device block words => simp
  next other =>
    constructor
    · nofun
    · rintro ⟨device, block, words, rfl, _⟩
      exact absurd rfl (other device block words)

/-- Both bounds of the delay are below half the range of a `Duration`. -/
structure ConnectionConfig.Doublable (cfg : ConnectionConfig) : Prop where
  min : cfg.reconnectBackoffMinSecs.toNat < 2 ^ 63
  max : cfg.reconnectBackoffMaxSecs.toNat < 2 ^ 63

structure Backoff.Doublable (backoff : Backoff) : Prop where
  min : backoff.min.nanos < 2 ^ 63 * 10 ^ 9
  max : backoff.max.nanos < 2 ^ 63 * 10 ^ 9
  current : backoff.current.nanos < 2 ^ 63 * 10 ^ 9

theorem doublable_start {cfg : ConnectionConfig} (doublable : cfg.Doublable) :
    (Poller.start cfg).backoff.Doublable := by
  obtain ⟨min, max⟩ := doublable
  simp only [Poller.start, Backoff.new]
  constructor <;> simp only [Duration.nanos_fromSecs] <;> omega

namespace Poller.Moves

variable {cfg : ConnectionConfig} {poller poller' : Poller} {input : PollerInput}
  {actions : List PollerAction} (moves : Poller.Moves cfg poller input poller' actions)

include moves

theorem doublable (before : poller.backoff.Doublable) : poller'.backoff.Doublable := by
  rcases moves.backoff with ⟨_, _, reset⟩ | ⟨_, _, waited⟩ | ⟨_, _, same⟩
  · rw [reset]
    exact ⟨before.min, before.max, before.min⟩
  · obtain ⟨doubled, fits⟩ := Backoff.wait_isSome before.current
    have waited := waited.resolve_right (by simp [fits])
    obtain ⟨sameMin, sameMax, current⟩ := Backoff.wait_eq_some waited
    refine ⟨sameMin ▸ before.min, sameMax ▸ before.max, ?_⟩
    rw [current]
    exact (Nat.min_le_right _ _).trans_lt before.max
  · rw [same]
    exact before

theorem not_panicked : poller.phase ≠ .panicked := by
  intro panicked
  cases moves <;> cases panicked

/-- A short reply is one that does not decode. -/
theorem undecodable_of_isShort (short : actions.any PollerAction.isShort = true) :
    ∃ cursor response words, poller.phase = .reading cursor ∧ input = .response response ∧
      readBlock response = .words words ∧ decode cursor.block words = none := by
  obtain ⟨action, member, short⟩ := List.any_eq_true.mp short
  obtain ⟨device, block, words, rfl, uncovered⟩ := PollerAction.isShort_iff.mp short
  obtain ⟨cursor, response, phase, given, _, rfl, result⟩ := moves.result_of_read member
  refine ⟨cursor, response, words, phase, given, result.symm, ?_⟩
  exact Option.eq_none_iff_forall_ne_some.mpr fun values decoded =>
    uncovered ((exists_decode_iff _ _).mp ⟨values, decoded⟩)

theorem panicked_of_isShort (short : actions.any PollerAction.isShort = true) :
    poller'.phase = .panicked := by
  obtain ⟨cursor, response, words, phase, given, result, outOfRange⟩ :=
    moves.undecodable_of_isShort short
  cases moves with
  | undecodable => rfl
  | words _ _ _ _ _ result' decoded =>
    cases phase
    cases given
    rw [result] at result'
    cases result'
    rw [outOfRange] at decoded
    cases decoded
  | failed _ _ _ _ _ read problem =>
    cases given
    rw [← read, result] at problem
    cases problem
  | fatal _ _ _ fatal =>
    cases given
    rw [result] at fatal
    cases fatal
  | connected | connectFailed | slept | overflowed | ticked | refused | offered => cases given

theorem isShort_of_panicked (before : poller.backoff.Doublable)
    (panicked : poller'.phase = .panicked) : actions.any PollerAction.isShort = true := by
  have elsewhere {phase : PollerPhase} (polling : phase.InTick = true)
      (panicked : phase = .panicked) : False := by
    subst panicked
    cases polling
  cases moves with
  | overflowed backoff overflow =>
    -- The other panic of the source, which small delays rule out.
    obtain ⟨doubled, fits⟩ := Backoff.wait_isSome before.current
    rw [fits] at overflow
    cases overflow
  | undecodable backoff cursor response words result outOfRange =>
    have uncovered : ¬cursor.block.Covered words := fun covered => by
      obtain ⟨values, decoded⟩ := (exists_decode_iff _ _).mpr covered
      rw [outOfRange] at decoded
      cases decoded
    exact List.any_eq_true.mpr ⟨_, List.mem_cons_self,
      PollerAction.isShort_iff.mpr ⟨_, _, words, rfl, uncovered⟩⟩
  | connected | connectFailed | slept | fatal | refused => cases panicked
  | ticked => exact (elsewhere (pollDevices_inTick cfg _) panicked).elim
  | words _ cursor _ words values =>
    exact (elsewhere (offerValues_inTick cfg cursor words values) panicked).elim
  | failed _ cursor => exact (elsewhere (pollDevices_inTick cfg cursor.devices) panicked).elim
  | offered _ cursor words _ values =>
    exact (elsewhere (offerValues_inTick cfg cursor words values) panicked).elim

/-- Where delays can be doubled only a short reply makes a poller panic. -/
theorem panics_iff (before : poller.backoff.Doublable) :
    poller'.phase = .panicked ↔ actions.any PollerAction.isShort = true :=
  ⟨moves.isShort_of_panicked before, moves.panicked_of_isShort⟩

end Poller.Moves

/-! ### All pollers -/

/-- A step in which a poller of the connection gets a short reply. -/
def SystemEvent.isShortReply (connection : ConnectionConfig) : SystemEvent → Bool
  | .poll connection' _ actions =>
    connection' = connection && actions.any PollerAction.isShort
  | _ => false

def SystemEvent.isRespawn (connection : ConnectionConfig) : SystemEvent → Bool
  | .respawn connection' => connection' = connection
  | _ => false

/-- A poller of the connection that waits to be respawned. -/
def isPanicked (connection : ConnectionConfig) (task : ConnectionConfig × Poller) : Bool :=
  task.1 = connection && task.2.phase = .panicked

namespace System

variable {config : Config} {qos : QoS}

/-- All delays can be doubled. -/
def Doublable (system : System) : Prop :=
  ∀ task ∈ system.connections, task.1.Doublable ∧ task.2.backoff.Doublable

/-- The panics so far are those answered by a respawn and those that still wait for one. -/
structure Balanced (connection : ConnectionConfig) (events : List SystemEvent)
    (system : System) : Prop where
  doublable : system.Doublable
  panics : events.countP (SystemEvent.isShortReply connection) =
    events.countP (SystemEvent.isRespawn connection) +
      system.connections.countP (isPanicked connection)

/-- Steps that do neither. -/
theorem Balanced.still {connection : ConnectionConfig} {events : List SystemEvent}
    {system system' : System} {event : SystemEvent} (balanced : Balanced connection events system)
    (connections : system'.connections = system.connections)
    (unshort : event.isShortReply connection = false)
    (unspawned : event.isRespawn connection = false) :
    Balanced connection (events ++ [event]) system' where
  doublable := by
    rw [Doublable, connections]
    exact balanced.doublable
  panics := by
    simpa [connections, unshort, unspawned] using balanced.panics

theorem Doublable.replace {system : System} (doublable : system.Doublable)
    {before after : List (ConnectionConfig × Poller)} {connection : ConnectionConfig}
    {poller poller' : Poller} (tasks : system.connections = before ++ (connection, poller) :: after)
    (moved : connection.Doublable → poller.backoff.Doublable → poller'.backoff.Doublable) :
    ∀ task ∈ before ++ (connection, poller') :: after,
      task.1.Doublable ∧ task.2.backoff.Doublable := by
  rw [Doublable, tasks, List.forall_mem_append, List.forall_mem_cons] at doublable
  obtain ⟨earlier, ⟨bounds, current⟩, later⟩ := doublable
  rw [List.forall_mem_append, List.forall_mem_cons]
  exact ⟨earlier, ⟨bounds, moved bounds current⟩, later⟩

theorem Balanced.step {connection : ConnectionConfig} {events : List SystemEvent}
    {system system' : System} {event : SystemEvent} (balanced : Balanced connection events system)
    (moved : Step config qos system event system') :
    Balanced connection (events ++ [event]) system' := by
  cases moved with
  | poll before after connection' poller poller' input actions polling tasks answered moved =>
    have moves := Poller.moves_of_next moved
    have mine : poller.backoff.Doublable :=
      (balanced.doublable (connection', poller) (by simp [tasks])).2
    have panics := moves.panics_iff mine
    refine ⟨balanced.doublable.replace tasks fun _ => moves.doublable, ?_⟩
    have past := balanced.panics
    rw [tasks] at past
    simp only [List.countP_append, List.countP_cons, List.countP_nil, SystemEvent.isShortReply,
      SystemEvent.isRespawn, isPanicked, moves.not_panicked] at past ⊢
    -- Of this connection's tasks one more is panicked exactly if the reply was short.
    by_cases own : connection' = connection <;>
      by_cases short : actions.any PollerAction.isShort = true <;>
      simp [own, short, panics] at past ⊢ <;> omega
  | respawn before after connection' backoff polling tasks =>
    refine ⟨balanced.doublable.replace tasks fun bounds _ => doublable_start bounds, ?_⟩
    have past := balanced.panics
    rw [tasks] at past
    simp only [List.countP_append, List.countP_cons, List.countP_nil, SystemEvent.isShortReply,
      SystemEvent.isRespawn, isPanicked] at past ⊢
    -- The panic moves from those that wait to those that are answered.
    by_cases own : connection' = connection <;> simp [own, Poller.start] at past ⊢ <;> omega
  | pollersStopped failure => cases failure <;> exact balanced.still rfl rfl rfl
  | _ => exact balanced.still rfl rfl rfl

theorem balanced_of_run {nowUnix : Duration} {startedAt : Instant} {system₀ system : System}
    {events : List SystemEvent} (started : System.start config nowUnix startedAt = some system₀)
    (run : Run (Step config qos) system₀ events system)
    (doublable : ∀ connection ∈ config.connections, connection.Doublable)
    (connection : ConnectionConfig) : Balanced connection events system := by
  refine run.history (Balanced connection) ⟨?_, ?_⟩ fun _ _ _ _ balanced moved =>
    balanced.step moved
  all_goals obtain ⟨loop, _, rfl⟩ := Option.map_eq_some_iff.mp started
  · intro task member
    obtain ⟨connection, listed, rfl⟩ := List.mem_map.mp member
    exact ⟨doublable connection listed, doublable_start (doublable connection listed)⟩
  · simp [isPanicked, Poller.start, Function.comp_def]

/-- Whoever polls, the blocks read are those of the configuration. -/
theorem reads_within {nowUnix : Duration} {startedAt : Instant} {system₀ system : System}
    {events : List SystemEvent} (started : System.start config nowUnix startedAt = some system₀)
    (run : Run (Step config qos) system₀ events system) {connection : ConnectionConfig}
    {input : PollerInput} {actions : List PollerAction} {device : DeviceConfig}
    {block : BlockConfig} {words : List UInt16} (event : .poll connection input actions ∈ events)
    (read : .read device block (.words words) ∈ actions) :
    BlockRead.Within config ⟨connection, device, block, words⟩ := by
  obtain ⟨gateway₀, initial, refines⟩ := refines_start started
  obtain ⟨gateway, projected, _⟩ := simulates_gateway.run refines run
  apply blockReads_within initial projected
  refine List.mem_flatMap.mpr ⟨.poll connection input actions,
    List.mem_filterMap.mpr ⟨_, event, rfl⟩, List.mem_filterMap.mpr ⟨_, read, rfl⟩⟩

/-- The panics of a connection's pollers, one for each reply that some point of its block
lies beyond, are those followed by a respawn and those that still wait for theirs. With
an accepted configuration no reply of all registers asked for is one of them, so while
replies are whole nothing panics and nothing is respawned. -/
theorem panics_balance {host : Host} (accepted : validate host config = .ok ())
    (doublable : ∀ connection ∈ config.connections, connection.Doublable) {nowUnix : Duration}
    {startedAt : Instant} {system₀ system : System} {events : List SystemEvent}
    (started : System.start config nowUnix startedAt = some system₀)
    (run : Run (Step config qos) system₀ events system) :
    (∀ connection, events.countP (SystemEvent.isShortReply connection) =
      events.countP (SystemEvent.isRespawn connection) +
        system.connections.countP (isPanicked connection)) ∧
    ((∀ connection input actions device block words, .poll connection input actions ∈ events →
        .read device block (.words words) ∈ actions → words.length = block.count.toNat) →
      (∀ connection, .respawn connection ∉ events) ∧
      ∀ task ∈ system.connections, task.2.phase ≠ .panicked) := by
  have balance := fun connection => (balanced_of_run started run doublable connection).panics
  refine ⟨balance, fun whole => ?_⟩
  have none (connection : ConnectionConfig) :
      events.countP (SystemEvent.isShortReply connection) = 0 := by
    refine List.countP_eq_zero.mpr fun event member short => ?_
    cases event with
    | poll connection' input actions =>
      obtain ⟨action, did, short⟩ := List.any_eq_true.mp (Bool.and_eq_true_iff.mp short).2
      obtain ⟨device, block, words, rfl, uncovered⟩ := PollerAction.isShort_iff.mp short
      have within := reads_within started run member did
      have good := (wellFormed_of_validate accepted within.connection).blocks device
        within.device block within.block
      have full := whole connection' input actions device block words member did
      exact uncovered fun p listed => full ▸ good.in_bounds p listed
    | _ => cases short
  have settled (connection : ConnectionConfig) :
      events.countP (SystemEvent.isRespawn connection) = 0 ∧
        system.connections.countP (isPanicked connection) = 0 := by
    have sum := balance connection
    rw [none] at sum
    omega
  refine ⟨fun connection member => ?_, fun task member panicked => ?_⟩
  · have spared := List.countP_eq_zero.mp (settled connection).1 _ member
    simp [SystemEvent.isRespawn] at spared
  · have spared := List.countP_eq_zero.mp (settled task.1).2 _ member
    simp [isPanicked, panicked] at spared

/-- The sensor answers with one register of the two it was asked for. -/
theorem panics_balance_rs485Bus1 : ∃ events system,
    Run (Step exampleConfig .atLeastOnce) (startOfMinute exampleConfig) events system ∧
    events.countP (SystemEvent.isShortReply rs485Bus1) = 1 ∧
    system.connections.countP (isPanicked rs485Bus1) = 1 ∧
    events.countP (SystemEvent.isRespawn rs485Bus1) = 0 := by
  obtain ⟨events, system, run, short, panicked⟩ : ∃ events system,
      Run (Step exampleConfig .atLeastOnce) (startOfMinute exampleConfig) events system ∧
      events.countP (SystemEvent.isShortReply rs485Bus1) = 1 ∧
      system.connections.countP (isPanicked rs485Bus1) = 1 :=
    ⟨_, _,
      .cons (.poll _ [(meterTcp1, Poller.start meterTcp1)] [] rs485Bus1 _ _ (.connect true) _ rfl
          rfl (by simp) rfl)
        (.cons (.poll _ [_] [] _ _ _ .tick _ rfl rfl (by simp) rfl)
        (.single (.poll _ [_] [] _ _ _ (.response (some (.ok (.ok [231])))) _ rfl rfl (by simp)
          rfl))), by decide +kernel, by decide +kernel⟩
  have doublable : ∀ connection ∈ exampleConfig.connections, connection.Doublable := by
    intro connection listed
    rcases List.mem_cons.mp listed with rfl | listed
    · exact ⟨by decide, by decide⟩
    · rw [List.mem_singleton.mp listed]
      exact ⟨by decide, by decide⟩
  have balance := (panics_balance exampleConfig_accepted doublable (start_eq_startOfMinute rfl)
    run).1 rs485Bus1
  refine ⟨events, system, run, short, panicked, ?_⟩
  omega

end System

end ModbusGateway
