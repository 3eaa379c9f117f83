import ModbusGateway.Modbus.Poller

/-!
# One request at a time

What the log of a poller looks like around a request, over its whole run and all
its connections: the request is for a block of the configuration and goes to the
unit of its device, and nothing else happens until its reply is there or given
up and the pause that a serial bus needs has passed.
-/
namespace ModbusGateway

open Foundation

/-- The unit that requests go to after an action; nothing where it is the default one. -/
def readdress (unit : Option UInt8) : PollerAction → Option UInt8
  | .setSlave unitId => some unitId
  -- The context of a new connection knows nothing of the last one's unit.
  | .report (.connectionUp _) => none
  | _ => unit

/-- The unit that requests go to after these actions. -/
def address (log : List PollerAction) : Option UInt8 := log.foldl readdress none

theorem address_append (log : List PollerAction) {actions : List PollerAction}
    (same : ∀ unit, actions.foldl readdress unit = unit) :
    address (log ++ actions) = address log := by
  rw [address, List.foldl_append, same, address]

theorem address_setSlave (log : List PollerAction) (unitId : UInt8) :
    address (log ++ [.setSlave unitId]) = some unitId := by
  rw [address, List.foldl_concat, readdress]

variable (cfg : ConnectionConfig)

/-- A request for a configured block that goes to the unit of its device. -/
structure Addressed (log : List PollerAction) (device : DeviceConfig) (block : BlockConfig) :
    Prop where
  listed : device ∈ cfg.devices
  own : block ∈ device.blocks
  unit : address log = some device.unitId

/-- The answer to a request, and the pause after it. -/
def Answers (device : DeviceConfig) (block : BlockConfig) (log : List PollerAction) : Prop :=
  ∃ result rest, log = .read device block result :: (frameDelays cfg ++ rest)

/-- All requests are answered. -/
def Served (log : List PollerAction) : Prop :=
  ∀ before device block after, log = before ++ .request device block :: after →
    Addressed cfg before device block ∧ Answers cfg device block after

/-- What the log says when the poller is in a phase. -/
def Follows (log : List PollerAction) : PollerPhase → Prop
  | .reading cursor => ∃ served, log = served ++ [.request cursor.device cursor.block] ∧
      Served cfg served ∧ address served = some cursor.device.unitId
  | .offering cursor _ _ _ => Served cfg log ∧ address log = some cursor.device.unitId
  | .connecting | .backingOff | .ticking | .returned | .panicked => Served cfg log

variable {cfg}

/-- An element of two lists, one behind the other, is in the first or in the second. -/
theorem split_append {α : Type} {xs ys before after : List α} {x : α}
    (occurs : xs ++ ys = before ++ x :: after) :
    (∃ middle, xs = before ++ x :: middle ∧ after = middle ++ ys) ∨
      ∃ middle, before = xs ++ middle ∧ ys = middle ++ x :: after := by
  rcases List.append_eq_append_iff.mp occurs with ⟨middle, rfl, within⟩ | ⟨middle, here, rest⟩
  · exact .inr ⟨middle, rfl, within⟩
  · cases middle with
    | nil => exact .inr ⟨[], by simp [here], rest.symm⟩
    | cons first middle =>
      obtain ⟨rfl, rfl⟩ := List.cons.inj rest
      exact .inl ⟨middle, here, rfl⟩

theorem requests_ne_nil {actions before after : List PollerAction} {device : DeviceConfig}
    {block : BlockConfig} (occurs : actions = before ++ .request device block :: after) :
    requests actions ≠ [] := by
  simp [occurs, PollerAction.request?]

theorem served_nil : Served cfg [] :=
  fun _ _ _ _ occurs => absurd rfl (requests_ne_nil occurs)

theorem Served.append {log actions : List PollerAction} (served : Served cfg log)
    (quiet : requests actions = []) : Served cfg (log ++ actions) := by
  intro before device block after occurs
  -- A request is among the earlier ones, since the new actions have none.
  rcases split_append occurs with ⟨middle, here, rfl⟩ | ⟨middle, rfl, within⟩
  · obtain ⟨addressed, result, rest, rfl⟩ := served before device block middle here
    exact ⟨addressed, result, rest ++ actions, by simp⟩
  · exact absurd quiet (requests_ne_nil within)

theorem Served.answer {log : List PollerAction} (served : Served cfg log) {device : DeviceConfig}
    {block : BlockConfig} (addressed : Addressed cfg log device block) (result : BlockResult) :
    Served cfg (log ++ .request device block :: .read device block result :: frameDelays cfg) := by
  intro before device' block' after occurs
  rcases split_append occurs with ⟨middle, here, rfl⟩ | ⟨middle, rfl, within⟩
  · obtain ⟨addressed', result', rest, rfl⟩ := served before device' block' middle here
    exact ⟨addressed', result', rest ++ .request device block :: .read device block result ::
      frameDelays cfg, by simp⟩
  · cases middle with
    | nil =>
      cases within
      rw [List.append_nil]
      exact ⟨addressed, result, [], by simp⟩
    | cons first middle =>
      -- Behind the request there is only its answer.
      have quiet : requests (.read device block result :: frameDelays cfg) = [] := by
        simp [PollerAction.request?]
      exact absurd quiet (requests_ne_nil (List.cons.inj within).2)

/-! ### What moving on asks -/

theorem pollDevices_follows {log : List PollerAction} (served : Served cfg log)
    (devices : List DeviceConfig) :
    Follows cfg (log ++ (pollDevices cfg devices).2) (pollDevices cfg devices).1 := by
  induction devices generalizing log with
  | nil => simpa [pollDevices, Follows] using served
  | cons device devices ih =>
    unfold pollDevices
    cases device.blocks with
    | nil =>
      have quiet : requests [.setSlave device.unitId, .report (deviceEvent cfg device none)] = [] :=
        rfl
      simpa using ih (served.append quiet)
    | cons block blocks =>
      exact ⟨log ++ [.setSlave device.unitId], by simp, served.append rfl,
        address_setSlave log device.unitId⟩

theorem finishDevice_follows {log : List PollerAction} (served : Served cfg log)
    (cursor : Cursor) (problem : Option String) :
    Follows cfg (log ++ (finishDevice cfg cursor problem).2) (finishDevice cfg cursor problem).1 := by
  have quiet : requests [.report (deviceEvent cfg cursor.device problem)] = [] := rfl
  simpa [finishDevice] using pollDevices_follows (served.append quiet) cursor.devices

theorem offerValues_follows {log : List PollerAction} (served : Served cfg log) {cursor : Cursor}
    (unit : address log = some cursor.device.unitId) (words : List UInt16)
    (values : List (String × F64)) :
    Follows cfg (log ++ (offerValues cfg cursor words values).2)
      (offerValues cfg cursor words values).1 := by
  cases values with
  | nil =>
    unfold offerValues nextBlock
    cases cursor.blocks with
    | nil => exact finishDevice_follows served cursor none
    | cons block blocks => exact ⟨log, rfl, served, unit⟩
  | cons value values => simpa [offerValues, Follows] using ⟨served, unit⟩

/-! ### Whole runs -/

/-- The answer to the outstanding request, with the pause. -/
theorem Follows.answer {log : List PollerAction} {cursor : Cursor}
    (follows : Follows cfg log (.reading cursor)) (within : cursor.Within cfg)
    (result : BlockResult) :
    Served cfg (log ++ (.read cursor.device cursor.block result :: frameDelays cfg)) ∧
      address (log ++ (.read cursor.device cursor.block result :: frameDelays cfg)) =
        some cursor.device.unitId := by
  obtain ⟨before, rfl, served, unit⟩ := follows
  have addressed : Addressed cfg before cursor.device cursor.block :=
    ⟨within.device, within.block, unit⟩
  have same (unit : Option UInt8) : (.request cursor.device cursor.block ::
      .read cursor.device cursor.block result :: frameDelays cfg).foldl readdress unit = unit := by
    rw [List.foldl_cons, List.foldl_cons, frameDelays, List.foldl_map]
    exact List.foldl_fixed _
  rw [List.append_assoc, List.singleton_append]
  exact ⟨served.answer addressed result, (address_append before same).trans unit⟩

theorem Poller.Moves.follows {poller poller' : Poller} {input : PollerInput}
    {actions log : List PollerAction} (moves : Poller.Moves cfg poller input poller' actions)
    (within : poller.phase.Within cfg) (follows : Follows cfg log poller.phase) :
    Follows cfg (log ++ actions) poller'.phase := by
  cases moves with
  | connected | connectFailed | slept | overflowed =>
    have served : Served cfg log := follows
    exact served.append rfl
  | ticked => exact pollDevices_follows follows cfg.devices
  -- The answer and the pause come first, then whatever the poller goes on with.
  | words backoff cursor response words values =>
    obtain ⟨served, unit⟩ := follows.answer within (.words words)
    rw [List.cons_append, ← List.cons_append, ← List.append_assoc]
    exact offerValues_follows served unit words values
  | undecodable backoff cursor response words => exact (follows.answer within (.words words)).1
  | failed backoff cursor response result reason =>
    obtain ⟨served, _⟩ := follows.answer within result
    rw [← List.append_assoc]
    exact finishDevice_follows served cursor (some reason)
  | fatal backoff cursor =>
    obtain ⟨served, _⟩ := follows.answer within .transportFatal
    rw [← List.append_assoc]
    exact served.append rfl
  | refused => exact follows.1.append rfl
  | offered backoff cursor words value values outcome =>
    have quiet : requests [.offer cursor.device cursor.block words (cursor.readingOf value)
      outcome] = [] := rfl
    have same (unit : Option UInt8) : [PollerAction.offer cursor.device cursor.block words
      (cursor.readingOf value) outcome].foldl readdress unit = unit := rfl
    have unit := (address_append log same).trans follows.2
    rw [← List.singleton_append, ← List.append_assoc]
    exact offerValues_follows (follows.1.append quiet) unit words values

theorem follows_of_run {events : List (PollerInput × List PollerAction)} {poller : Poller}
    (run : Run (Poller.Step cfg) (Poller.start cfg) events poller) :
    Follows cfg (events.flatMap Prod.snd) poller.phase ∧ poller.phase.Within cfg := by
  apply run.history fun events poller =>
    Follows cfg (events.flatMap Prod.snd) poller.phase ∧ poller.phase.Within cfg
  · exact ⟨served_nil, trivial⟩
  · rintro events poller event poller' ⟨follows, within⟩ step
    have moves := Poller.moves_of_next step
    rw [List.flatMap_append, List.flatMap_singleton]
    exact ⟨moves.follows within follows, moves.within within⟩

/-- On a connection there is one request at a time, over its whole life: each is for a configured
block and goes to the unit of its device, and it is the last thing that was done, or the next are
its reply, or the giving up of it, and the pause of the serial bus. -/
theorem requests_one_at_a_time (cfg : ConnectionConfig)
    (events : List (PollerInput × List PollerAction)) (poller : Poller)
    (run : Run (Poller.Step cfg) (Poller.start cfg) events poller)
    (before after : List PollerAction) (device : DeviceConfig) (block : BlockConfig)
    (occurs : events.flatMap Prod.snd = before ++ .request device block :: after) :
    device ∈ cfg.devices ∧ block ∈ device.blocks ∧ address before = some device.unitId ∧
      (after = [] ∨
        ∃ result rest, after = .read device block result :: (frameDelays cfg ++ rest)) := by
  obtain ⟨follows, within⟩ := follows_of_run run
  cases phase : poller.phase with
  | reading cursor =>
    rw [phase] at follows within
    obtain ⟨served, shape, answered, unit⟩ := follows
    rcases split_append (shape.symm.trans occurs) with ⟨middle, here, rfl⟩ | ⟨middle, rfl, last⟩
    · obtain ⟨addressed, result, rest, rfl⟩ := answered before device block middle here
      exact ⟨addressed.listed, addressed.own, addressed.unit, .inr ⟨result,
        rest ++ [.request cursor.device cursor.block], by simp⟩⟩
    · -- The outstanding request is the last action.
      cases middle with
      | nil =>
        cases last
        rw [List.append_nil]
        exact ⟨within.device, within.block, unit, .inl rfl⟩
      | cons first middle => exact absurd (List.cons.inj last).2 (by simp)
  | offering cursor words value values =>
    rw [phase] at follows
    obtain ⟨addressed, answers⟩ := follows.1 before device block after occurs
    exact ⟨addressed.listed, addressed.own, addressed.unit, .inr answers⟩
  | connecting | backingOff | ticking | returned | panicked =>
    rw [phase] at follows
    obtain ⟨addressed, answers⟩ := follows before device block after occurs
    exact ⟨addressed.listed, addressed.own, addressed.unit, .inr answers⟩

/-- The first sensor of the shipped bus is read, and the bus rests for ten milliseconds. -/
theorem requests_one_at_a_time_rs485Bus1 :
    address [.report (.connectionUp "rs485-bus1"), .setSlave 5] = some 5 ∧
      ∃ result rest, [PollerAction.read (tempSensor "tempsensor1" 5) tempSensorBlock
          (.words [10, 456]), .sleep (.fromMillis 10)] =
        .read (tempSensor "tempsensor1" 5) tempSensorBlock result ::
          (frameDelays rs485Bus1 ++ rest) := by
  have run : Run (Poller.Step rs485Bus1) (Poller.start rs485Bus1) [(.connect true, _), (.tick, _),
      (.response (some (.ok (.ok [10, 456]))), _)] _ :=
    .cons rfl (.cons rfl (.single rfl))
  have asked := requests_one_at_a_time rs485Bus1 _ _ run
    [.report (.connectionUp "rs485-bus1"), .setSlave 5]
    [.read (tempSensor "tempsensor1" 5) tempSensorBlock (.words [10, 456]),
      .sleep (.fromMillis 10)] (tempSensor "tempsensor1" 5) tempSensorBlock rfl
  obtain ⟨_, _, unit, last | answered⟩ := asked
  · cases last
  · exact ⟨unit, answered⟩

end ModbusGateway
