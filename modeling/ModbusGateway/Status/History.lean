import ModbusGateway.Config.WellFormed
import ModbusGateway.Foundation.Since
import ModbusGateway.Status.State

/-!
# What past events leave on display

The status task applies events one after the other, whichever of them were
dropped on the way. What it then shows of a device is settled by the events
since the latest disconnect, or since the latest event that cleared the device.
-/
namespace ModbusGateway

open Foundation

/-- An event with the time it is applied at. -/
structure TimedEvent where
  event : StatusEvent
  now : OffsetDateTime
  deriving DecidableEq

namespace StatusState

def step (state : StatusState) (timed : TimedEvent) : StatusState :=
  (state.apply timed.event timed.now).1

/-- The state once all of `events` are applied. -/
def after (state : StatusState) (events : List TimedEvent) : StatusState :=
  events.foldl step state

@[simp] theorem after_nil (state : StatusState) : state.after [] = state := rfl

theorem after_append (state : StatusState) (events events' : List TimedEvent) :
    state.after (events ++ events') = (state.after events).after events' :=
  List.foldl_append

theorem after_snoc (state : StatusState) (events : List TimedEvent) (timed : TimedEvent) :
    state.after (events ++ [timed]) = (state.after events).step timed := by
  rw [after_append]
  rfl

theorem isSome_health?_after (state : StatusState) (events : List TimedEvent) (c d : String) :
    ((state.after events).health? c d).isSome = (state.health? c d).isSome := by
  induction events using List.reverseRecOn with
  | nil => rfl
  | append_singleton events timed ih =>
    rw [after_snoc, step, health?_apply, Option.isSome_map, ih]

theorem Distinct.after {state : StatusState} (distinct : state.Distinct)
    (events : List TimedEvent) : (state.after events).Distinct := by
  have same : (state.after events).ids = state.ids := by
    induction events using List.reverseRecOn with
    | nil => rfl
    | append_singleton events timed ih =>
      rw [after_snoc, step, ids_apply, ih]
  exact ⟨same ▸ distinct.connections, same ▸ distinct.devices⟩

end StatusState

/-- An event that brings a result of a device. -/
def TimedEvent.Reports (connectionId deviceId : String) (timed : TimedEvent) : Prop :=
  timed.event = .deviceOk connectionId deviceId ∨
    ∃ reason, timed.event = .deviceProblem connectionId deviceId reason

/-- Disconnects of a connection, as cuts of a history. -/
def IsDown (connectionId : String) (_earlier : List TimedEvent) (timed : TimedEvent) : Prop :=
  timed.event = .connectionDown connectionId

/-! ### One event -/

section

variable {state : StatusState} {timed : TimedEvent} {c d : String}

/-- A report of a listed device means that its connection is up. -/
theorem up_of_reports (reports : timed.Reports c d) (listed : (state.health? c d).isSome) :
    (state.step timed).up? c = some true := by
  have known : (state.up? c).isSome := by
    rw [StatusState.up?, Option.isSome_map]
    exact Option.isSome_of_isSome_bind listed
  obtain ⟨up, shown⟩ := Option.isSome_iff_exists.mp known
  rw [StatusState.step, StatusState.up?_apply, shown]
  rcases reports with same | ⟨reason, same⟩ <;> simp [same, listed]

/-- Only a disconnect takes a connection down. -/
theorem up_of_up (up : state.up? c = some true) (other : timed.event ≠ .connectionDown c) :
    (state.step timed).up? c = some true := by
  rw [StatusState.step, StatusState.up?_apply, up]
  cases same : timed.event with
  | connectionDown c' =>
    have apart : c' ≠ c := fun eq => other (by rw [same, eq])
    simp [apart]
  | _ => simp

/-- What brings a connection up: its `ConnectionUp`, or a report of a listed device. -/
theorem comes_up (down : state.up? c = some false) (up : (state.step timed).up? c = some true) :
    timed.event = .connectionUp c ∨
      ∃ d, timed.Reports c d ∧ (state.health? c d).isSome := by
  rw [StatusState.step, StatusState.up?_apply, down] at up
  cases same : timed.event with
  | connectionUp c' => simp_all
  | connectionDown c' => simp_all
  | mqttConnected | mqttDisconnected => simp_all
  | deviceOk c' d' =>
    simp only [same, Option.map_some, Bool.false_or, Bool.and_eq_true, decide_eq_true_eq,
      Option.some.injEq] at up
    exact .inr ⟨d', .inl (by rw [same, up.1]), up.2⟩
  | deviceProblem c' d' reason =>
    simp only [same, Option.map_some, Bool.false_or, Bool.and_eq_true, decide_eq_true_eq,
      Option.some.injEq] at up
    exact .inr ⟨d', .inr ⟨reason, by rw [same, up.1]⟩, up.2⟩

theorem not_up_of_down (down : timed.event = .connectionDown c) :
    (state.step timed).up? c ≠ some true := by
  rw [StatusState.step, StatusState.up?_apply, down]
  cases state.up? c <;> simp

/-- A connection that comes up by its own event starts without results. -/
theorem cleared (comesUp : timed.event = .connectionUp c) (down : state.up? c = some false)
    {health : Health} (shown : (state.step timed).health? c d = some health) :
    health = .unknown := by
  rw [StatusState.step, StatusState.health?_apply, comesUp, down] at shown
  obtain ⟨old, _, same⟩ := Option.map_eq_some_iff.mp shown
  simpa using same.symm

/-- A result is replaced by a report of its device and cleared when its connection comes up;
nothing else touches it. -/
theorem health_kept (silent : ¬timed.Reports c d)
    (kept : timed.event = .connectionUp c → state.up? c ≠ some false) :
    (state.step timed).health? c d = state.health? c d := by
  rw [StatusState.step, StatusState.health?_apply]
  cases same : timed.event with
  | connectionUp c' =>
    have inert : ¬(c' = c ∧ state.up? c = some false) := fun both =>
      kept (by rw [same, both.1]) both.2
    simp [inert]
  | deviceOk c' d' =>
    have other : ¬(c' = c ∧ d' = d) := fun both => silent (.inl (by rw [same, both.1, both.2]))
    simp [other]
  | deviceProblem c' d' reason =>
    have other : ¬(c' = c ∧ d' = d) := fun both =>
      silent (.inr ⟨reason, by rw [same, both.1, both.2]⟩)
    simp [other]
  | connectionDown | mqttConnected | mqttDisconnected => simp

/-- A result that its device did not just report was there before. -/
theorem health_of_known (silent : ¬timed.Reports c d) {health : Health}
    (known : (state.step timed).health? c d = some health) (result : health ≠ .unknown) :
    state.health? c d = some health := by
  rw [← health_kept silent fun comesUp down => result (cleared comesUp down known), known]

end

/-! ### Results from before a disconnect -/

/-- In what `state` shows after `events`, a connection that is up shows no result of a
device from before its last disconnect: one came after it. Without a disconnect this
holds of the devices `state` has no result of. -/
def NoStaleResult (state : StatusState) (events : List TimedEvent) : Prop :=
  ∀ conn ∈ (state.after events).connections, conn.up = true →
    ∀ device ∈ conn.devices, device.health ≠ .unknown →
      ∀ before after, Since (IsDown conn.id) events before after →
        before ≠ [] ∨ state.health? conn.id device.id = some .unknown →
        ∃ timed ∈ after, timed.Reports conn.id device.id

/-- The event reports a device of a connection that is shown down since a disconnect, while
a result of another of its devices is still stored. -/
def Revives (state : StatusState) (earlier : List TimedEvent) (timed : TimedEvent) : Prop :=
  ∃ c d d', timed.Reports c d ∧ ((state.after earlier).health? c d).isSome ∧
    (state.after earlier).up? c = some false ∧ (∃ down ∈ earlier, IsDown c [] down) ∧
    d' ≠ d ∧ ∃ health, (state.after earlier).health? c d' = some health ∧ health ≠ .unknown

section

variable {state : StatusState} {c d : String} {events before after : List TimedEvent}

/-- A report since the last disconnect has the connection shown up. -/
theorem up_of_reported (listed : (state.health? c d).isSome)
    (cut : Since (IsDown c) events before after) (reported : ∃ timed ∈ after, timed.Reports c d) :
    (state.after events).up? c = some true := by
  induction events using List.reverseRecOn generalizing after with
  | nil =>
    obtain ⟨timed, member, _⟩ := reported
    have empty : after = [] := (List.append_eq_nil_iff.mp cut.split.symm).2
    simp [empty] at member
  | append_singleton events timed ih =>
    obtain ⟨reporting, member, reports⟩ := reported
    rcases cut.snoc_cases with ⟨_, _, rfl⟩ | ⟨rest, other, rfl, earlier⟩
    · simp at member
    rw [StatusState.after_snoc]
    rcases List.mem_append.mp member with past | latest
    · exact up_of_up (ih earlier ⟨reporting, past, reports⟩) other
    · obtain rfl := List.mem_singleton.mp latest
      exact up_of_reports reports (state.isSome_health?_after events c d ▸ listed)

/-- A result of a device that had none was reported. -/
theorem reported_of_known (fresh : state.health? c d = some .unknown) {health : Health}
    (known : (state.after events).health? c d = some health) (result : health ≠ .unknown) :
    ∃ timed ∈ events, timed.Reports c d := by
  induction events using List.reverseRecOn generalizing health with
  | nil =>
    rw [StatusState.after_nil, fresh] at known
    exact absurd (Option.some.inj known).symm result
  | append_singleton events timed ih =>
    by_cases reports : timed.Reports c d
    · exact ⟨timed, by simp, reports⟩
    · rw [StatusState.after_snoc] at known
      obtain ⟨reporting, member, found⟩ := ih (health_of_known reports known result) result
      exact ⟨reporting, List.mem_append_left _ member, found⟩

/-- Where no event of the run revives a connection, what is shown was reported since the
last disconnect. -/
theorem reported_of_shown (cut : Since (IsDown c) events before after)
    (calm : ∀ earlier timed, earlier ++ [timed] <+: events → ¬Revives state earlier timed)
    (up : (state.after events).up? c = some true) {health : Health}
    (known : (state.after events).health? c d = some health) (result : health ≠ .unknown)
    (disconnected : before ≠ [] ∨ state.health? c d = some .unknown) :
    ∃ timed ∈ after, timed.Reports c d := by
  induction events using List.reverseRecOn generalizing after health with
  | nil =>
    have none_before : before = [] := (List.append_eq_nil_iff.mp cut.split.symm).1
    have fresh := disconnected.resolve_left fun some => some none_before
    obtain ⟨timed, member, _⟩ := reported_of_known fresh known result
    simp at member
  | append_singleton events timed ih =>
    rw [StatusState.after_snoc] at up known
    rcases cut.snoc_cases with ⟨down, _, _⟩ | ⟨rest, other, rfl, earlier⟩
    · exact absurd up (not_up_of_down down)
    by_cases reports : timed.Reports c d
    · exact ⟨timed, by simp, reports⟩
    have stored := health_of_known reports known result
    suffices found : ∃ timed ∈ rest, timed.Reports c d by
      obtain ⟨reporting, member, found⟩ := found
      exact ⟨reporting, List.mem_append_left _ member, found⟩
    by_cases was_up : (state.after events).up? c = some true
    · exact ih earlier (fun past timed' within =>
        calm past timed' (within.trans (List.prefix_append _ _))) was_up stored result
    have down : (state.after events).up? c = some false := by
      cases shown : (state.after events).up? c with
      | none => simp [StatusState.step, StatusState.up?_apply, shown] at up
      | some up => cases up <;> simp_all
    rcases comes_up down up with comesUp | ⟨d', reports', listed⟩
    · exact absurd (cleared comesUp down known) result
    have other_device : d ≠ d' := fun same => reports (same ▸ reports')
    rcases earlier.opened with rfl | ⟨past, last, rfl, isDown⟩
    · -- Never disconnected: the device had no result at first, so this one was reported.
      have fresh := disconnected.resolve_left fun some => some rfl
      have reported := reported_of_known fresh stored result
      rwa [earlier.split, List.nil_append] at reported
    · have revives : Revives state events timed :=
        ⟨c, d', d, reports', listed, down, ⟨last, by simp [earlier.split], isDown⟩, other_device,
          health, stored, result⟩
      exact absurd revives (calm events timed (List.prefix_refl _))

/-- A revived connection shows a result that nothing since its last disconnect brought. -/
theorem Revives.stale {timed : TimedEvent} (revives : Revives state events timed) :
    ¬NoStaleResult state (events ++ [timed]) := by
  obtain ⟨c, d, d', reports, listed, down, ⟨last, past, isDown⟩, other, health, stored, result⟩ :=
    revives
  intro fresh
  have up : (state.after (events ++ [timed])).up? c = some true := by
    rw [StatusState.after_snoc]
    exact up_of_reports reports listed
  have silent : ¬timed.Reports c d' := by
    rintro (same | ⟨reason, same⟩) <;> rcases reports with same' | ⟨reason', same'⟩ <;>
      simp_all
  have kept : (state.after (events ++ [timed])).health? c d' = some health := by
    rw [StatusState.after_snoc, health_kept silent, stored]
    intro comesUp
    rcases reports with same | ⟨reason, same⟩ <;> simp [comesUp] at same
  obtain ⟨conn, member, rfl, shown, device, inside, rfl, rfl⟩ :=
    StatusState.exists_of_health? kept
  have conn_up : conn.up = true := Option.some.inj (shown.symm.trans up)
  obtain ⟨before, after, cut⟩ := Since.exists_since (IsDown conn.id) events
  have not_down : ¬IsDown conn.id events timed := by
    intro disconnects
    rcases reports with same | ⟨reason, same⟩ <;> simp [IsDown, same] at disconnects
  have cut_there : before ≠ [] := by
    rintro rfl
    rw [cut.split, List.nil_append] at past
    obtain ⟨_, _, not_isDown⟩ := cut.exists_not_opens past
    exact not_isDown isDown
  obtain ⟨reporting, later, reports'⟩ := fresh conn member conn_up device inside result before
    (after ++ [timed]) (cut.extend not_down) (.inl cut_there)
  -- A report of that device since the disconnect would have had the connection shown up.
  rcases List.mem_append.mp later with earlier | latest
  · have listed' : (state.health? conn.id device.id).isSome := by
      rw [← state.isSome_health?_after events, stored]
      rfl
    rw [up_of_reported listed' cut ⟨reporting, earlier, reports'⟩] at down
    cases down
  · obtain rfl := List.mem_singleton.mp latest
    exact silent reports'

end

/-- A result from before a disconnect is never shown after it, in any state of a run, exactly
when no event of the run revives a connection. -/
theorem no_stale_result_iff {state : StatusState} (distinct : state.Distinct)
    (events : List TimedEvent) :
    (∀ earlier, earlier <+: events → NoStaleResult state earlier) ↔
      ∀ earlier timed, earlier ++ [timed] <+: events → ¬Revives state earlier timed := by
  constructor
  · intro fresh earlier timed within revives
    exact revives.stale (fresh _ within)
  · intro calm earlier within conn member up device inside result before after cut disconnected
    have distinct' := distinct.after earlier
    apply reported_of_shown cut (fun past timed part => calm past timed (part.trans within))
    · rw [distinct'.up?_of_mem member, up]
    · exact distinct'.health?_of_mem member inside
    · exact result
    · exact disconnected

/-- What the status task starts from with the shipped configuration. -/
def exampleState : StatusState := .fromConfig exampleConfig

theorem exampleState_distinct : exampleState.Distinct :=
  ⟨by decide +kernel, by decide +kernel⟩

/-- An event with a made up time; reports of a success do not show any. -/
def StatusEvent.at (event : StatusEvent) (unixNanos : Int) : TimedEvent := ⟨event, ⟨unixNanos⟩⟩

theorem no_stale_result_after_reconnect :
    NoStaleResult exampleState
      [(StatusEvent.connectionDown "rs485-bus1").at 0, (StatusEvent.connectionUp "rs485-bus1").at 1,
        (StatusEvent.deviceOk "rs485-bus1" "tempsensor1").at 2] := by
  refine (no_stale_result_iff exampleState_distinct _).mpr ?_ _ (List.prefix_refl _)
  rintro earlier timed ⟨rest, shape⟩ ⟨c, d, d', reports, _, down, _⟩
  -- The only report comes third, and the connection is up by then.
  rcases earlier with _ | ⟨first, _ | ⟨second, _ | ⟨third, earlier⟩⟩⟩ <;>
    simp [StatusEvent.at] at shape
  · obtain ⟨rfl, _⟩ := shape
    simp [TimedEvent.Reports] at reports
  · obtain ⟨_, rfl, _⟩ := shape
    simp [TimedEvent.Reports] at reports
  · obtain ⟨rfl, rfl, rfl, _⟩ := shape
    obtain ⟨rfl, rfl⟩ : "rs485-bus1" = c ∧ "tempsensor1" = d := by
      simpa [TimedEvent.Reports] using reports
    revert down
    decide +kernel

/-- Both sensors were read, the bus was lost, and the `ConnectionUp` that followed was dropped:
the first sensor's report shows the second one ok again, as it was before the disconnect. -/
theorem stale_result_shown :
    ∃ (state : StatusState) (events : List TimedEvent), state.Distinct ∧
      ¬∀ earlier, earlier <+: events → NoStaleResult state earlier := by
  refine ⟨exampleState,
    [(StatusEvent.connectionUp "rs485-bus1").at 0,
      (StatusEvent.deviceOk "rs485-bus1" "tempsensor1").at 1,
      (StatusEvent.deviceOk "rs485-bus1" "tempsensor2").at 2,
      (StatusEvent.connectionDown "rs485-bus1").at 3] ++
      [(StatusEvent.deviceOk "rs485-bus1" "tempsensor1").at 4],
    exampleState_distinct, fun fresh => ?_⟩
  refine Revives.stale ?_ (fresh _ (List.prefix_refl _))
  exact ⟨"rs485-bus1", "tempsensor1", "tempsensor2", .inl rfl, by decide +kernel,
    by decide +kernel, ⟨(StatusEvent.connectionDown "rs485-bus1").at 3, by simp, rfl⟩,
    by decide, .ok, by decide +kernel, by decide⟩

/-! ### Since when a device fails -/

/-- The event clears a device: a success, or its connection coming up by its own event. -/
def Resets (state : StatusState) (c d : String) (earlier : List TimedEvent)
    (timed : TimedEvent) : Prop :=
  timed.event = .deviceOk c d ∨
    timed.event = .connectionUp c ∧ (state.after earlier).up? c = some false

/-- The reason of a problem of a device, with the time of the event. -/
def TimedEvent.problem? (c d : String) (timed : TimedEvent) : Option (String × OffsetDateTime) :=
  match timed.event with
  | .deviceProblem c' d' reason => if c' = c ∧ d' = d then some (reason, timed.now) else none
  | _ => none

def problemsOf (c d : String) (events : List TimedEvent) : List (String × OffsetDateTime) :=
  events.filterMap (TimedEvent.problem? c d)

/-- The problem a health shows. -/
def Health.ongoing : Health → List (String × OffsetDateTime)
  | .problem reason since => [(reason, since)]
  | .unknown | .ok => []

/-- The problems of a device since it was last cleared, oldest first; never cleared, it
still has the one it started with. -/
def outage (state : StatusState) (c d : String) (before after : List TimedEvent) :
    List (String × OffsetDateTime) :=
  (if before = [] then ((state.health? c d).elim [] Health.ongoing) else []) ++ problemsOf c d after

/-- A health shows the start of an outage and its latest reason, and no problem without one. -/
def Health.Shows (outage : List (String × OffsetDateTime)) : Health → Prop
  | .problem reason since =>
    outage.head?.map Prod.snd = some since ∧ outage.getLast?.map Prod.fst = some reason
  | .unknown | .ok => outage = []

section

variable {state : StatusState} {c d : String} {events before after : List TimedEvent}
  {timed : TimedEvent}

/-- Without a result of the device the problems of an outage stay as they are. -/
theorem problem?_eq_none (other : ∀ reason, timed.event ≠ .deviceProblem c d reason) :
    timed.problem? c d = none := by
  unfold TimedEvent.problem?
  split
  next c' d' reason same =>
    rw [if_neg]
    rintro ⟨rfl, rfl⟩
    exact other reason same
  next => rfl

theorem outage_snoc (rest : List TimedEvent) :
    outage state c d before (rest ++ [timed]) =
      outage state c d before rest ++ (timed.problem? c d).toList := by
  simp only [outage, problemsOf, List.filterMap_append, List.append_assoc]
  cases problem : timed.problem? c d <;> simp [problem]

/-- One more problem of the device: the start of its outage stays, the reason is the new one. -/
theorem Health.Shows.fail {health : Health} {problems : List (String × OffsetDateTime)}
    (shows : health.Shows problems) (reason : String) (now : OffsetDateTime) :
    (health.fail reason now).Shows (problems ++ [(reason, now)]) := by
  cases health with
  | unknown | ok =>
    obtain rfl : problems = [] := shows
    exact ⟨rfl, rfl⟩
  | problem earlier since =>
    obtain ⟨start, _⟩ := shows
    refine ⟨?_, by simp⟩
    cases problems with
    | nil => cases start
    | cons first later => exact start

theorem not_resets_health {health : Health} (other : ¬Resets state c d events timed)
    (shown : (state.after events).health? c d = some health) :
    ((state.after events).step timed).health? c d =
      some ((timed.problem? c d).elim health fun problem => health.fail problem.1 problem.2) := by
  by_cases fails : ∃ reason, timed.event = .deviceProblem c d reason
  · obtain ⟨reason, same⟩ := fails
    have problem : timed.problem? c d = some (reason, timed.now) := by
      simp [TimedEvent.problem?, same]
    rw [StatusState.step, StatusState.health?_apply, shown, problem, same]
    simp
  · have silent : ¬timed.Reports c d := by
      rintro (ok | failed)
      · exact other (.inl ok)
      · exact fails failed
    rw [problem?_eq_none fun reason same => fails ⟨reason, same⟩, health_kept silent, shown]
    · rfl
    · intro comesUp down
      exact other (.inr ⟨comesUp, down⟩)

/-- What is shown of a device is the outage it is in, after any events. -/
theorem shows_outage (cut : Since (Resets state c d) events before after) {health : Health}
    (shown : (state.after events).health? c d = some health) :
    health.Shows (outage state c d before after) := by
  induction events using List.reverseRecOn generalizing after health with
  | nil =>
    obtain ⟨rfl, rfl⟩ := List.append_eq_nil_iff.mp cut.split.symm
    rw [StatusState.after_nil] at shown
    rw [outage, if_pos rfl, shown]
    cases health with
    | unknown | ok => rfl
    | problem reason since => exact ⟨rfl, rfl⟩
  | append_singleton events timed ih =>
    rw [StatusState.after_snoc] at shown
    rcases cut.snoc_cases with ⟨resets, rfl, rfl⟩ | ⟨rest, other, rfl, earlier⟩
    · have none_left : outage state c d (events ++ [timed]) [] = [] := by
        simp [outage, problemsOf]
      rw [none_left]
      rw [StatusState.step, StatusState.health?_apply] at shown
      obtain ⟨old, _, same⟩ := Option.map_eq_some_iff.mp shown
      rcases resets with ok | ⟨comesUp, down⟩
      · simp only [ok, and_self, if_true] at same
        subst same
        rfl
      · simp only [comesUp, down, and_self, if_true] at same
        subst same
        rfl
    · have listed : ((state.after events).health? c d).isSome := by
        rw [StatusState.step, StatusState.health?_apply] at shown
        obtain ⟨old, found, _⟩ := Option.map_eq_some_iff.mp shown
        rw [found]
        rfl
      obtain ⟨old, was⟩ := Option.isSome_iff_exists.mp listed
      have shows := ih earlier was
      rw [not_resets_health other was] at shown
      rw [outage_snoc, ← Option.some.inj shown]
      cases timed.problem? c d with
      | none => simpa using shows
      | some problem => exact shows.fail problem.1 problem.2

end

/-- The time a problem is shown since is that of the first one after the device was last
cleared, or the one it started with, and the reason is that of the latest. Whatever else is
applied, a result neither of the device nor clearing it, changes nothing about it. -/
theorem since_starts_outage {state : StatusState} (distinct : state.Distinct)
    (events : List TimedEvent) {conn : ConnectionStatus}
    (member : conn ∈ (state.after events).connections) {device : DeviceStatus}
    (listed : device ∈ conn.devices) :
    (∀ reason since, device.health = .problem reason since →
      ∀ before after, Since (Resets state conn.id device.id) events before after →
        (outage state conn.id device.id before after).head?.map Prod.snd = some since ∧
        (outage state conn.id device.id before after).getLast?.map Prod.fst = some reason) ∧
    ∀ timed, ¬Resets state conn.id device.id events timed →
      (∀ reason, timed.event ≠ .deviceProblem conn.id device.id reason) →
      (state.after (events ++ [timed])).health? conn.id device.id = some device.health := by
  have shown := (distinct.after events).health?_of_mem member listed
  constructor
  · intro reason since failing before after cut
    have shows := shows_outage cut shown
    rw [failing] at shows
    exact shows
  · intro timed other silent
    rw [StatusState.after_snoc, not_resets_health other shown, problem?_eq_none silent]
    rfl

/-- Two polls of a sensor that fail in different ways. -/
def exampleOutage : List TimedEvent := [
  (StatusEvent.deviceProblem "rs485-bus1" "tempsensor1" "timeout").at 5,
  (StatusEvent.deviceProblem "rs485-bus1" "tempsensor1" "protocol error").at 9]

theorem since_starts_outage_tempsensor1 :
    ∃ conn ∈ (exampleState.after exampleOutage).connections, ∃ device ∈ conn.devices,
      device.health = .problem "protocol error" ⟨5⟩ ∧
      (outage exampleState conn.id device.id [] exampleOutage).head?.map Prod.snd = some ⟨5⟩ := by
  have shown : (exampleState.after exampleOutage).health? "rs485-bus1" "tempsensor1" =
      some (.problem "protocol error" ⟨5⟩) := by
    decide +kernel
  obtain ⟨conn, member, _, _, device, listed, _, failing⟩ := StatusState.exists_of_health? shown
  have cut : Since (Resets exampleState conn.id device.id) exampleOutage [] exampleOutage :=
    (Since.nil.extend (by simp [Resets, StatusEvent.at])).extend (by simp [Resets, StatusEvent.at])
  exact ⟨conn, member, device, listed, failing,
    ((since_starts_outage exampleState_distinct exampleOutage member listed).1 _ _ failing _ _
      cut).1⟩

/-- A sensor that starts out failing keeps the time it first went bad, which no event of the
run gave it. -/
theorem since_kept_from_start :
    ∃ (state : StatusState) (events : List TimedEvent), state.Distinct ∧
      ¬∀ conn ∈ (state.after events).connections, ∀ device ∈ conn.devices,
        ∀ reason since, device.health = .problem reason since →
          ∀ before after, Since (Resets state conn.id device.id) events before after →
            (problemsOf conn.id device.id after).head?.map Prod.snd = some since := by
  let failing := exampleState.after
    [(StatusEvent.deviceProblem "rs485-bus1" "tempsensor1" "timeout").at 5]
  let again := [(StatusEvent.deviceProblem "rs485-bus1" "tempsensor1" "protocol error").at 9]
  refine ⟨failing, again, exampleState_distinct.after _, fun started => ?_⟩
  have shown : (failing.after again).health? "rs485-bus1" "tempsensor1" =
      some (.problem "protocol error" ⟨5⟩) := by
    decide +kernel
  obtain ⟨conn, member, id, _, device, listed, id', health⟩ := StatusState.exists_of_health? shown
  have cut : Since (Resets failing conn.id device.id) again [] again :=
    Since.nil.extend (by simp [Resets, StatusEvent.at])
  have since := started conn member device listed _ _ health _ _ cut
  rw [id, id'] at since
  exact absurd since (by decide)

end ModbusGateway
