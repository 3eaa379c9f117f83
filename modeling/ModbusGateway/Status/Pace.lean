import ModbusGateway.Foundation.Since
import ModbusGateway.Status.Display
import ModbusGateway.Status.Writer

/-!
# The pace of the status writes

How `run_loop` arms its timer. What a turn does to the phase depends on the state
only through whether the event shows, so the timer is a machine of its own: it is
due a heartbeat after the last write, or a debounce after the first change since
then if that is earlier.
-/
namespace ModbusGateway

open Foundation

/-- A turn of `run_loop` with the text it handed to `write`. -/
abbrev WriterTurn := WriterInput × Option StatusWrite

namespace WriterInput

/-- What a turn reads from the monotonic clock, in order. -/
def readings : WriterInput → List Instant
  | .started _ written => [written]
  | .event _ _ now => [now]
  | .closed _ => []
  | .timer fired _ written => [fired, written]

/-- When a write is under way, as far as the loop reads the clock for it. -/
def begun : WriterInput → Option Instant
  | .timer fired _ _ => some fired
  | _ => none

/-- When a write is done. -/
def completed : WriterInput → Option Instant
  | .started _ written | .timer _ _ written => some written
  | _ => none

end WriterInput

namespace StatusWriter

/-- The clock never goes back. -/
def OnTime (log : List WriterTurn) : Prop :=
  ((log.flatMap fun turn => turn.1.readings).map Instant.nanos).Pairwise (· ≤ ·)

theorem OnTime.le {before later : List WriterTurn} {turn turn' : WriterTurn}
    (clock : OnTime (before ++ turn :: later)) (member : turn' ∈ later) {time time' : Instant}
    (read : time ∈ turn.1.readings) (read' : time' ∈ turn'.1.readings) :
    time.nanos ≤ time'.nanos := by
  rw [OnTime, List.flatMap_append, List.flatMap_cons, List.map_append, List.map_append,
    List.pairwise_append, List.pairwise_append] at clock
  apply clock.2.1.2.2 _ (List.mem_map_of_mem read)
  exact List.mem_map_of_mem (List.mem_flatMap.mpr ⟨turn', member, read'⟩)

theorem mem_readings_of_completed {input : WriterInput} {completed : Instant}
    (done : input.completed = some completed) : completed ∈ input.readings := by
  cases input <;> simp_all [WriterInput.completed, WriterInput.readings]

/-- A log cut behind its last write, with the time at which that was done. -/
structure LastWrite (log written unwritten : List WriterTurn) (completed : Instant) : Prop where
  since : Since (fun _ turn => turn.2.isSome) log written unwritten
  done : ∃ earlier turn, written = earlier ++ [turn] ∧ turn.1.completed = some completed

theorem LastWrite.restart {log : List WriterTurn} {input : WriterInput} {write : StatusWrite}
    {completed : Instant} (done : input.completed = some completed) :
    LastWrite (log ++ [(input, some write)]) (log ++ [(input, some write)]) [] completed where
  since := .restart rfl
  done := ⟨log, _, rfl, done⟩

theorem LastWrite.extend {log written unwritten : List WriterTurn} {completed : Instant}
    (last : LastWrite log written unwritten completed) (input : WriterInput) :
    LastWrite (log ++ [(input, none)]) written (unwritten ++ [(input, none)]) completed where
  since := last.since.extend (by simp)
  done := last.done

/-- A write and what follows it without another one are the only such cut. -/
theorem LastWrite.unique {before between written unwritten : List WriterTurn}
    {first : WriterTurn} {completed : Instant}
    (last : LastWrite (before ++ first :: between) written unwritten completed)
    (writes : first.2.isSome) (quiet : ∀ turn ∈ between, turn.2 = none) :
    written = before ++ [first] ∧ unwritten = between ∧ first.1.completed = some completed := by
  have cut : Since (fun _ turn => turn.2.isSome) (before ++ first :: between)
      (before ++ [first]) between :=
    ⟨by simp, .inr ⟨before, first, rfl, writes⟩, fun pre turn within => by
      have member : turn ∈ between := within.subset (by simp)
      simp [quiet turn member]⟩
  obtain ⟨rfl, rfl⟩ := last.since.unique cut
  obtain ⟨earlier, turn, same, done⟩ := last.done
  obtain ⟨_, shape⟩ := List.append_inj' same rfl
  cases shape
  exact ⟨rfl, rfl, done⟩

/-- What the timer does in a turn, given whether the event shows. -/
inductive Ticks (debounce heartbeat : Duration) (visible : Prop) :
    WriterPhase → WriterInput → Option StatusWrite → WriterPhase → Prop where
  | started (utc : OffsetDateTime) (written : Instant) (write : StatusWrite) :
      Ticks debounce heartbeat visible .starting (.started utc written) (some write)
        (rearmed heartbeat written)
  | calm (nextHeartbeat : Instant) (pending : Option Instant) (event : StatusEvent)
      (utc : OffsetDateTime) (now : Instant) (hidden : ¬ visible) :
      Ticks debounce heartbeat visible (.selecting nextHeartbeat pending) (.event event utc now)
        none (.selecting nextHeartbeat pending)
  | change (nextHeartbeat : Instant) (pending : Option Instant) (event : StatusEvent)
      (utc : OffsetDateTime) (now due : Instant) (shown : visible)
      (armed : (pending <|> Instant.add? .latest now debounce) = some due) :
      Ticks debounce heartbeat visible (.selecting nextHeartbeat pending) (.event event utc now)
        none (.selecting nextHeartbeat (some due))
  | overflowed (nextHeartbeat : Instant) (event : StatusEvent) (utc : OffsetDateTime)
      (now : Instant) :
      Ticks debounce heartbeat visible (.selecting nextHeartbeat none) (.event event utc now)
        none .panicked
  | flushed (nextHeartbeat pending : Instant) (utc : OffsetDateTime) (write : StatusWrite) :
      Ticks debounce heartbeat visible (.selecting nextHeartbeat (some pending)) (.closed utc)
        (some write) .returned
  | closed (nextHeartbeat : Instant) (utc : OffsetDateTime) :
      Ticks debounce heartbeat visible (.selecting nextHeartbeat none) (.closed utc) none .returned
  | timer (nextHeartbeat : Instant) (pending : Option Instant) (fired : Instant)
      (utc : OffsetDateTime) (written : Instant) (write : StatusWrite)
      (due : (deadline nextHeartbeat pending).nanos ≤ fired.nanos) :
      Ticks debounce heartbeat visible (.selecting nextHeartbeat pending)
        (.timer fired utc written) (some write) (rearmed heartbeat written)

section

variable (formatUtc : OffsetDateTime → TimeFormat → String)

/-- An event that changes the text of a state. -/
def Visible (state : StatusState) (input : WriterInput) : Prop :=
  ∃ event utc now, input = .event event utc now ∧
    ∃ shown, statusText formatUtc (state.apply event utc).1 shown ≠
      statusText formatUtc state shown

theorem visible_event_iff {state : StatusState} {event : StatusEvent} {utc : OffsetDateTime}
    {now : Instant} :
    Visible formatUtc state (.event event utc now) ↔ (state.apply event utc).2 = true := by
  constructor
  · rintro ⟨_, _, _, same, shown, different⟩
    cases same
    exact (changed_iff_statusText formatUtc state event utc shown).mpr different
  · intro changed
    exact ⟨event, utc, now, rfl, ⟨0⟩,
      (changed_iff_statusText formatUtc state event utc ⟨0⟩).mp changed⟩

variable {formatUtc} {debounce heartbeat : Duration}

theorem ticks_of_step {writer writer' : StatusWriter} {turn : WriterTurn}
    (moved : Step formatUtc debounce heartbeat writer turn writer') :
    Ticks debounce heartbeat (Visible formatUtc writer.state turn.1) writer.phase turn.1 turn.2
      writer'.phase := by
  obtain ⟨input, write⟩ := turn
  cases moves_of_next moved with
  | started state utc written text rendered => exact .started utc written _
  | flushed state nextHeartbeat pending utc text rendered => exact .flushed _ _ _ _
  | closed state nextHeartbeat utc => exact .closed _ _
  | timer state nextHeartbeat pending fired utc written text due rendered =>
    exact .timer _ _ _ _ _ _ due
  | unchanged state nextHeartbeat pending event utc now same =>
    apply Ticks.calm
    rintro ⟨_, _, _, shape, shown, different⟩
    cases shape
    exact different (by rw [same])
  | changed state nextHeartbeat pending event utc now due flag armed =>
    exact .change _ _ _ _ _ _ ((visible_event_iff formatUtc).mpr flag) armed
  | overflowed state nextHeartbeat event utc now => exact .overflowed _ _ _ _

variable (formatUtc)

/-- None of the turns shows, for a state that started as `state` and has seen those before. -/
def Calm (state : StatusState) (before turns : List WriterTurn) : Prop :=
  ∀ pre turn, pre ++ [turn] <+: turns →
    ¬ Visible formatUtc (state.after (received (before ++ pre))) turn.1

/-- The first of the turns that shows, with the time it was received at. -/
structure FirstChange (state : StatusState) (before turns : List WriterTurn) (now : Instant) :
    Prop where
  split : ∃ calm event utc later, turns = calm ++ (.event event utc now, none) :: later ∧
    Calm formatUtc state before calm ∧
    Visible formatUtc (state.after (received (before ++ calm))) (.event event utc now)

/-- Why the timer is armed as it is. -/
def Armed (debounce heartbeat : Duration) (state : StatusState) (log : List WriterTurn) :
    WriterPhase → Prop
  | .starting => log = []
  | .selecting nextHeartbeat pending =>
    ∃ written unwritten completed, LastWrite log written unwritten completed ∧
      nextHeartbeat.nanos = completed.nanos + heartbeat.nanos ∧
      match pending with
      | none => Calm formatUtc state written unwritten
      | some due => ∃ now, FirstChange formatUtc state written unwritten now ∧
        due.nanos = now.nanos + debounce.nanos
  | .returned | .panicked => True

variable {formatUtc} {state : StatusState} {log : List WriterTurn}

theorem Calm.snoc {before turns : List WriterTurn} {turn : WriterTurn}
    (calm : Calm formatUtc state before turns)
    (hidden : ¬ Visible formatUtc (state.after (received (before ++ turns))) turn.1) :
    Calm formatUtc state before (turns ++ [turn]) := by
  intro pre turn' within
  rcases List.prefix_concat_iff.mp within with last | earlier
  · obtain ⟨rfl, same⟩ := List.append_inj' last rfl
    cases same
    exact hidden
  · exact calm pre turn' earlier

theorem FirstChange.snoc {before turns : List WriterTurn} {now : Instant}
    (first : FirstChange formatUtc state before turns now) (turn : WriterTurn) :
    FirstChange formatUtc state before (turns ++ [turn]) now := by
  obtain ⟨calm, event, utc, later, rfl, quiet, shown⟩ := first.split
  exact ⟨calm, event, utc, later ++ [turn], by simp, quiet, shown⟩

/-- After a write the timer is armed a heartbeat ahead, if it is armed at all. -/
theorem armed_rearmed {input : WriterInput} {write : StatusWrite} {written : Instant}
    (done : input.completed = some written) :
    Armed formatUtc debounce heartbeat state (log ++ [(input, some write)])
      (rearmed heartbeat written) := by
  rcases rearmed_cases heartbeat written with ⟨nextHeartbeat, sum, same⟩ | ⟨_, same⟩
  · rw [same]
    refine ⟨_, [], written, .restart done, Instant.nanos_of_add? sum, fun pre turn within => ?_⟩
    simp at within
  · rw [same]
    exact trivial

theorem Ticks.armed {phase phase' : WriterPhase} {input : WriterInput}
    {write : Option StatusWrite}
    (ticks : Ticks debounce heartbeat (Visible formatUtc (state.after (received log)) input)
      phase input write phase')
    (armed : Armed formatUtc debounce heartbeat state log phase) :
    Armed formatUtc debounce heartbeat state (log ++ [(input, write)]) phase' := by
  cases ticks with
  | started utc written write => exact armed_rearmed rfl
  | timer nextHeartbeat pending fired utc written write due => exact armed_rearmed rfl
  | flushed | closed | overflowed => trivial
  | calm nextHeartbeat pending event utc now hidden =>
    obtain ⟨written, unwritten, completed, last, heartbeats, why⟩ := armed
    refine ⟨written, _, completed, last.extend _, heartbeats, ?_⟩
    rw [last.since.split] at hidden
    cases pending with
    | none => exact why.snoc hidden
    | some due =>
      obtain ⟨first, change, sum⟩ := why
      exact ⟨first, change.snoc _, sum⟩
  | change nextHeartbeat pending event utc now due shown sets =>
    obtain ⟨written, unwritten, completed, last, heartbeats, why⟩ := armed
    refine ⟨written, _, completed, last.extend _, heartbeats, ?_⟩
    rw [last.since.split] at shown
    cases pending with
    | none =>
      exact ⟨now, ⟨unwritten, event, utc, [], rfl, why, shown⟩, Instant.nanos_of_add? sets⟩
    | some pending =>
      -- A change after the first one leaves the time of the write where it is.
      obtain rfl := Option.some.inj sets
      obtain ⟨first, change, sum⟩ := why
      exact ⟨first, change.snoc _, sum⟩

theorem armed_of_run {writer : StatusWriter}
    (run : Run (Step formatUtc debounce heartbeat) (start state) log writer) :
    Armed formatUtc debounce heartbeat state log writer.phase := by
  induction run with
  | refl => exact rfl
  | snoc run moved ih =>
    have ticks := ticks_of_step moved
    rw [state_of_run run] at ticks
    exact ticks.armed ih

/-! ### The pace -/

theorem deadline_none (nextHeartbeat : Instant) : deadline nextHeartbeat none = nextHeartbeat := rfl

theorem nanos_deadline_some (nextHeartbeat pending : Instant) :
    (deadline nextHeartbeat (some pending)).nanos =
      min pending.nanos nextHeartbeat.nanos := by
  rw [deadline]
  split
  next sooner => exact (Nat.min_eq_left sooner).symm
  next later => exact (Nat.min_eq_right (by omega)).symm

/-- The timer is due a heartbeat after the last write at the latest, and a debounce after the
first change since then. -/
theorem deadline_of_armed {nextHeartbeat : Instant} {pending : Option Instant}
    (armed : Armed formatUtc debounce heartbeat state log (.selecting nextHeartbeat pending)) :
    ∃ written unwritten completed, LastWrite log written unwritten completed ∧
      (deadline nextHeartbeat pending).nanos ≤ completed.nanos + heartbeat.nanos ∧
      (Calm formatUtc state written unwritten ∨
        ∃ now, FirstChange formatUtc state written unwritten now ∧
          (deadline nextHeartbeat pending).nanos ≤ now.nanos + debounce.nanos) := by
  obtain ⟨written, unwritten, completed, last, heartbeats, why⟩ := armed
  refine ⟨written, unwritten, completed, last, ?_⟩
  cases pending with
  | none => exact ⟨by rw [deadline_none, heartbeats], .inl why⟩
  | some due =>
    obtain ⟨now, first, sum⟩ := why
    rw [nanos_deadline_some, heartbeats, sum]
    exact ⟨Nat.min_le_right _ _, .inr ⟨now, first, Nat.min_le_left _ _⟩⟩

/-- A timer that is due is so by the heartbeat or by the first change. -/
theorem apart_of_armed {before between : List WriterTurn} {first : WriterTurn}
    {nextHeartbeat fired : Instant} {pending : Option Instant}
    (armed : Armed formatUtc debounce heartbeat state (before ++ first :: between)
      (.selecting nextHeartbeat pending))
    (clock : OnTime (before ++ first :: between)) (writes : first.2.isSome)
    (quiet : ∀ turn ∈ between, turn.2 = none)
    (due : (deadline nextHeartbeat pending).nanos ≤ fired.nanos) :
    ∃ completed, first.1.completed = some completed ∧
      completed.nanos + min debounce.nanos heartbeat.nanos ≤ fired.nanos ∧
      (Calm formatUtc state (before ++ [first]) between →
        completed.nanos + heartbeat.nanos ≤ fired.nanos) := by
  obtain ⟨written, unwritten, completed, last, heartbeats, why⟩ := armed
  obtain ⟨rfl, rfl, done⟩ := last.unique writes quiet
  refine ⟨completed, done, ?_⟩
  cases pending with
  | none =>
    rw [deadline_none, heartbeats] at due
    exact ⟨by omega, fun _ => due⟩
  | some pending =>
    obtain ⟨now, ⟨calm, event, utc, later, rfl, _, shown⟩, sum⟩ := why
    -- The change was received after the write, so a debounce later is late enough.
    have received : completed.nanos ≤ now.nanos :=
      clock.le (List.mem_append_right calm List.mem_cons_self) (mem_readings_of_completed done)
        List.mem_cons_self
    rw [nanos_deadline_some, heartbeats, sum] at due
    constructor
    · omega
    · intro silent
      exact absurd shown (silent calm (.event event utc now, none) ⟨later, by simp⟩)

theorem not_step_returned {writer writer' : StatusWriter} {turn : WriterTurn}
    (returned : writer.phase = .returned) :
    ¬ Step formatUtc debounce heartbeat writer turn writer' := by
  intro moved
  have ticks := ticks_of_step moved
  rw [returned] at ticks
  cases ticks

/-- A write that the timer starts keeps its distance from the write before it. -/
theorem apart_of_run {writer : StatusWriter} {before between after : List WriterTurn}
    {first second : WriterTurn}
    (run : Run (Step formatUtc debounce heartbeat) (start state)
      (before ++ first :: (between ++ second :: after)) writer)
    (clock : OnTime (before ++ first :: (between ++ second :: after)))
    (writes : first.2.isSome) (quiet : ∀ turn ∈ between, turn.2 = none)
    (writes' : second.2.isSome) (other : ∀ utc, second.1 ≠ .closed utc) :
    ∃ completed begun, first.1.completed = some completed ∧ second.1.begun = some begun ∧
      completed.nanos + min debounce.nanos heartbeat.nanos ≤ begun.nanos ∧
      (Calm formatUtc state (before ++ [first]) between →
        completed.nanos + heartbeat.nanos ≤ begun.nanos) := by
  obtain ⟨input, write⟩ := second
  rw [← List.cons_append, ← List.append_assoc] at run clock
  obtain ⟨earlier, later, run, moved, _⟩ := run.step_at
  have armed := armed_of_run run
  have clock' : OnTime (before ++ first :: between) := by
    rw [OnTime, List.flatMap_append, List.map_append, List.pairwise_append] at clock
    exact clock.1
  have ticks := ticks_of_step moved
  generalize earlier.phase = phase at armed ticks
  generalize later.phase = phase' at ticks
  -- Of the turns that write, only the timer's is neither the first nor the one on close.
  cases ticks with
  | started => simp [Armed] at armed
  | calm | change | overflowed => cases writes'
  | flushed nextHeartbeat pending utc => exact absurd rfl (other utc)
  | closed nextHeartbeat utc => exact absurd rfl (other utc)
  | timer nextHeartbeat pending fired utc written write due =>
    obtain ⟨completed, done, apart⟩ := apart_of_armed armed clock' writes quiet due
    exact ⟨completed, fired, done, rfl, apart⟩

/-- The turn on close is the last, and it writes where a change waits. -/
theorem closed_last {writer : StatusWriter} {before after : List WriterTurn} {utc : OffsetDateTime}
    {write : Option StatusWrite}
    (run : Run (Step formatUtc debounce heartbeat) (start state)
      (before ++ ((.closed utc, write) : WriterTurn) :: after) writer) :
    after = [] ∧ (write.isSome →
      ∃ written unwritten completed now, LastWrite before written unwritten completed ∧
        FirstChange formatUtc state written unwritten now) := by
  obtain ⟨earlier, last, run, moved, rest⟩ := run.step_at
  have armed := armed_of_run run
  have ticks := ticks_of_step moved
  generalize earlier.phase = phase at armed ticks
  generalize returned : last.phase = phase' at ticks
  have silent : after = [] := by
    have done : last.phase = .returned := by
      cases ticks <;> exact returned
    cases after with
    | nil => rfl
    | cons turn after =>
      obtain ⟨_, moved', _⟩ := Run.cons_iff.mp rest
      exact absurd moved' (not_step_returned done)
  refine ⟨silent, ?_⟩
  intro writes
  cases ticks with
  | closed => cases writes
  | flushed nextHeartbeat pending =>
    obtain ⟨written, unwritten, completed, last, _, now, first, _⟩ := armed
    exact ⟨written, unwritten, completed, now, last, first⟩

/-- Writes are at least the shorter of debounce and heartbeat apart, and a heartbeat where
nothing showed between them; the timer is never armed for later than a heartbeat after the last
write or a debounce after the first change since then; and the write on close is the last. -/
theorem writes_paced {writer : StatusWriter}
    (run : Run (Step formatUtc debounce heartbeat) (start state) log writer)
    (clock : OnTime log) :
    (∀ before first between second after,
      log = before ++ first :: (between ++ second :: after) → first.2.isSome →
      (∀ turn ∈ between, turn.2 = none) → second.2.isSome → (∀ utc, second.1 ≠ .closed utc) →
      ∃ completed begun, first.1.completed = some completed ∧ second.1.begun = some begun ∧
        completed.nanos + min debounce.nanos heartbeat.nanos ≤ begun.nanos ∧
        (Calm formatUtc state (before ++ [first]) between →
          completed.nanos + heartbeat.nanos ≤ begun.nanos)) ∧
    (∀ nextHeartbeat pending, writer.phase = .selecting nextHeartbeat pending →
      ∃ written unwritten completed, LastWrite log written unwritten completed ∧
        (deadline nextHeartbeat pending).nanos ≤ completed.nanos + heartbeat.nanos ∧
        (Calm formatUtc state written unwritten ∨
          ∃ now, FirstChange formatUtc state written unwritten now ∧
            (deadline nextHeartbeat pending).nanos ≤ now.nanos + debounce.nanos)) ∧
    ∀ before utc write after, log = before ++ (.closed utc, write) :: after →
      after = [] ∧ (write.isSome →
        ∃ written unwritten completed now, LastWrite before written unwritten completed ∧
          FirstChange formatUtc state written unwritten now) := by
  refine ⟨?_, ?_, ?_⟩
  · rintro before first between second after rfl writes quiet writes' other
    exact apart_of_run run clock writes quiet writes' other
  · intro nextHeartbeat pending selecting
    have armed := armed_of_run run
    rw [selecting] at armed
    exact deadline_of_armed armed
  · rintro before utc write after rfl
    exact closed_last run

/-- A change after one second and another after two are written together after three. -/
theorem writes_paced_of_burst :
    ∃ (log : List WriterTurn) (writer : StatusWriter),
      Run (Step (fun _ _ => "now") (.fromSecs 2) (.fromSecs 30)) (start exampleState) log writer ∧
      OnTime log ∧
      ∃ first change change' second, log = [first, change, change', second] ∧
        first.2.isSome ∧ second.2.isSome ∧
        ∃ completed begun, first.1.completed = some completed ∧ second.1.begun = some begun ∧
          completed.nanos + 2 * 10 ^ 9 ≤ begun.nanos := by
  let connected := (exampleState.apply .mqttConnected ⟨1⟩).1
  let lost := (connected.apply .mqttDisconnected ⟨2⟩).1
  obtain ⟨first, rendered⟩ := exists_renderStatus (fun _ _ => "now") exampleState ⟨0⟩
  obtain ⟨last, rendered'⟩ := exists_renderStatus (fun _ _ => "now") lost ⟨3⟩
  have starts : Step (fun _ _ => "now") (.fromSecs 2) (.fromSecs 30) (start exampleState)
      (.started ⟨0⟩ ⟨0⟩, some ⟨⟨0⟩, first⟩) ⟨exampleState, .selecting ⟨30 * 10 ^ 9⟩ none⟩ := by
    simp only [Step, next, start, StatusWriter.write, rendered]
    rfl
  have changes : Step (fun _ _ => "now") (.fromSecs 2) (.fromSecs 30)
      ⟨exampleState, .selecting ⟨30 * 10 ^ 9⟩ none⟩ (.event .mqttConnected ⟨1⟩ ⟨10 ^ 9⟩, none)
      ⟨connected, .selecting ⟨30 * 10 ^ 9⟩ (some ⟨3 * 10 ^ 9⟩)⟩ := rfl
  have again : Step (fun _ _ => "now") (.fromSecs 2) (.fromSecs 30)
      ⟨connected, .selecting ⟨30 * 10 ^ 9⟩ (some ⟨3 * 10 ^ 9⟩)⟩
      (.event .mqttDisconnected ⟨2⟩ ⟨2 * 10 ^ 9⟩, none)
      ⟨lost, .selecting ⟨30 * 10 ^ 9⟩ (some ⟨3 * 10 ^ 9⟩)⟩ := rfl
  have fires : Step (fun _ _ => "now") (.fromSecs 2) (.fromSecs 30)
      ⟨lost, .selecting ⟨30 * 10 ^ 9⟩ (some ⟨3 * 10 ^ 9⟩)⟩
      (.timer ⟨3 * 10 ^ 9⟩ ⟨3⟩ ⟨3 * 10 ^ 9⟩, some ⟨⟨3⟩, last⟩)
      ⟨lost, .selecting ⟨33 * 10 ^ 9⟩ none⟩ := by
    simp only [Step, next, StatusWriter.write, rendered']
    rfl
  have run := Run.cons starts (Run.cons changes (Run.cons again (Run.single fires)))
  have clock : OnTime [(.started ⟨0⟩ ⟨0⟩, some ⟨⟨0⟩, first⟩),
      (.event .mqttConnected ⟨1⟩ ⟨10 ^ 9⟩, none),
      (.event .mqttDisconnected ⟨2⟩ ⟨2 * 10 ^ 9⟩, none),
      (.timer ⟨3 * 10 ^ 9⟩ ⟨3⟩ ⟨3 * 10 ^ 9⟩, some ⟨⟨3⟩, last⟩)] := by
    simp [OnTime, WriterInput.readings]
  obtain ⟨completed, begun, done, begins, apart, _⟩ := (writes_paced run clock).1 []
    (.started ⟨0⟩ ⟨0⟩, some ⟨⟨0⟩, first⟩)
    [(.event .mqttConnected ⟨1⟩ ⟨10 ^ 9⟩, none), (.event .mqttDisconnected ⟨2⟩ ⟨2 * 10 ^ 9⟩, none)]
    (.timer ⟨3 * 10 ^ 9⟩ ⟨3⟩ ⟨3 * 10 ^ 9⟩, some ⟨⟨3⟩, last⟩) [] rfl rfl (by simp) rfl (by simp)
  exact ⟨_, _, run, clock, _, _, _, _, rfl, rfl, rfl, completed, begun, done, begins, apart⟩

end

end StatusWriter

end ModbusGateway
