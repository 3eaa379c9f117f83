import ModbusGateway.Foundation.Runs
import ModbusGateway.Status.History
import ModbusGateway.Status.Render
import ModbusGateway.Time

/-!
# The status writer

`run_loop` as a state machine. A step is one turn of its `select!`, with the
writing it does; what a write takes, and when a timer fires, is part of the
input. Adding to an instant panics past the clock's last one, which ends the
loop. Of the local variables only the state outlives it.
-/
namespace ModbusGateway

open Foundation

inductive WriterPhase where
  -- Before the first write.
  | starting
  | selecting (nextHeartbeat : Instant) (pending : Option Instant)
  | returned
  | panicked
  deriving DecidableEq

structure StatusWriter where
  state : StatusState
  phase : WriterPhase
  deriving DecidableEq

/-- What ends an await: with the wall clock for `now_utc`, and the monotonic clock for
`Instant::now` where the loop reads it. -/
inductive WriterInput where
  | started (utc : OffsetDateTime) (written : Instant)
  | event (event : StatusEvent) (utc : OffsetDateTime) (now : Instant)
  | closed (utc : OffsetDateTime)
  | timer (fired : Instant) (utc : OffsetDateTime) (written : Instant)

/-- A text handed to `write`, with the time it was rendered for. -/
structure StatusWrite where
  utc : OffsetDateTime
  text : String
  deriving DecidableEq

/-- When the timer of the loop is due. -/
def deadline (nextHeartbeat : Instant) : Option Instant → Instant
  | none => nextHeartbeat
  | some pending => if pending.nanos ≤ nextHeartbeat.nanos then pending else nextHeartbeat

/-- The phase after a write, with the time of the next one. -/
def rearmed (heartbeat : Duration) (written : Instant) : WriterPhase :=
  match Instant.add? .latest written heartbeat with
  | some nextHeartbeat => .selecting nextHeartbeat none
  | none => .panicked

/-- The time that the turn sets, if it sets one, lies past the clock's end. -/
def WriterInput.Overflows (debounce heartbeat : Duration) : WriterInput → Prop
  | .started _ written | .timer _ _ written => Instant.add? .latest written heartbeat = none
  | .event _ _ now => Instant.add? .latest now debounce = none
  | .closed _ => False

theorem rearmed_cases (heartbeat : Duration) (written : Instant) :
    (∃ nextHeartbeat, Instant.add? .latest written heartbeat = some nextHeartbeat ∧
      rearmed heartbeat written = .selecting nextHeartbeat none) ∨
    Instant.add? .latest written heartbeat = none ∧ rearmed heartbeat written = .panicked := by
  unfold rearmed
  cases Instant.add? .latest written heartbeat with
  | some nextHeartbeat => exact .inl ⟨nextHeartbeat, rfl, rfl⟩
  | none => exact .inr ⟨rfl, rfl⟩

namespace StatusWriter

section

variable (formatUtc : OffsetDateTime → TimeFormat → String) (debounce heartbeat : Duration)

/-- Writing the current state, and the phase that follows. -/
def write (writer : StatusWriter) (utc : OffsetDateTime) (phase : WriterPhase) :
    StatusWriter × Option StatusWrite :=
  match renderStatus formatUtc writer.state utc with
  | some text => ({ writer with phase }, some ⟨utc, text⟩)
  | none => ({ writer with phase := .panicked }, none)

/-- One turn of the loop; no result where the input does not fit. -/
def next (writer : StatusWriter) (input : WriterInput) :
    Option (StatusWriter × Option StatusWrite) :=
  match writer.phase, input with
  | .starting, .started utc written =>
    some (writer.write formatUtc utc (rearmed heartbeat written))
  | .selecting nextHeartbeat pending, .event event utc now =>
    let (state, changed) := writer.state.apply event utc
    -- The write is due a debounce after the oldest change that is not written.
    if changed && pending.isNone then
      match Instant.add? .latest now debounce with
      | some due => some (⟨state, .selecting nextHeartbeat (some due)⟩, none)
      | none => some (⟨state, .panicked⟩, none)
    else some (⟨state, .selecting nextHeartbeat pending⟩, none)
  | .selecting _ pending, .closed utc =>
    if pending.isSome then some (writer.write formatUtc utc .returned)
    else some ({ writer with phase := .returned }, none)
  | .selecting nextHeartbeat pending, .timer fired utc written =>
    if (deadline nextHeartbeat pending).nanos ≤ fired.nanos then
      some (writer.write formatUtc utc (rearmed heartbeat written))
    else none
  | _, _ => none

/-- Turns labelled with their input and what they write. -/
def Step (writer : StatusWriter) (event : WriterInput × Option StatusWrite)
    (writer' : StatusWriter) : Prop :=
  writer.next formatUtc debounce heartbeat event.1 = some (writer', event.2)

/-- Every way the writer can move. A write never panics, so it shows the state it is of. -/
inductive Moves : StatusWriter → WriterInput → StatusWriter → Option StatusWrite → Prop where
  | started (state : StatusState) (utc : OffsetDateTime) (written : Instant) (text : String)
      (rendered : renderStatus formatUtc state utc = some text) :
      Moves ⟨state, .starting⟩ (.started utc written) ⟨state, rearmed heartbeat written⟩
        (some ⟨utc, text⟩)
  | unchanged (state : StatusState) (nextHeartbeat : Instant) (pending : Option Instant)
      (event : StatusEvent) (utc : OffsetDateTime) (now : Instant)
      (same : (state.apply event utc).1 = state) :
      Moves ⟨state, .selecting nextHeartbeat pending⟩ (.event event utc now)
        ⟨state, .selecting nextHeartbeat pending⟩ none
  | changed (state : StatusState) (nextHeartbeat : Instant) (pending : Option Instant)
      (event : StatusEvent) (utc : OffsetDateTime) (now due : Instant)
      (flag : (state.apply event utc).2 = true)
      (armed : (pending <|> Instant.add? .latest now debounce) = some due) :
      Moves ⟨state, .selecting nextHeartbeat pending⟩ (.event event utc now)
        ⟨(state.apply event utc).1, .selecting nextHeartbeat (some due)⟩ none
  | overflowed (state : StatusState) (nextHeartbeat : Instant) (event : StatusEvent)
      (utc : OffsetDateTime) (now : Instant) (flag : (state.apply event utc).2 = true)
      (beyond : Instant.add? .latest now debounce = none) :
      Moves ⟨state, .selecting nextHeartbeat none⟩ (.event event utc now)
        ⟨(state.apply event utc).1, .panicked⟩ none
  | flushed (state : StatusState) (nextHeartbeat pending : Instant) (utc : OffsetDateTime)
      (text : String) (rendered : renderStatus formatUtc state utc = some text) :
      Moves ⟨state, .selecting nextHeartbeat (some pending)⟩ (.closed utc) ⟨state, .returned⟩
        (some ⟨utc, text⟩)
  | closed (state : StatusState) (nextHeartbeat : Instant) (utc : OffsetDateTime) :
      Moves ⟨state, .selecting nextHeartbeat none⟩ (.closed utc) ⟨state, .returned⟩ none
  | timer (state : StatusState) (nextHeartbeat : Instant) (pending : Option Instant)
      (fired : Instant) (utc : OffsetDateTime) (written : Instant) (text : String)
      (due : (deadline nextHeartbeat pending).nanos ≤ fired.nanos)
      (rendered : renderStatus formatUtc state utc = some text) :
      Moves ⟨state, .selecting nextHeartbeat pending⟩ (.timer fired utc written)
        ⟨state, rearmed heartbeat written⟩ (some ⟨utc, text⟩)

variable {formatUtc debounce heartbeat}

theorem moves_of_next {writer writer' : StatusWriter} {input : WriterInput}
    {write : Option StatusWrite}
    (moved : writer.next formatUtc debounce heartbeat input = some (writer', write)) :
    Moves formatUtc debounce heartbeat writer input writer' write := by
  obtain ⟨state, phase⟩ := writer
  unfold next at moved
  split at moved
  next utc written at_phase =>
    cases at_phase
    obtain ⟨text, rendered⟩ := exists_renderStatus formatUtc state utc
    simp only [StatusWriter.write, rendered] at moved
    cases moved
    exact .started state utc written text rendered
  next nextHeartbeat pending event utc now at_phase =>
    cases at_phase
    cases flag : (state.apply event utc).2 with
    | false =>
      have same := state.apply_unchanged event utc flag
      simp only [flag, same, Bool.false_and] at moved
      cases moved
      exact .unchanged state nextHeartbeat pending event utc now same
    | true =>
      cases pending with
      | some due =>
        simp only [flag, Bool.true_and, Option.isNone_some] at moved
        cases moved
        exact .changed state nextHeartbeat (some due) event utc now due flag rfl
      | none =>
        cases sum : Instant.add? .latest now debounce with
        | some due =>
          simp only [flag, Bool.true_and, Option.isNone_none, if_true, sum] at moved
          cases moved
          exact .changed state nextHeartbeat none event utc now due flag sum
        | none =>
          simp only [flag, Bool.true_and, Option.isNone_none, if_true, sum] at moved
          cases moved
          exact .overflowed state nextHeartbeat event utc now flag sum
  next nextHeartbeat pending utc at_phase =>
    cases at_phase
    cases pending with
    | none => cases moved; exact .closed state nextHeartbeat utc
    | some pending =>
      obtain ⟨text, rendered⟩ := exists_renderStatus formatUtc state utc
      simp only [StatusWriter.write, rendered] at moved
      cases moved
      exact .flushed state nextHeartbeat pending utc text rendered
  next nextHeartbeat pending fired utc written at_phase =>
    cases at_phase
    split at moved
    next due =>
      obtain ⟨text, rendered⟩ := exists_renderStatus formatUtc state utc
      simp only [StatusWriter.write, rendered] at moved
      cases moved
      exact .timer state nextHeartbeat pending fired utc written text due rendered
    next => cases moved
  next => cases moved

/-! ### What is on the file -/

/-- `run_loop` before its first write. -/
def start (state : StatusState) : StatusWriter := ⟨state, .starting⟩

def eventOf : WriterInput → Option TimedEvent
  | .event event utc _ => some ⟨event, utc⟩
  | _ => none

/-- The events received, each with the time it was applied at. -/
def received (log : List (WriterInput × Option StatusWrite)) : List TimedEvent :=
  log.filterMap fun turn => eventOf turn.1

/-- The last text handed to `write`. -/
def lastWrite (log : List (WriterInput × Option StatusWrite)) : Option StatusWrite :=
  (log.filterMap Prod.snd).getLast?

theorem received_snoc (log : List (WriterInput × Option StatusWrite)) (input : WriterInput)
    (write : Option StatusWrite) :
    received (log ++ [(input, write)]) = received log ++ (eventOf input).toList := by
  rw [received, List.filterMap_append]
  cases found : eventOf input <;> simp [received, found]

theorem lastWrite_snoc (log : List (WriterInput × Option StatusWrite)) (input : WriterInput)
    (write : Option StatusWrite) :
    lastWrite (log ++ [(input, write)]) = (write <|> lastWrite log) := by
  rw [lastWrite, List.filterMap_append]
  cases write <;> simp [lastWrite]

variable (formatUtc) in
/-- The last text written is that of a state, for the time it was written at. -/
def Shows (log : List (WriterInput × Option StatusWrite)) (state : StatusState) : Prop :=
  ∃ write, lastWrite log = some write ∧ renderStatus formatUtc state write.utc = some write.text

variable (formatUtc) in
/-- The last text shows the current state, unless a write of it is due. -/
def Synced (log : List (WriterInput × Option StatusWrite)) (writer : StatusWriter) : Prop :=
  match writer.phase with
  | .starting | .selecting _ (some _) | .panicked => True
  | .selecting _ none | .returned => Shows formatUtc log writer.state

theorem shows_snoc_of_write {state : StatusState} {utc : OffsetDateTime} {text : String}
    (rendered : renderStatus formatUtc state utc = some text)
    (log : List (WriterInput × Option StatusWrite)) (input : WriterInput) :
    Shows formatUtc (log ++ [(input, some ⟨utc, text⟩)]) state :=
  ⟨⟨utc, text⟩, by rw [lastWrite_snoc]; rfl, rendered⟩

theorem shows_snoc {state : StatusState} {log : List (WriterInput × Option StatusWrite)}
    (shown : Shows formatUtc log state) (input : WriterInput) :
    Shows formatUtc (log ++ [(input, none)]) state := by
  obtain ⟨write, last, rendered⟩ := shown
  exact ⟨write, by rw [lastWrite_snoc, last]; rfl, rendered⟩

/-- The text of a write is on the file however the loop goes on. -/
theorem synced_rearmed {log : List (WriterInput × Option StatusWrite)} {state : StatusState}
    (shown : Shows formatUtc log state) (written : Instant) :
    Synced formatUtc log ⟨state, rearmed heartbeat written⟩ := by
  rcases rearmed_cases heartbeat written with ⟨_, _, same⟩ | ⟨_, same⟩
  · rw [same]
    exact shown
  · rw [same]
    exact trivial

theorem Moves.synced {writer writer' : StatusWriter} {input : WriterInput}
    {write : Option StatusWrite}
    (moves : Moves formatUtc debounce heartbeat writer input writer' write)
    {log : List (WriterInput × Option StatusWrite)} (before : Synced formatUtc log writer) :
    Synced formatUtc (log ++ [(input, write)]) writer' := by
  cases moves with
  | started state utc written text rendered =>
    exact synced_rearmed (shows_snoc_of_write rendered log _) written
  | flushed state nextHeartbeat pending utc text rendered =>
    exact shows_snoc_of_write rendered log _
  | timer state nextHeartbeat pending fired utc written text due rendered =>
    exact synced_rearmed (shows_snoc_of_write rendered log _) written
  | changed | overflowed => trivial
  | closed state => exact shows_snoc before _
  | unchanged state nextHeartbeat pending =>
    cases pending with
    | some => trivial
    | none => exact shows_snoc before _

/-- The state is what the events received make of the first one. -/
theorem Moves.state_eq {writer writer' : StatusWriter} {input : WriterInput}
    {write : Option StatusWrite}
    (moves : Moves formatUtc debounce heartbeat writer input writer' write) :
    writer'.state = writer.state.after (eventOf input).toList := by
  cases moves with
  | started | flushed | closed | timer | changed | overflowed => rfl
  | unchanged state nextHeartbeat pending event utc now same => exact same.symm

theorem state_of_run {state : StatusState} {log : List (WriterInput × Option StatusWrite)}
    {writer : StatusWriter}
    (run : Run (Step formatUtc debounce heartbeat) (start state) log writer) :
    writer.state = state.after (received log) :=
  Run.history (fun log writer => writer.state = state.after (received log)) rfl
    (fun log writer event writer' held moved => by
      rw [received_snoc, StatusState.after_append, ← held]
      exact (moves_of_next moved).state_eq) run

/-- Only the clock's end makes the loop panic. -/
theorem Moves.panicked {writer writer' : StatusWriter} {input : WriterInput}
    {write : Option StatusWrite}
    (moves : Moves formatUtc debounce heartbeat writer input writer' write)
    (panicked : writer'.phase = .panicked) : input.Overflows debounce heartbeat := by
  have rearms {written : Instant} (panicked : rearmed heartbeat written = .panicked) :
      Instant.add? .latest written heartbeat = none := by
    rcases rearmed_cases heartbeat written with ⟨_, _, same⟩ | ⟨beyond, _⟩
    · rw [same] at panicked
      cases panicked
    · exact beyond
  cases moves with
  | started => exact rearms panicked
  | timer => exact rearms panicked
  | overflowed _ _ _ _ _ _ beyond => exact beyond
  | unchanged | changed | flushed | closed => cases panicked

theorem overflows_of_panicked {state : StatusState}
    {log : List (WriterInput × Option StatusWrite)} {writer : StatusWriter}
    (run : Run (Step formatUtc debounce heartbeat) (start state) log writer)
    (panicked : writer.phase = .panicked) :
    ∃ turn ∈ log, turn.1.Overflows debounce heartbeat := by
  cases run with
  | refl => cases panicked
  | @snoc before _ log turn earlier moved =>
    exact ⟨turn, List.mem_append_right _ List.mem_cons_self,
      (moves_of_next moved).panicked panicked⟩

/-- No change is lost: with no write pending the last text written shows the current state,
and once the loop has returned it shows the state that all events received lead to. It
returns or goes on unless a time to write at lies past the clock's end. -/
theorem last_write_shows_state {state : StatusState}
    {log : List (WriterInput × Option StatusWrite)} {writer : StatusWriter}
    (run : Run (Step formatUtc debounce heartbeat) (start state) log writer) :
    (writer.phase = .panicked → ∃ turn ∈ log, turn.1.Overflows debounce heartbeat) ∧
    (∀ nextHeartbeat, writer.phase = .selecting nextHeartbeat none →
      Shows formatUtc log writer.state) ∧
    (writer.phase = .returned → Shows formatUtc log (state.after (received log))) := by
  have replayed := state_of_run run
  have starting : Synced formatUtc [] (start state) := trivial
  have synced : Synced formatUtc log writer :=
    Run.history (Synced formatUtc) starting
      (fun log writer event writer' held moved => (moves_of_next moved).synced held) run
  unfold Synced at synced
  refine ⟨overflows_of_panicked run, fun nextHeartbeat selecting => ?_, fun returned => ?_⟩
  · rwa [selecting] at synced
  · rwa [returned, replayed] at synced

/-- A change that is still to be written when the channel closes is written before the loop
returns. -/
theorem last_write_shows_state_on_close :
    ∃ (log : List (WriterInput × Option StatusWrite)) (writer : StatusWriter),
      Run (Step (fun _ _ => "now") (.fromSecs 2) (.fromSecs 30)) (start exampleState) log writer ∧
      writer.phase = .returned ∧ received log = [StatusEvent.mqttConnected.at 5] ∧
      Shows (fun _ _ => "now") log (exampleState.after (received log)) := by
  let connected := (exampleState.apply .mqttConnected ⟨5⟩).1
  obtain ⟨first, rendered⟩ := exists_renderStatus (fun _ _ => "now") exampleState ⟨0⟩
  obtain ⟨last, rendered'⟩ := exists_renderStatus (fun _ _ => "now") connected ⟨7⟩
  have starts : Step (fun _ _ => "now") (.fromSecs 2) (.fromSecs 30) (start exampleState)
      (.started ⟨0⟩ ⟨0⟩, some ⟨⟨0⟩, first⟩) ⟨exampleState, .selecting ⟨30 * 10 ^ 9⟩ none⟩ := by
    simp only [Step, next, start, StatusWriter.write, rendered]
    rfl
  have changes : Step (fun _ _ => "now") (.fromSecs 2) (.fromSecs 30)
      ⟨exampleState, .selecting ⟨30 * 10 ^ 9⟩ none⟩ (.event .mqttConnected ⟨5⟩ ⟨0⟩, none)
      ⟨connected, .selecting ⟨30 * 10 ^ 9⟩ (some ⟨2 * 10 ^ 9⟩)⟩ := rfl
  have closes : Step (fun _ _ => "now") (.fromSecs 2) (.fromSecs 30)
      ⟨connected, .selecting ⟨30 * 10 ^ 9⟩ (some ⟨2 * 10 ^ 9⟩)⟩
      (.closed ⟨7⟩, some ⟨⟨7⟩, last⟩) ⟨connected, .returned⟩ := by
    simp only [Step, next, StatusWriter.write, rendered']
    rfl
  have run := (Run.single starts).append ((Run.single changes).append (Run.single closes))
  exact ⟨_, _, run, rfl, rfl, (last_write_shows_state run).2.2 rfl⟩

end

end StatusWriter

end ModbusGateway
