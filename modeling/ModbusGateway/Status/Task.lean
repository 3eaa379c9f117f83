import ModbusGateway.Foundation.Simulation
import ModbusGateway.Status.AtomicWrite
import ModbusGateway.Status.Writer

/-!
# The status task and its file

`run_status_writer`: the loop that decides when to write, and `write_atomic`,
which it awaits. A write that fails is only logged. The machine may stop at any
point; the task is then started again with a fresh state, on what the disk kept.
-/
namespace ModbusGateway

open Foundation

/-- What is handed to `write_atomic`. -/
def StatusWrite.bytes (write : StatusWrite) : List UInt8 := write.text.toUTF8.data.toList

structure StatusTask where
  writer : StatusWriter
  file : StatusFile

inductive StatusTaskEvent where
  | turn (input : WriterInput) (write : Option StatusWrite)
  | progressed
  | returned (contents : List UInt8) (result : Except IoError Unit)
  | restarted

/-- What an event is to the file. -/
def StatusTaskEvent.file? : StatusTaskEvent → Option StatusFileEvent
  | .turn _ write => write.map fun write => .begun write.bytes
  | .progressed => some .progressed
  | .returned contents result => some (.returned contents result)
  | .restarted => some .crashed

namespace StatusTask

section

variable (path : Path) (formatUtc : OffsetDateTime → TimeFormat → String)
  (debounce heartbeat : Duration) (state : StatusState)

inductive Step : StatusTask → StatusTaskEvent → StatusTask → Prop where
  -- The loop goes on when `write_atomic` has returned.
  | turn (writer writer' : StatusWriter) (fs : FileSystem Path) (input : WriterInput)
      (write : Option StatusWrite)
      (moved : writer.Step formatUtc debounce heartbeat (input, write) writer') :
      Step ⟨writer, ⟨fs, none⟩⟩ (.turn input write)
        ⟨writer', ⟨fs, write.map fun write => ⟨write.bytes, .create⟩⟩⟩
  | progressed (writer : StatusWriter) (file file' : StatusFile)
      (moved : StatusFile.Step path file .progressed file') :
      Step ⟨writer, file⟩ .progressed ⟨writer, file'⟩
  -- The result of a write is logged and otherwise ignored.
  | returned (writer : StatusWriter) (file file' : StatusFile) (contents : List UInt8)
      (result : Except IoError Unit)
      (moved : StatusFile.Step path file (.returned contents result) file') :
      Step ⟨writer, file⟩ (.returned contents result) ⟨writer, file'⟩
  | restarted (task : StatusTask) (fs' : FileSystem Path)
      (crash : FileSystem.Crash task.file.fs fs') :
      Step task .restarted ⟨.start state, ⟨fs', none⟩⟩

/-- The task as it is spawned. -/
def start (fs : FileSystem Path) : StatusTask := ⟨.start state, ⟨fs, none⟩⟩

end

/-- The turns of the loop since the task was last started. -/
def turnsSince (log : List StatusTaskEvent) : List (WriterInput × Option StatusWrite) :=
  log.foldl (fun turns event =>
    match event with
    | .turn input write => turns ++ [(input, write)]
    | .progressed | .returned .. => turns
    | .restarted => []) []

/-- How the last write since then ended. -/
def lastResult (log : List StatusTaskEvent) : Option (Except IoError Unit) :=
  log.foldl (fun last event =>
    match event with
    | .turn .. | .progressed => last
    | .returned _ result => some result
    | .restarted => none) none

theorem turnsSince_snoc (log : List StatusTaskEvent) (event : StatusTaskEvent) :
    turnsSince (log ++ [event]) =
      match event with
      | .turn input write => turnsSince log ++ [(input, write)]
      | .progressed | .returned .. => turnsSince log
      | .restarted => [] := by
  simp [turnsSince]

theorem mem_of_mem_turnsSince {log : List StatusTaskEvent}
    {turn : WriterInput × Option StatusWrite} (member : turn ∈ turnsSince log) :
    .turn turn.1 turn.2 ∈ log := by
  induction log using List.reverseRecOn with
  | nil => cases member
  | append_singleton log event ih =>
    rw [turnsSince_snoc] at member
    rw [List.mem_append, List.mem_singleton]
    cases event with
    | turn input write =>
      rcases List.mem_append.mp member with earlier | last
      · exact .inl (ih earlier)
      · rw [List.mem_singleton.mp last]
        exact .inr rfl
    | progressed | returned => exact .inl (ih member)
    | restarted => cases member

theorem lastResult_snoc (log : List StatusTaskEvent) (event : StatusTaskEvent) :
    lastResult (log ++ [event]) =
      match event with
      | .turn .. | .progressed => lastResult log
      | .returned _ result => some result
      | .restarted => none := by
  simp [lastResult]

/-! ### The file's part -/

variable {path : Path} {formatUtc : OffsetDateTime → TimeFormat → String}
  {debounce heartbeat : Duration} {state : StatusState}

theorem simulates_file :
    Simulation (Step path formatUtc debounce heartbeat state) (StatusFile.Step path)
      StatusTaskEvent.file? (fun task file => file = task.file) := by
  rintro task event task' file rfl moved
  cases moved with
  | turn writer writer' fs input write =>
    cases write with
    | none => exact ⟨_, .refl _, rfl⟩
    | some write => exact ⟨_, Run.single (.begun fs write.bytes), rfl⟩
  | progressed writer file file' moved => exact ⟨_, Run.single moved, rfl⟩
  | returned writer file file' contents result moved => exact ⟨_, Run.single moved, rfl⟩
  | restarted task fs' crash => exact ⟨_, Run.single (.crashed _ fs' _ crash), rfl⟩

/-! ### The loop's part -/

/-- Since its last start the loop has made a run of its own. -/
theorem writer_run {fs : FileSystem Path} {log : List StatusTaskEvent} {task : StatusTask}
    (run : Run (Step path formatUtc debounce heartbeat state) (start state fs) log task) :
    Run (StatusWriter.Step formatUtc debounce heartbeat) (.start state) (turnsSince log)
      task.writer := by
  refine run.history (fun log task => Run (StatusWriter.Step formatUtc debounce heartbeat)
    (.start state) (turnsSince log) task.writer) (.refl _)
    fun log task event task' earlier moved => ?_
  rw [turnsSince_snoc]
  cases moved with
  | turn writer writer' fs input write moved => exact .snoc earlier moved
  | progressed | returned => exact earlier
  | restarted => exact .refl _

theorem rendered_of_moves {writer writer' : StatusWriter} {input : WriterInput}
    {write : StatusWrite}
    (moves : StatusWriter.Moves formatUtc debounce heartbeat writer input writer' (some write)) :
    renderStatus formatUtc writer'.state write.utc = some write.text := by
  cases moves with
  | started _ _ _ _ rendered => exact rendered
  | flushed _ _ _ _ _ rendered => exact rendered
  | timer _ _ _ _ _ _ _ _ rendered => exact rendered

/-- A text handed to `write` is that of a state the loop was in. -/
theorem rendered_of_write {log : List (WriterInput × Option StatusWrite)} {writer : StatusWriter}
    (run : Run (StatusWriter.Step formatUtc debounce heartbeat) (.start state) log writer)
    {write : StatusWrite} (written : StatusWriter.lastWrite log = some write) :
    ∃ before, before <+: log ∧
      renderStatus formatUtc (state.after (StatusWriter.received before)) write.utc =
        some write.text := by
  induction run with
  | refl => cases written
  | @snoc writer writer' log turn first moved ih =>
    obtain ⟨input, now⟩ := turn
    rw [StatusWriter.lastWrite_snoc] at written
    cases now with
    | none =>
      obtain ⟨before, earlier, rendered⟩ := ih written
      exact ⟨before, earlier.trans (List.prefix_append _ _), rendered⟩
    | some now =>
      obtain rfl := Option.some.inj written
      refine ⟨log ++ [(input, some now)], List.prefix_rfl, ?_⟩
      rw [← StatusWriter.state_of_run (.snoc first moved)]
      exact rendered_of_moves (StatusWriter.moves_of_next moved)

/-- The last write since the start is the one under way, or the one whose result came last. -/
structure Landed (path : Path) (log : List StatusTaskEvent) (task : StatusTask) : Prop where
  ready : StatusFile.Ready path task.file
  underway : ∀ call, task.file.call = some call →
    ∃ write, StatusWriter.lastWrite (turnsSince log) = some write ∧ call.contents = write.bytes
  succeeded : task.file.call = none → lastResult log = some (.ok ()) →
    ∃ write, StatusWriter.lastWrite (turnsSince log) = some write ∧
      task.file.fs.read path = some write.bytes

theorem Landed.step {log : List StatusTaskEvent} {task task' : StatusTask}
    {event : StatusTaskEvent} (landed : Landed path log task)
    (moved : Step path formatUtc debounce heartbeat state task event task') :
    Landed path (log ++ [event]) task' := by
  obtain ⟨ready, underway, succeeded⟩ := landed
  have turns := turnsSince_snoc log event
  have last := lastResult_snoc log event
  cases moved with
  | turn writer writer' fs input write moved =>
    cases write with
    | none =>
      have same : StatusWriter.lastWrite (turnsSince (log ++ [.turn input none])) =
          StatusWriter.lastWrite (turnsSince log) := by
        rw [turns, StatusWriter.lastWrite_snoc]
        rfl
      refine ⟨nofun, nofun, fun idle success => ?_⟩
      rw [same]
      exact succeeded rfl (last.symm.trans success)
    | some write =>
      have now : StatusWriter.lastWrite (turnsSince (log ++ [.turn input (some write)])) =
          some write := by
        rw [turns, StatusWriter.lastWrite_snoc]
        rfl
      refine ⟨?_, ?_, nofun⟩
      · rintro call ⟨⟩
        trivial
      · rintro call ⟨⟩
        exact ⟨write, now, rfl⟩
  | progressed writer file file' moved =>
    have ready' := moved.ready ready
    cases moved with
    | progressed fs fs' contents phase phase' answer moved =>
      refine ⟨ready', ?_, nofun⟩
      rintro call ⟨⟩
      rw [turns]
      exact underway ⟨contents, phase⟩ rfl
  | returned writer file file' contents result moved =>
    have ready' := moved.ready ready
    cases moved with
    | returned fs fs' contents phase answer result moved =>
      obtain ⟨write, latest, same⟩ := underway ⟨contents, phase⟩ rfl
      refine ⟨ready', by rintro call ⟨⟩, fun _ success => ⟨write, by rw [turns]; exact latest, ?_⟩⟩
      rw [last] at success
      obtain rfl := Option.some.inj success
      cases StatusFile.writeAtomic_cases moved (ready _ rfl) with
      | publishes present =>
        rw [FileSystem.read, (FileSystem.rename_target (tmpPath_ne path)).1, present]
        exact congrArg some same
  | restarted task fs' crash =>
    refine ⟨by rintro call ⟨⟩, by rintro call ⟨⟩, fun _ success => ?_⟩
    rw [last] at success
    cases success

theorem landed_of_run {fs : FileSystem Path} {log : List StatusTaskEvent} {task : StatusTask}
    (run : Run (Step path formatUtc debounce heartbeat state) (start state fs) log task) :
    Landed path log task :=
  run.history (Landed path) ⟨by rintro _ ⟨⟩, by rintro _ ⟨⟩, nofun⟩
    fun _ _ _ _ landed moved => landed.step moved

/-- Whatever fails and whenever the machine stops, the status file is what it was at first
or the whole text of a state that the task was in at some time since one of its starts. When
the last write succeeded and none is due, it is the text of the state the task is in. -/
theorem status_file_intact {fs : FileSystem Path} (settled : StatusFile.Settled path fs)
    {log : List StatusTaskEvent} {task : StatusTask}
    (run : Run (Step path formatUtc debounce heartbeat state) (start state fs) log task) :
    (task.file.fs.read path = fs.read path ∨
      ∃ (before : List StatusTaskEvent) (turns : List (WriterInput × Option StatusWrite))
        (write : StatusWrite), before <+: log ∧ turns <+: turnsSince before ∧
        renderStatus formatUtc (state.after (StatusWriter.received turns)) write.utc =
          some write.text ∧
        task.file.fs.read path = some write.bytes) ∧
    (task.file.call = none → lastResult log = some (.ok ()) →
      (task.writer.phase = .returned ∨
        ∃ nextHeartbeat, task.writer.phase = .selecting nextHeartbeat none) →
      ∃ write : StatusWrite, renderStatus formatUtc task.writer.state write.utc =
          some write.text ∧
        task.file.fs.read path = some write.bytes) := by
  constructor
  · obtain ⟨file, projected, rfl⟩ := simulates_file.run rfl run
    rcases (StatusFile.published_of_run settled projected).read with same | ⟨written, member, shown⟩
    · exact .inl same
    · right
      -- The write that succeeded was under way just before its result came.
      obtain ⟨event, happened, seen⟩ := List.mem_filterMap.mp member
      cases event with
      | returned contents result =>
        cases seen
        obtain ⟨before, after, rfl⟩ := List.append_of_mem happened
        obtain ⟨task₁, task₂, first, moved, _⟩ := run.step_at
        have landed := landed_of_run first
        cases moved with
        | returned writer file file' _ _ moved =>
          cases moved with
          | returned fs' fs'' _ phase =>
            obtain ⟨write, latest, same⟩ := landed.underway ⟨written, phase⟩ rfl
            obtain ⟨turns, earlier, rendered⟩ := rendered_of_write (writer_run first) latest
            exact ⟨before, turns, write, List.prefix_append _ _, earlier, rendered,
              shown.trans (congrArg some same)⟩
      | turn input write => cases write <;> cases seen
      | progressed | restarted => cases seen
  · intro idle success due
    obtain ⟨write, latest, shown⟩ := (landed_of_run run).succeeded idle success
    have synced : StatusWriter.Synced formatUtc (turnsSince log) task.writer :=
      Run.history (StatusWriter.Synced formatUtc) (s := .start state) trivial
        (fun log writer event writer' held moved =>
          (StatusWriter.moves_of_next moved).synced held) (writer_run run)
    have shows : StatusWriter.Shows formatUtc (turnsSince log) task.writer.state := by
      unfold StatusWriter.Synced at synced
      rcases due with returned | ⟨nextHeartbeat, selecting⟩
      · rwa [returned] at synced
      · rwa [selecting] at synced
    obtain ⟨write', latest', rendered⟩ := shows
    obtain rfl := Option.some.inj (latest.symm.trans latest')
    exact ⟨write, rendered, shown⟩

/-- The first write of the shipped configuration, in a directory that takes no new file. -/
theorem status_file_intact_full : ∃ write task,
    Run (Step [1] (fun _ _ => "now") (.fromSecs 2) (.fromSecs 30) exampleState)
      (start exampleState StatusFile.withLeftover)
      [.turn (.started ⟨0⟩ ⟨0⟩) (some write), .returned write.bytes (.error .os)] task ∧
    (task.file.fs.read [1] = some [10] ∨ ∃ other : StatusWrite,
      task.file.fs.read [1] = some other.bytes) := by
  obtain ⟨text, rendered⟩ := exists_renderStatus (fun _ _ => "now") exampleState ⟨0⟩
  have starts : StatusWriter.Step (fun _ _ => "now") (.fromSecs 2) (.fromSecs 30)
      (.start exampleState) (.started ⟨0⟩ ⟨0⟩, some ⟨⟨0⟩, text⟩)
      ⟨exampleState, .selecting ⟨30 * 10 ^ 9⟩ none⟩ := by
    simp only [StatusWriter.Step, StatusWriter.next, StatusWriter.start, StatusWriter.write,
      rendered]
    rfl
  have settled : StatusFile.Settled [1] StatusFile.withLeftover := by
    intro entry member
    obtain rfl := List.mem_singleton.mp member
    exact ⟨by simp [StatusFile.withLeftover], rfl⟩
  have run : Run (Step [1] (fun _ _ => "now") (.fromSecs 2) (.fromSecs 30) exampleState)
      (start exampleState StatusFile.withLeftover)
      [.turn (.started ⟨0⟩ ⟨0⟩) (some ⟨⟨0⟩, text⟩),
        .returned (StatusWrite.bytes ⟨⟨0⟩, text⟩) (.error .os)] _ :=
    .cons (.turn _ _ _ _ _ starts)
      (.single (.returned _ _ _ _ _ (.returned _ _ _ _ .failed _ rfl)))
  refine ⟨_, _, run, ?_⟩
  rcases (status_file_intact settled run).1 with same | ⟨_, _, write, _, _, _, shown⟩
  · exact .inl same
  · exact .inr ⟨write, shown⟩

end StatusTask

end ModbusGateway
