import ModbusGateway.Foundation.FileSystem
import ModbusGateway.Foundation.Runs

/-!
# Replacing the status file

`write_atomic` as a sequence of file operations, each of which may fail, and may
be the last one before a crash. Only the rename touches the target, and what it
puts there has been synced.
-/
namespace ModbusGateway

open Foundation

/-- The bytes of a path. -/
abbrev Path := List UInt8

def tmpPath (path : Path) : Path := path ++ ".tmp".toUTF8.data.toList

theorem tmpPath_ne (path : Path) : tmpPath path ≠ path := by
  intro same
  have longer := congrArg List.length same
  rw [tmpPath, List.length_append, Nat.add_eq_left] at longer
  exact absurd longer (by decide)

inductive IoError where
  -- A write that took no bytes.
  | writeZero
  | os
  deriving DecidableEq

/-- The operation that `write_atomic` is at. -/
inductive AtomicWritePhase where
  | create
  | write (rest : List UInt8)
  | sync
  | rename
  deriving DecidableEq

/-- How an operation ends. -/
inductive IoAnswer where
  | done
  | wrote (bytes : Nat)
  | interrupted
  | failed
  deriving DecidableEq

/-- `write_all` with what is left to write; it writes nothing where nothing is left. -/
def writeAll (rest : List UInt8) : AtomicWritePhase :=
  if rest = [] then .sync else .write rest

/-- One operation of `write_atomic`, and the next one or what the call returns; no result
where the answer does not fit. -/
def writeAtomic (path : Path) (contents : List UInt8) (fs : FileSystem Path) :
    AtomicWritePhase → IoAnswer →
      Option (FileSystem Path × (AtomicWritePhase ⊕ Except IoError Unit))
  | .create, .done => some (fs.create (tmpPath path), .inl (writeAll contents))
  | .write rest, .wrote bytes =>
    if bytes = 0 then some (fs, .inr (.error .writeZero))
    else if bytes ≤ rest.length then
      some (fs.append (tmpPath path) (rest.take bytes), .inl (writeAll (rest.drop bytes)))
    else none
  -- An interrupted write is made again.
  | .write rest, .interrupted => some (fs, .inl (.write rest))
  | .sync, .done => some (fs.sync (tmpPath path), .inl .rename)
  | .rename, .done => some (fs.rename (tmpPath path) path, .inr (.ok ()))
  | _, .failed => some (fs, .inr (.error .os))
  | _, _ => none

structure AtomicWrite where
  contents : List UInt8
  phase : AtomicWritePhase
  deriving DecidableEq

/-- The file system with the call that is under way, if any. -/
structure StatusFile where
  fs : FileSystem Path
  call : Option AtomicWrite

inductive StatusFileEvent where
  | begun (contents : List UInt8)
  | progressed
  | returned (contents : List UInt8) (result : Except IoError Unit)
  | crashed

namespace StatusFile

/-- Calls one after the other, each of which may be cut by a crash. -/
inductive Step (path : Path) : StatusFile → StatusFileEvent → StatusFile → Prop where
  | begun (fs : FileSystem Path) (contents : List UInt8) :
      Step path ⟨fs, none⟩ (.begun contents) ⟨fs, some ⟨contents, .create⟩⟩
  | progressed (fs fs' : FileSystem Path) (contents : List UInt8)
      (phase phase' : AtomicWritePhase) (answer : IoAnswer)
      (moved : writeAtomic path contents fs phase answer = some (fs', .inl phase')) :
      Step path ⟨fs, some ⟨contents, phase⟩⟩ .progressed ⟨fs', some ⟨contents, phase'⟩⟩
  | returned (fs fs' : FileSystem Path) (contents : List UInt8) (phase : AtomicWritePhase)
      (answer : IoAnswer) (result : Except IoError Unit)
      (moved : writeAtomic path contents fs phase answer = some (fs', .inr result)) :
      Step path ⟨fs, some ⟨contents, phase⟩⟩ (.returned contents result) ⟨fs', none⟩
  | crashed (fs fs' : FileSystem Path) (call : Option AtomicWrite)
      (crash : FileSystem.Crash fs fs') :
      Step path ⟨fs, call⟩ .crashed ⟨fs', none⟩

/-- What has come to the temporary file before an operation. -/
def Prepared (path : Path) (contents : List UInt8) (fs : FileSystem Path) :
    AtomicWritePhase → Prop
  | .create => True
  | .write rest => ∃ file, fs.live (tmpPath path) = some file ∧ file.contents ++ rest = contents
  | .sync => ∃ file, fs.live (tmpPath path) = some file ∧ file.contents = contents
  | .rename => fs.live (tmpPath path) = some ⟨contents, true⟩

theorem prepared_writeAll {path : Path} {contents rest : List UInt8} {fs : FileSystem Path}
    {file : File} (present : fs.live (tmpPath path) = some file)
    (written : file.contents ++ rest = contents) :
    Prepared path contents fs (writeAll rest) := by
  unfold writeAll
  split
  next nothing =>
    rw [nothing, List.append_nil] at written
    exact ⟨file, present, written⟩
  next => exact ⟨file, present, written⟩

/-- What an operation does: it leaves the target alone, unless it is the rename of all the
contents. -/
inductive Operates (path : Path) (contents : List UInt8) (fs : FileSystem Path) :
    FileSystem Path → AtomicWritePhase ⊕ Except IoError Unit → Prop where
  | goesOn (fs' : FileSystem Path) (phase' : AtomicWritePhase)
      (same : FileSystem.SameAt path fs fs') (prepared : Prepared path contents fs' phase') :
      Operates path contents fs fs' (.inl phase')
  | fails (error : IoError) : Operates path contents fs fs (.inr (.error error))
  | publishes (present : fs.live (tmpPath path) = some ⟨contents, true⟩) :
      Operates path contents fs (fs.rename (tmpPath path) path) (.inr (.ok ()))

section

variable {path : Path} {contents : List UInt8} {fs fs' : FileSystem Path}
  {outcome : AtomicWritePhase ⊕ Except IoError Unit}

theorem operates_write {rest : List UInt8} {answer : IoAnswer}
    (moved : writeAtomic path contents fs (.write rest) answer = some (fs', outcome))
    (prepared : Prepared path contents fs (.write rest)) :
    Operates path contents fs fs' outcome := by
  cases answer with
  | wrote bytes =>
    rw [writeAtomic] at moved
    split at moved
    next => cases moved; exact .fails _
    next =>
      split at moved
      next =>
        cases moved
        obtain ⟨file, present, written⟩ := prepared
        apply Operates.goesOn _ _ (FileSystem.sameAt_append (tmpPath_ne path) _)
        apply prepared_writeAll (FileSystem.live_append present _)
        rw [List.append_assoc, List.take_append_drop, written]
      next => cases moved
  | interrupted => cases moved; exact .goesOn _ _ (.refl path fs) prepared
  | failed => cases moved; exact .fails _
  | done => cases moved

theorem writeAtomic_cases {phase : AtomicWritePhase} {answer : IoAnswer}
    (moved : writeAtomic path contents fs phase answer = some (fs', outcome))
    (prepared : Prepared path contents fs phase) : Operates path contents fs fs' outcome := by
  cases phase with
  | create =>
    cases answer with
    | done =>
      cases moved
      apply Operates.goesOn _ _ (FileSystem.sameAt_create (tmpPath_ne path))
      exact prepared_writeAll (FileSystem.live_set ..) rfl
    | failed => cases moved; exact .fails _
    | wrote | interrupted => cases moved
  | write rest => exact operates_write moved prepared
  | sync =>
    cases answer with
    | done =>
      cases moved
      obtain ⟨file, present, written⟩ := prepared
      apply Operates.goesOn _ _ (FileSystem.sameAt_sync (tmpPath_ne path))
      rw [Prepared, FileSystem.live_sync present, written]
    | failed => cases moved; exact .fails _
    | wrote | interrupted => cases moved
  | rename =>
    cases answer with
    | done => cases moved; exact .publishes prepared
    | failed => cases moved; exact .fails _
    | wrote | interrupted => cases moved

end

/-- A call that is under way has its contents prepared. -/
def Ready (path : Path) (file : StatusFile) : Prop :=
  ∀ call, file.call = some call → Prepared path call.contents file.fs call.phase

theorem Step.ready {path : Path} {file file' : StatusFile} {event : StatusFileEvent}
    (moved : Step path file event file') (ready : Ready path file) : Ready path file' := by
  rintro call current
  cases moved with
  | begun fs contents =>
    cases current
    trivial
  | progressed fs fs' contents phase phase' answer moved =>
    cases current
    cases writeAtomic_cases moved (ready _ rfl) with
    | goesOn _ _ same prepared => exact prepared
  | returned => cases current
  | crashed => cases current

/-! ### One call -/

/-- Until it returns, a call has not touched the target. -/
theorem underway {path : Path} {fs : FileSystem Path} {contents : List UInt8}
    {steps : List StatusFileEvent} {file : StatusFile}
    (progress : ∀ event ∈ steps, event = .progressed)
    (run : Run (Step path) ⟨fs, none⟩ (.begun contents :: steps) file) :
    ∃ phase, file.call = some ⟨contents, phase⟩ ∧ FileSystem.SameAt path fs file.fs ∧
      Prepared path contents file.fs phase := by
  obtain ⟨begun, moved, rest⟩ := Run.cons_iff.mp run
  cases moved
  clear run
  induction rest with
  | refl => exact ⟨.create, rfl, .refl path fs, trivial⟩
  | snoc _ moved ih =>
    obtain ⟨phase, current, same, prepared⟩ := ih
      (fun event member => progress event (List.mem_append_left _ member))
    obtain rfl := progress _ (List.mem_append_right _ List.mem_cons_self)
    cases moved with
    | progressed fs' fs'' contents' phase phase' answer moved =>
      cases current
      cases writeAtomic_cases moved prepared with
      | goesOn _ _ same' prepared' => exact ⟨_, rfl, same.trans same', prepared'⟩

/-- A call that fails leaves the target as it was; one that succeeds has replaced all of it. -/
theorem returned_of_run {path : Path} {fs : FileSystem Path} {contents contents' : List UInt8}
    {steps : List StatusFileEvent} {file : StatusFile} {result : Except IoError Unit}
    (progress : ∀ event ∈ steps, event = .progressed)
    (run : Run (Step path) ⟨fs, none⟩
      (.begun contents :: (steps ++ [.returned contents' result])) file) :
    contents' = contents ∧
      ((∃ error, result = .error error ∧ file.fs.live path = fs.live path) ∨
        (result = .ok () ∧ file.fs.live path = some ⟨contents, true⟩)) := by
  rw [← List.cons_append] at run
  obtain ⟨before, run, moved⟩ := Run.snoc_iff.mp run
  obtain ⟨phase, current, same, prepared⟩ := underway progress run
  cases moved with
  | returned fs' fs'' contents' phase' answer result moved =>
    cases current
    refine ⟨rfl, ?_⟩
    cases writeAtomic_cases moved prepared with
    | fails error => exact .inl ⟨error, rfl, same.1⟩
    | publishes present =>
      refine .inr ⟨rfl, ?_⟩
      rw [(FileSystem.rename_target (tmpPath_ne path)).1, present]

/-! ### Any number of calls and crashes -/

/-- The target as it was at first, or all the contents of a call that succeeded. -/
def Published (original : Option (List UInt8)) (log : List StatusFileEvent)
    (contents : Option (List UInt8)) : Prop :=
  contents = original ∨ ∃ written, .returned written (.ok ()) ∈ log ∧ contents = some written

theorem Published.snoc {original contents : Option (List UInt8)} {log : List StatusFileEvent}
    (published : Published original log contents) (event : StatusFileEvent) :
    Published original (log ++ [event]) contents := by
  rcases published with same | ⟨written, member, same⟩
  · exact .inl same
  · exact .inr ⟨written, List.mem_append_left _ member, same⟩

theorem Step.holds {path : Path} {original : Option (List UInt8)} {log : List StatusFileEvent}
    {file file' : StatusFile} {event : StatusFileEvent} (moved : Step path file event file')
    (ready : Ready path file) (holds : file.fs.Holds path (Published original log)) :
    file'.fs.Holds path (Published original (log ++ [event])) := by
  have more := holds.mono fun contents published => published.snoc event
  cases moved with
  | begun => exact more
  | progressed fs fs' contents phase phase' answer moved =>
    cases writeAtomic_cases moved (ready _ rfl) with
    | goesOn _ _ same _ => exact more.same same
  | returned fs fs' contents phase answer result moved =>
    cases writeAtomic_cases moved (ready _ rfl) with
    | fails => exact more
    | publishes present =>
      -- The rename is all that makes new contents visible, and those are on disk.
      have now : Published original (log ++ [.returned contents (.ok ())]) (some contents) :=
        .inr ⟨contents, List.mem_append_right _ List.mem_cons_self, rfl⟩
      exact more.rename (tmpPath_ne path) present rfl now
  | crashed fs fs' call crash => exact more.crash crash

/-- The target is on disk, and a crash brings back nothing else. -/
def Settled (path : Path) (fs : FileSystem Path) : Prop :=
  fs.Holds path fun contents => contents = fs.read path

theorem published_of_run {path : Path} {fs : FileSystem Path} (settled : Settled path fs)
    {log : List StatusFileEvent} {file : StatusFile}
    (run : Run (Step path) ⟨fs, none⟩ log file) :
    file.fs.Holds path (Published (fs.read path) log) := by
  have invariant := Run.history
    (fun log file => Ready path file ∧ file.fs.Holds path (Published (fs.read path) log))
    ⟨by rintro _ ⟨⟩, settled.mono fun _ same => .inl same⟩
    (fun log file event file' held moved =>
      ⟨moved.ready held.1, moved.holds held.1 held.2⟩) run
  exact invariant.2

/-- With no other call begun, all that returns is the call that is under way. -/
theorem returned_contents {path : Path} {fs : FileSystem Path} {contents written : List UInt8}
    {steps : List StatusFileEvent} {file : StatusFile} {result : Except IoError Unit}
    (alone : ∀ other, .begun other ∉ steps)
    (run : Run (Step path) ⟨fs, none⟩ (.begun contents :: steps) file)
    (member : .returned written result ∈ steps) : written = contents := by
  obtain ⟨begun, moved, rest⟩ := Run.cons_iff.mp run
  cases moved
  have held := Run.history
    (fun steps file => (∀ other, .begun other ∉ steps) →
      (∀ call, file.call = some call → call.contents = contents) ∧
        ∀ written result, .returned written result ∈ steps → written = contents)
    (fun _ => ⟨by rintro _ ⟨⟩; rfl, by simp⟩) ?_ rest
  · exact (held alone).2 written result member
  · intro steps file event file' held moved alone
    obtain ⟨current, earlier⟩ := held fun other member => alone other (List.mem_append_left _ member)
    have before : ∀ written result, .returned written result ∈ steps ++ [event] →
        event ≠ .returned written result → written = contents := by
      intro written result member other
      rcases List.mem_append.mp member with old | new
      · exact earlier written result old
      · exact absurd (List.mem_singleton.mp new).symm other
    cases moved with
    | begun fs other => exact absurd (List.mem_append_right _ List.mem_cons_self) (alone other)
    | progressed fs fs' contents' phase phase' answer moved =>
      refine ⟨?_, fun written result member => before written result member (by simp)⟩
      rintro _ ⟨⟩
      exact current ⟨contents', phase⟩ rfl
    | returned fs fs' contents' phase answer result' moved =>
      refine ⟨by rintro _ ⟨⟩, fun written result member => ?_⟩
      by_cases last : written = contents'
      · rw [last]
        exact current _ rfl
      · exact before written result member (by rintro ⟨⟩; exact last rfl)
    | crashed =>
      exact ⟨by rintro _ ⟨⟩, fun written result member => before written result member (by simp)⟩

/-- One call leaves the target alone until it replaces all of it, an error leaves it alone
altogether, and after a crash it is all old or all new; over any calls and crashes it has the
contents of a call that succeeded, or those it had at first. -/
theorem write_atomic_all_or_nothing (path : Path) :
    (∀ (fs : FileSystem Path) (contents : List UInt8) (steps : List StatusFileEvent)
      (file : StatusFile), (∀ event ∈ steps, event = .progressed) →
      (Run (Step path) ⟨fs, none⟩ (.begun contents :: steps) file →
        file.fs.live path = fs.live path) ∧
      ∀ written result, Run (Step path) ⟨fs, none⟩
          (.begun contents :: (steps ++ [.returned written result])) file →
        (∃ error, result = .error error ∧ file.fs.live path = fs.live path) ∨
          (result = .ok () ∧ file.fs.read path = some contents)) ∧
    (∀ (fs : FileSystem Path) (contents : List UInt8) (steps : List StatusFileEvent)
      (file : StatusFile), Settled path fs → (∀ other, .begun other ∉ steps) →
      Run (Step path) ⟨fs, none⟩ (.begun contents :: steps) file →
      file.fs.read path = fs.read path ∨ file.fs.read path = some contents) ∧
    ∀ (fs : FileSystem Path) (log : List StatusFileEvent) (file : StatusFile),
      Settled path fs → Run (Step path) ⟨fs, none⟩ log file →
      file.fs.read path = fs.read path ∨
        ∃ contents, .returned contents (.ok ()) ∈ log ∧ file.fs.read path = some contents := by
  refine ⟨?_, ?_, ?_⟩
  · intro fs contents steps file progress
    constructor
    · intro run
      obtain ⟨_, _, same, _⟩ := underway progress run
      exact same.1
    · intro written result run
      obtain ⟨rfl, unchanged | ⟨success, replaced⟩⟩ := returned_of_run progress run
      · exact .inl unchanged
      · refine .inr ⟨success, ?_⟩
        rw [FileSystem.read, replaced]
        rfl
  · intro fs contents steps file settled alone run
    rcases (published_of_run settled run).read with same | ⟨written, member, shown⟩
    · exact .inl same
    · rcases List.mem_cons.mp member with begun | member
      · cases begun
      · obtain rfl := returned_contents alone run member
        exact .inr shown
  · intro fs log file settled run
    exact (published_of_run settled run).read

/-- A status file beside what an earlier attempt left. -/
def withLeftover : FileSystem Path where
  live := fun path =>
    if path = [1] then some ⟨[10], true⟩ else if path = tmpPath [1] then some ⟨[20], false⟩ else none
  older := fun _ => []

/-- What a power cut left, with other bytes in the temporary file than were written. -/
def afterPowerCut : FileSystem Path where
  live := fun path =>
    if path = [1] then some ⟨[10], true⟩ else if path = tmpPath [1] then some ⟨[30], true⟩ else none
  older := fun _ => []

/-- The power is cut when one of two bytes is written. -/
theorem write_atomic_all_or_nothing_powerCut :
    Run (Step [1]) ⟨withLeftover, none⟩ [.begun [11, 12], .progressed, .progressed, .crashed]
        ⟨afterPowerCut, none⟩ ∧
      (afterPowerCut.read [1] = withLeftover.read [1] ∨
        afterPowerCut.read [1] = some [11, 12]) := by
  have settled : Settled [1] withLeftover := by
    intro entry member
    obtain rfl := List.mem_singleton.mp member
    exact ⟨by simp [withLeftover], rfl⟩
  let created := withLeftover.create (tmpPath [1])
  let written := created.append (tmpPath [1]) [11]
  have crash : FileSystem.Crash written afterPowerCut := by
    refine ⟨fun name => ?_, fun _ => rfl⟩
    by_cases temporary : name = tmpPath [1]
    · subst temporary
      exact ⟨some ⟨[11], false⟩, by decide, .file _ _ (by simp)⟩
    · have same : FileSystem.SameAt name withLeftover written :=
        (FileSystem.sameAt_create (Ne.symm temporary)).trans
          (FileSystem.sameAt_append (Ne.symm temporary) [11])
      refine ⟨withLeftover.live name, by rw [same.1]; exact List.mem_cons_self, ?_⟩
      by_cases target : name = [1]
      · subst target
        exact .file ⟨[10], true⟩ [10] (fun _ => rfl)
      · simp only [withLeftover, afterPowerCut, if_neg target, if_neg temporary]
        exact .missing
  have run : Run (Step [1]) ⟨withLeftover, none⟩
      [.begun [11, 12], .progressed, .progressed, .crashed] ⟨afterPowerCut, none⟩ :=
    .cons (.begun _ _) (.cons (.progressed _ created _ _ _ .done rfl)
      (.cons (.progressed _ written _ _ _ (.wrote 1) rfl) (.single (.crashed _ _ _ crash))))
  exact ⟨run, (write_atomic_all_or_nothing [1]).2.1 withLeftover [11, 12] _ _ settled (by simp) run⟩

end StatusFile

end ModbusGateway
