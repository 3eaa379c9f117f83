import ModbusGateway.Modbus.Poller

/-!
# One tick of the poll loop

A tick that runs to its end is the nested loop over devices and blocks: its
actions fall into one segment for each device, and what a segment offers and
reports is a function of that device's own results.
-/
namespace ModbusGateway

open Foundation

/-! ### What a log shows -/

def PollerAction.read? : PollerAction → Option (BlockConfig × BlockResult)
  | .read _ block result => some (block, result)
  | _ => none

def PollerAction.offer? : PollerAction → Option Reading
  | .offer _ _ _ reading _ => some reading
  | _ => none

def PollerAction.outcome? : PollerAction → Option TrySend
  | .offer _ _ _ _ outcome => some outcome
  | _ => none

def PollerAction.report? : PollerAction → Option StatusEvent
  | .report event => some event
  | _ => none

def reads (log : List PollerAction) : List (BlockConfig × BlockResult) :=
  log.filterMap PollerAction.read?

def offers (log : List PollerAction) : List Reading := log.filterMap PollerAction.offer?

def reports (log : List PollerAction) : List StatusEvent := log.filterMap PollerAction.report?

@[simp] theorem reads_nil : reads [] = [] := rfl
@[simp] theorem offers_nil : offers [] = [] := rfl
@[simp] theorem reports_nil : reports [] = [] := rfl

section views

variable (action : PollerAction) (log log' : List PollerAction)

@[simp] theorem reads_cons : reads (action :: log) = action.read?.toList ++ reads log :=
  view_cons _ action log

@[simp] theorem offers_cons : offers (action :: log) = action.offer?.toList ++ offers log :=
  view_cons _ action log

@[simp] theorem reports_cons :
    reports (action :: log) = action.report?.toList ++ reports log :=
  view_cons _ action log

@[simp] theorem reads_append : reads (log ++ log') = reads log ++ reads log' :=
  List.filterMap_append

@[simp] theorem offers_append : offers (log ++ log') = offers log ++ offers log' :=
  List.filterMap_append

@[simp] theorem reports_append : reports (log ++ log') = reports log ++ reports log' :=
  List.filterMap_append

variable (cfg : ConnectionConfig)

@[simp] theorem reads_frameDelays : reads (frameDelays cfg) = [] :=
  view_frameDelays _ (fun _ => rfl) cfg

@[simp] theorem offers_frameDelays : offers (frameDelays cfg) = [] :=
  view_frameDelays _ (fun _ => rfl) cfg

@[simp] theorem reports_frameDelays : reports (frameDelays cfg) = [] :=
  view_frameDelays _ (fun _ => rfl) cfg

variable (device : DeviceConfig) (block : BlockConfig) (words : List UInt16)
  (offered : List (Reading × TrySend))

@[simp] theorem reads_offered :
    reads (offered.map fun o => .offer device block words o.1 o.2) = [] := by
  simp [reads, PollerAction.read?]

@[simp] theorem offers_offered :
    offers (offered.map fun o => .offer device block words o.1 o.2) = offered.map Prod.fst := by
  simp [offers, PollerAction.offer?, List.filterMap_map, Function.comp_def]

@[simp] theorem reports_offered :
    reports (offered.map fun o => .offer device block words o.1 o.2) = [] := by
  simp [reports, PollerAction.report?]

end views

/-! ### What the loops do -/

/-- The actions for the remaining blocks of a device and its report. -/
inductive DeviceLog (cfg : ConnectionConfig) (device : DeviceConfig) :
    List BlockConfig → List PollerAction → Prop where
  | done : DeviceLog cfg device [] [.report (deviceEvent cfg device none)]
  | words {block : BlockConfig} {blocks : List BlockConfig} {words : List UInt16}
      {values : List (String × F64)} {offered : List (Reading × TrySend)}
      {log : List PollerAction} (decoded : decode block words = some values)
      (all : offered.map Prod.fst = values.map fun v => ⟨⟨device.id, v.1⟩, v.2⟩)
      (rest : DeviceLog cfg device blocks log) :
      DeviceLog cfg device (block :: blocks)
        (.request device block :: .read device block (.words words) :: (frameDelays cfg ++
          (offered.map (fun o => .offer device block words o.1 o.2) ++ log)))
  | failed {block : BlockConfig} {blocks : List BlockConfig} {result : BlockResult}
      {reason : String} (problem : result.problem? = some reason) :
      DeviceLog cfg device (block :: blocks)
        (.request device block :: .read device block result :: (frameDelays cfg ++
          [.report (deviceEvent cfg device (some reason))]))

/-- The actions for the remaining devices of a tick. -/
inductive TickLog (cfg : ConnectionConfig) : List DeviceConfig → List PollerAction → Prop where
  | done : TickLog cfg [] []
  | device {device : DeviceConfig} {devices : List DeviceConfig} {log rest : List PollerAction}
      (polled : DeviceLog cfg device device.blocks log) (others : TickLog cfg devices rest) :
      TickLog cfg (device :: devices) (.setSlave device.unitId :: (log ++ rest))

/-- `log` is what completes the tick from a phase within it. -/
def Completes (cfg : ConnectionConfig) : PollerPhase → List PollerAction → Prop
  | .ticking, log => log = []
  -- The request was already made; it is put back to have the whole block's log.
  | .reading cursor, log => ∃ own others, log = own ++ others ∧
      DeviceLog cfg cursor.device (cursor.block :: cursor.blocks)
        (.request cursor.device cursor.block :: own) ∧
      TickLog cfg cursor.devices others
  | .offering cursor words value values, log => ∃ (offered : List (Reading × TrySend))
      (own others : List PollerAction),
      offered.map Prod.fst = (value :: values).map cursor.readingOf ∧
      log = offered.map (fun o => .offer cursor.device cursor.block words o.1 o.2) ++ (own ++ others) ∧
      DeviceLog cfg cursor.device cursor.blocks own ∧ TickLog cfg cursor.devices others
  | _, _ => False

theorem pollDevices_completes {cfg : ConnectionConfig} {devices : List DeviceConfig}
    {log : List PollerAction} (completes : Completes cfg (pollDevices cfg devices).1 log) :
    TickLog cfg devices ((pollDevices cfg devices).2 ++ log) := by
  induction devices with
  | nil =>
    cases completes
    exact .done
  | cons device devices ih =>
    unfold pollDevices at completes ⊢
    cases blocks : device.blocks with
    | nil =>
      simp only [blocks] at completes ⊢
      have polled : DeviceLog cfg device device.blocks
          [.report (deviceEvent cfg device none)] := blocks ▸ .done
      have whole := TickLog.device polled (ih completes)
      exact whole
    | cons block others =>
      simp only [blocks] at completes ⊢
      obtain ⟨own, rest, rfl, polled, left⟩ := completes
      have ownBlocks : DeviceLog cfg device device.blocks (.request device block :: own) :=
        blocks ▸ polled
      have whole := TickLog.device ownBlocks left
      exact whole

theorem finishDevice_completes {cfg : ConnectionConfig} {cursor : Cursor}
    {problem : Option String} {log : List PollerAction}
    (completes : Completes cfg (finishDevice cfg cursor problem).1 log) :
    ∃ others, TickLog cfg cursor.devices others ∧
      (finishDevice cfg cursor problem).2 ++ log =
        .report (deviceEvent cfg cursor.device problem) :: others :=
  ⟨_, pollDevices_completes completes, rfl⟩

theorem nextBlock_completes {cfg : ConnectionConfig} {cursor : Cursor}
    {log : List PollerAction} (completes : Completes cfg (nextBlock cfg cursor).1 log) :
    ∃ own others, (nextBlock cfg cursor).2 ++ log = own ++ others ∧
      DeviceLog cfg cursor.device cursor.blocks own ∧ TickLog cfg cursor.devices others := by
  unfold nextBlock at completes ⊢
  cases blocks : cursor.blocks with
  | nil =>
    simp only [blocks] at completes ⊢
    obtain ⟨others, left, shape⟩ := finishDevice_completes completes
    exact ⟨[.report (deviceEvent cfg cursor.device none)], others, shape, .done, left⟩
  | cons block rest =>
    simp only [blocks] at completes ⊢
    obtain ⟨own, others, rfl, polled, left⟩ := completes
    exact ⟨_, others, rfl, polled, left⟩

theorem offerValues_completes {cfg : ConnectionConfig} {cursor : Cursor}
    {words : List UInt16} {values : List (String × F64)} {log : List PollerAction}
    (completes : Completes cfg (offerValues cfg cursor words values).1 log) :
    ∃ (offered : List (Reading × TrySend)) (own others : List PollerAction),
      offered.map Prod.fst = values.map cursor.readingOf ∧
      (offerValues cfg cursor words values).2 ++ log =
        offered.map (fun o => .offer cursor.device cursor.block words o.1 o.2) ++ (own ++ others) ∧
      DeviceLog cfg cursor.device cursor.blocks own ∧ TickLog cfg cursor.devices others := by
  cases values with
  | nil =>
    obtain ⟨own, others, shape, polled, left⟩ := nextBlock_completes completes
    exact ⟨[], own, others, rfl, shape, polled, left⟩
  | cons value values => exact completes

/-! ### Ticks that nothing interrupts -/

/-- In the middle of a tick. -/
def PollerPhase.Polling : PollerPhase → Bool
  | .reading _ | .offering .. => true
  | _ => false

/-- In a tick or waiting for the next on an open connection. -/
def PollerPhase.InTick : PollerPhase → Bool
  | .ticking => true
  | phase => phase.Polling

/-- A successful reply carries the `count` registers of its block. -/
def BlockResult.Full (block : BlockConfig) : BlockResult → Prop
  | .words registers => registers.length = block.count.toNat
  | _ => True

instance (block : BlockConfig) (result : BlockResult) : Decidable (result.Full block) := by
  cases result <;> unfold BlockResult.Full <;> infer_instance

/-- No read breaks the connection, successful replies are complete, and the channel
to the aggregator stays open. -/
structure Undisturbed (log : List PollerAction) : Prop where
  connection_kept : ∀ r ∈ reads log, r.2 ≠ .transportFatal
  replies_full : ∀ r ∈ reads log, r.2.Full r.1
  channel_open : ∀ action ∈ log, action.outcome? ≠ some .closed

theorem Undisturbed.mono {log log' : List PollerAction} (calm : Undisturbed log')
    (part : log ⊆ log') : Undisturbed log := by
  have readsPart : reads log ⊆ reads log' := by
    intro r member
    obtain ⟨action, listed, found⟩ := List.mem_filterMap.mp member
    exact List.mem_filterMap.mpr ⟨action, part listed, found⟩
  exact ⟨fun r member => calm.connection_kept r (readsPart member),
    fun r member => calm.replies_full r (readsPart member),
    fun action member => calm.channel_open action (part member)⟩

theorem pollDevices_inTick (cfg : ConnectionConfig) (devices : List DeviceConfig) :
    (pollDevices cfg devices).1.InTick = true := by
  induction devices with
  | nil => rfl
  | cons device devices ih =>
    unfold pollDevices
    cases device.blocks with
    | nil => exact ih
    | cons => rfl

theorem offerValues_inTick (cfg : ConnectionConfig) (cursor : Cursor) (words : List UInt16)
    (values : List (String × F64)) : (offerValues cfg cursor words values).1.InTick = true := by
  cases values with
  | nil =>
    unfold offerValues nextBlock
    cases cursor.blocks with
    | nil => exact pollDevices_inTick cfg cursor.devices
    | cons => rfl
  | cons => rfl

section

variable {cfg : ConnectionConfig}
  (good : ∀ device ∈ cfg.devices, ∀ block ∈ device.blocks, block.WellFormed)

include good

/-- A full reply to the block under the cursor decodes. -/
theorem Cursor.Within.decode_ne_none {cursor : Cursor} (within : cursor.Within cfg)
    {words : List UInt16} (full : (BlockResult.words words).Full cursor.block) :
    decode cursor.block words ≠ none := by
  obtain ⟨values, decoded, _⟩ :=
    decode_full (good cursor.device within.device cursor.block within.block) full
  simp [decoded]

/-- An undisturbed step stays in the tick: a full reply always decodes. -/
theorem Poller.Moves.inTick {poller poller' : Poller} {input : PollerInput}
    {actions : List PollerAction} (moves : Poller.Moves cfg poller input poller' actions)
    (within : poller.phase.Within cfg) (before : poller.phase.InTick = true)
    (calm : Undisturbed actions) : poller'.phase.InTick = true := by
  cases moves with
  | connected | connectFailed | slept | overflowed => cases before
  | ticked => exact pollDevices_inTick cfg cfg.devices
  | words backoff cursor response words values =>
    exact offerValues_inTick cfg cursor words values
  | undecodable backoff cursor response words result outOfRange =>
    -- The block is well-formed and the reply has its `count` registers.
    have full := calm.replies_full (cursor.block, .words words) (by simp [PollerAction.read?])
    exact absurd outOfRange (Cursor.Within.decode_ne_none good within full)
  | failed backoff cursor => exact pollDevices_inTick cfg cursor.devices
  | fatal backoff cursor =>
    exact absurd rfl (calm.connection_kept (cursor.block, .transportFatal)
      (by simp [PollerAction.read?]))
  | refused backoff cursor words value =>
    exact absurd rfl (calm.channel_open _ List.mem_cons_self)
  | offered backoff cursor words value values =>
    exact offerValues_inTick cfg cursor words values

end

/-- One step back: what the step did goes in front of what completes the tick. -/
theorem Poller.Moves.completes {cfg : ConnectionConfig} {poller poller' : Poller}
    {input : PollerInput} {actions log : List PollerAction}
    (moves : Poller.Moves cfg poller input poller' actions)
    (inTick : poller.phase.InTick = true) (sameTick : input ≠ .tick)
    (after : Completes cfg poller'.phase log) :
    Completes cfg poller.phase (actions ++ log) := by
  cases moves with
  | connected | connectFailed | slept | overflowed => cases inTick
  | ticked => exact absurd rfl sameTick
  | undecodable | fatal | refused => exact after.elim
  | words backoff cursor response words values result decoded =>
    obtain ⟨offered, own, others, all, shape, polled, left⟩ := offerValues_completes after
    refine ⟨_, others, ?_, .words decoded all polled, left⟩
    simp only [List.cons_append, List.append_assoc, shape]
  | failed backoff cursor response result reason read problem =>
    obtain ⟨others, left, shape⟩ := finishDevice_completes after
    refine ⟨_, others, ?_, .failed problem, left⟩
    simp only [List.cons_append, List.append_assoc, List.nil_append]
    rw [shape]
  | offered backoff cursor words value values outcome kept =>
    obtain ⟨offered, own, others, all, shape, polled, left⟩ := offerValues_completes after
    refine ⟨(cursor.readingOf value, outcome) :: offered, own, others, ?_, ?_, polled, left⟩
    · rw [List.map_cons, all, List.map_cons]
    · rw [List.cons_append, shape, List.map_cons, List.cons_append]

/-- The inputs within a tick. -/
def PollerInput.answers : PollerInput → Bool
  | .response _ | .trySend _ => true
  | .connect _ | .slept | .tick => false

theorem Poller.Moves.answers_iff {cfg : ConnectionConfig} {poller poller' : Poller}
    {input : PollerInput} {actions : List PollerAction}
    (moves : Poller.Moves cfg poller input poller' actions) :
    input.answers = true ↔ poller.phase.InTick = true ∧ input ≠ .tick := by
  cases moves <;> simp [PollerInput.answers, PollerPhase.InTick, PollerPhase.Polling]

/-- A run of answers that ends back at the ticker completes the tick. -/
theorem completes_of_answers {cfg : ConnectionConfig}
    {events : List (PollerInput × List PollerAction)} {poller poller' : Poller}
    (run : Run (Poller.Step cfg) poller events poller')
    (answers : ∀ e ∈ events, e.1.answers = true) (ended : poller'.phase = .ticking) :
    Completes cfg poller.phase (actionsOf events) := by
  -- From the front, so that each step goes before the log that the rest completes.
  induction events generalizing poller with
  | nil =>
    obtain rfl := Run.nil_iff.mp run
    rw [ended]
    rfl
  | cons event events ih =>
    obtain ⟨between, moved, rest⟩ := Run.cons_iff.mp run
    have moves := Poller.moves_of_next moved
    obtain ⟨inTick, sameTick⟩ := moves.answers_iff.mp (answers event List.mem_cons_self)
    have later := ih rest fun e member => answers e (List.mem_cons_of_mem _ member)
    rw [actionsOf_cons]
    exact moves.completes inTick sameTick later

/-- The run of one tick: it starts with a tick, contains no other, and is over when
nothing of it is left to poll. -/
structure PollTick (cfg : ConnectionConfig) (backoff : Backoff)
    (events : List (PollerInput × List PollerAction)) (poller : Poller) : Prop where
  run : Run (Poller.Step cfg) ⟨.ticking, backoff⟩ events poller
  begins : ∃ actions rest, events = (.tick, actions) :: rest ∧ ∀ e ∈ rest, e.1 ≠ .tick
  ended : poller.phase.Polling = false

/-- Undisturbed, a tick goes from one answer to the next until it is over. -/
theorem answers_of_calm {cfg : ConnectionConfig}
    (good : ∀ device ∈ cfg.devices, ∀ block ∈ device.blocks, block.WellFormed)
    {events : List (PollerInput × List PollerAction)} {poller poller' : Poller}
    (run : Run (Poller.Step cfg) poller events poller') (within : poller.phase.Within cfg)
    (inTick : poller.phase.InTick = true) (sameTick : ∀ e ∈ events, e.1 ≠ .tick)
    (calm : Undisturbed (actionsOf events)) (ended : poller'.phase.Polling = false) :
    poller'.phase = .ticking ∧ ∀ e ∈ events, e.1.answers = true := by
  induction events generalizing poller with
  | nil =>
    rw [Run.nil_iff] at run
    subst run
    have waiting : poller.phase = .ticking := by
      cases shape : poller.phase <;> simp_all [PollerPhase.InTick, PollerPhase.Polling]
    exact ⟨waiting, by simp⟩
  | cons event events ih =>
    obtain ⟨between, moved, rest⟩ := Run.cons_iff.mp run
    have moves := Poller.moves_of_next moved
    rw [actionsOf_cons] at calm
    have here := calm.mono (List.subset_append_left _ _)
    have later := calm.mono (List.subset_append_right _ _)
    obtain ⟨ended, answers⟩ := ih rest (moves.within within)
      (moves.inTick good within inTick here)
      (fun e member => sameTick e (List.mem_cons_of_mem _ member)) later
    have first := moves.answers_iff.mpr ⟨inTick, sameTick event List.mem_cons_self⟩
    exact ⟨ended, List.forall_mem_cons.mpr ⟨first, answers⟩⟩

/-- A tick that runs to its end polls every device in turn. -/
theorem tickLog_of_answers {cfg : ConnectionConfig} {backoff : Backoff}
    {actions : List PollerAction} {rest : List (PollerInput × List PollerAction)} {poller : Poller}
    (run : Run (Poller.Step cfg) ⟨.ticking, backoff⟩ ((.tick, actions) :: rest) poller)
    (answers : ∀ e ∈ rest, e.1.answers = true) (ended : poller.phase = .ticking) :
    TickLog cfg cfg.devices (actionsOf ((.tick, actions) :: rest)) := by
  obtain ⟨between, moved, later⟩ := Run.cons_iff.mp run
  have completes := completes_of_answers later answers ended
  -- The first step is the tick; what follows completes the loop over the devices.
  cases Poller.moves_of_next moved with
  | ticked =>
    rw [actionsOf_cons]
    exact pollDevices_completes completes

/-- An undisturbed tick polls every device in turn and keeps the connection. -/
theorem PollTick.tickLog {cfg : ConnectionConfig}
    (good : ∀ device ∈ cfg.devices, ∀ block ∈ device.blocks, block.WellFormed)
    {backoff : Backoff} {events : List (PollerInput × List PollerAction)} {poller : Poller}
    (tick : PollTick cfg backoff events poller) (calm : Undisturbed (actionsOf events)) :
    poller.phase = .ticking ∧ TickLog cfg cfg.devices (actionsOf events) := by
  obtain ⟨actions, rest, rfl, sameTick⟩ := tick.begins
  obtain ⟨between, moved, run⟩ := Run.cons_iff.mp tick.run
  rw [actionsOf_cons] at calm
  cases Poller.moves_of_next moved with
  | ticked =>
    obtain ⟨ended, answers⟩ := answers_of_calm good run
      (pollDevices_within cfg _ (List.Subset.refl _)) (pollDevices_inTick cfg _) sameTick
      (calm.mono (List.subset_append_right _ _)) tick.ended
    exact ⟨ended, tickLog_of_answers tick.run answers ended⟩

/-! ### What the log of a device tells -/

/-- The problem of the first block that was not read. -/
def firstProblem (results : List (BlockConfig × BlockResult)) : Option String :=
  results.findSome? fun r => r.2.problem?

/-- The decoded points of the blocks that were read. -/
def readingsOf (device : DeviceConfig) (results : List (BlockConfig × BlockResult)) :
    List Reading :=
  results.flatMap fun r => match r.2 with
    | .words words => ((decode r.1 words).getD []).map fun v => ⟨⟨device.id, v.1⟩, v.2⟩
    | _ => []

section

variable {cfg : ConnectionConfig} {device : DeviceConfig} {blocks : List BlockConfig}
  {log : List PollerAction}

/-- A device is offered the points of the blocks it was read. -/
theorem DeviceLog.offers_eq (polled : DeviceLog cfg device blocks log) :
    offers log = readingsOf device (reads log) := by
  induction polled with
  | done => rfl
  | words decoded all rest ih =>
    simp [PollerAction.offer?, PollerAction.read?, readingsOf, decoded, all] at ih ⊢
    exact ih
  | @failed block blocks result reason problem =>
    cases result <;>
      simp [PollerAction.offer?, PollerAction.read?, readingsOf, BlockResult.problem?] at problem ⊢

/-- It gets one report, of the first problem if there is one. -/
theorem DeviceLog.reports_eq (polled : DeviceLog cfg device blocks log) :
    reports log = [deviceEvent cfg device (firstProblem (reads log))] := by
  induction polled with
  | done => rfl
  | words decoded all rest ih =>
    simp [PollerAction.report?, PollerAction.read?, firstProblem, BlockResult.problem?] at ih ⊢
    exact ih
  | failed problem =>
    simp [PollerAction.report?, PollerAction.read?, firstProblem, problem]

/-- Blocks are read in order, up to the first one that fails. -/
theorem DeviceLog.reads_shape (polled : DeviceLog cfg device blocks log) :
    (reads log).map Prod.fst <+: blocks ∧
    (∀ r ∈ (reads log).dropLast, ∃ words, r.2 = .words words) ∧
    (firstProblem (reads log) = none ↔
      (reads log).map Prod.fst = blocks ∧ ∀ r ∈ reads log, ∃ words, r.2 = .words words) := by
  induction polled with
  | done => simp [PollerAction.read?, firstProblem]
  | @words block blocks words values offered log decoded all rest ih =>
    obtain ⟨order, earlier, complete⟩ := ih
    have whole : reads (.request device block :: .read device block (.words words) ::
        (frameDelays cfg ++ (offered.map (fun o => .offer device block words o.1 o.2) ++ log))) =
        (block, .words words) :: reads log := by
      simp [PollerAction.read?]
    have problem : firstProblem ((block, .words words) :: reads log) =
        firstProblem (reads log) := by
      simp [firstProblem, BlockResult.problem?]
    rw [whole, problem]
    refine ⟨List.prefix_cons_inj block |>.mpr order, ?_, ?_⟩
    · -- Only the last read can have failed, and the first is not the last.
      intro r member
      cases others : reads log with
      | nil => simp [others] at member
      | cons first results =>
        rw [others, List.dropLast_cons_cons, List.mem_cons] at member
        rcases member with rfl | member
        · exact ⟨words, rfl⟩
        · exact earlier r (others ▸ member)
    · rw [complete, List.map_cons, List.cons.injEq]
      simp
  | @failed block blocks result reason problem =>
    have failed : ∀ words, result ≠ .words words := by
      rintro words rfl
      cases problem
    simp [PollerAction.read?, firstProblem, problem, failed]

/-- Two polls of a device whose reads answer alike as far as both get are read alike. -/
theorem DeviceLog.reads_eq {log' : List PollerAction} (polled : DeviceLog cfg device blocks log)
    (polled' : DeviceLog cfg device blocks log')
    (same : ∀ (k : Nat) r r', ((reads log).map Prod.snd)[k]? = some r →
      ((reads log').map Prod.snd)[k]? = some r' → r = r') : reads log = reads log' := by
  -- Both polls stand at the same block: equal results take both on or end both.
  induction polled generalizing log' with
  | done =>
    cases polled'
    rfl
  | @words block blocks words values offered log decoded all rest ih =>
    cases polled' with
    | words decoded' all' rest' =>
      simp only [reads_cons, reads_append, reads_frameDelays, reads_offered, PollerAction.read?,
        Option.toList_none, Option.toList_some, List.nil_append, List.singleton_append,
        List.map_cons] at same ⊢
      have head := same 0 _ _ rfl rfl
      have tail := ih rest' fun k r r' here there => same (k + 1) r r' here there
      rw [head, tail]
    | @failed _ _ result reason problem =>
      have head : BlockResult.words words = result := same 0 _ _ rfl rfl
      rw [← head] at problem
      cases problem
  | @failed block blocks result reason problem =>
    cases polled' with
    | @words _ _ words =>
      have head : result = BlockResult.words words := same 0 _ _ rfl rfl
      rw [head] at problem
      cases problem
    | @failed _ _ result' reason' problem' =>
      have head : result = result' := same 0 _ _ rfl rfl
      simp [PollerAction.read?, head]

end

/-! ### Segments of a tick -/

/-- The poller turns to some unit. -/
def PollerAction.turns : PollerAction → Bool
  | .setSlave _ => true
  | _ => false

def PollerAction.turnsTo (unitId : UInt8) : PollerAction → Bool
  | .setSlave other => other == unitId
  | _ => false

@[simp] theorem PollerAction.turnsTo_setSlave (unitId other : UInt8) :
    (PollerAction.setSlave other).turnsTo unitId = (other == unitId) := rfl

theorem PollerAction.turnsTo_eq_false (unitId : UInt8) {action : PollerAction}
    (stays : action.turns = false) : action.turnsTo unitId = false := by
  cases action <;> first | rfl | cases stays

/-- What was done after turning to a unit, up to the next turn. -/
def segment (unitId : UInt8) (log : List PollerAction) : List PollerAction :=
  ((log.dropWhile fun action => !action.turnsTo unitId).drop 1).takeWhile
    fun action => !action.turns

theorem DeviceLog.stays {cfg : ConnectionConfig} {device : DeviceConfig}
    {blocks : List BlockConfig} {log : List PollerAction}
    (polled : DeviceLog cfg device blocks log) : ∀ action ∈ log, action.turns = false := by
  have pauses : ∀ action ∈ frameDelays cfg, action.turns = false := by
    intro action member
    obtain ⟨delay, _, rfl⟩ := List.mem_map.mp member
    rfl
  induction polled with
  | done => simp [PollerAction.turns]
  | words decoded all rest ih =>
    intro action member
    rcases List.mem_cons.mp member with rfl | member
    · rfl
    rcases List.mem_cons.mp member with rfl | member
    · rfl
    rcases List.mem_append.mp member with pause | member
    · exact pauses action pause
    rcases List.mem_append.mp member with offered | later
    · obtain ⟨o, _, rfl⟩ := List.mem_map.mp offered
      rfl
    · exact ih action later
  | failed problem =>
    intro action member
    rcases List.mem_cons.mp member with rfl | member
    · rfl
    rcases List.mem_cons.mp member with rfl | member
    · rfl
    rcases List.mem_append.mp member with pause | report
    · exact pauses action pause
    · rw [List.mem_singleton.mp report]
      rfl

/-- The segment of a unit ends at the next turn. -/
theorem DeviceLog.segment_own {cfg : ConnectionConfig} {device : DeviceConfig}
    {blocks : List BlockConfig} {devices : List DeviceConfig} {own rest : List PollerAction}
    (polled : DeviceLog cfg device blocks own) (others : TickLog cfg devices rest) :
    segment device.unitId (.setSlave device.unitId :: (own ++ rest)) = own := by
  have turned : segment device.unitId (.setSlave device.unitId :: (own ++ rest)) =
      (own ++ rest).takeWhile fun action => !action.turns := by
    simp [segment]
  have ends : rest.takeWhile (fun action => !action.turns) = [] := by
    cases others <;> simp [PollerAction.turns]
  have whole : ∀ action ∈ own, (!action.turns) = true := by
    intro action listed
    rw [polled.stays action listed]
    rfl
  rw [turned, List.takeWhile_append_of_pos whole, ends, List.append_nil]

/-- Another unit's poll is passed over as a whole: nothing in it turns to a unit. -/
theorem DeviceLog.segment_other {cfg : ConnectionConfig} {first : DeviceConfig}
    {blocks : List BlockConfig} {own : List PollerAction}
    (polled : DeviceLog cfg first blocks own) {unitId : UInt8} (other : first.unitId ≠ unitId)
    (rest : List PollerAction) :
    segment unitId (.setSlave first.unitId :: (own ++ rest)) = segment unitId rest := by
  have skips : ∀ action ∈ own, (!action.turnsTo unitId) = true := by
    intro action listed
    rw [PollerAction.turnsTo_eq_false _ (polled.stays action listed)]
    rfl
  simp [segment, List.dropWhile_cons, other, List.dropWhile_append_of_pos skips]

/-- A tick turns to each unit once, so the segment of a unit is its device's poll. -/
theorem TickLog.segment_polled {cfg : ConnectionConfig} {devices : List DeviceConfig}
    {log : List PollerAction} (tick : TickLog cfg devices log)
    (distinct : (devices.map DeviceConfig.unitId).Nodup) {device : DeviceConfig}
    (member : device ∈ devices) :
    DeviceLog cfg device device.blocks (segment device.unitId log) := by
  induction tick with
  | done => simp at member
  | @device first devices own rest polled others ih =>
    rw [List.map_cons, List.nodup_cons] at distinct
    rcases List.mem_cons.mp member with rfl | later
    · rw [polled.segment_own others]
      exact polled
    · have other : first.unitId ≠ device.unitId := fun same =>
        distinct.1 (same ▸ List.mem_map_of_mem later)
      rw [polled.segment_other other]
      exact ih distinct.2 later

/-! ### Isolation -/

/-- What a tick tells about one device: its reads' results, its readings, its reports. -/
def resultsOf (device : DeviceConfig) (log : List PollerAction) : List BlockResult :=
  (reads (segment device.unitId log)).map Prod.snd

def offersOf (device : DeviceConfig) (log : List PollerAction) : List Reading :=
  offers (segment device.unitId log)

def reportsOf (device : DeviceConfig) (log : List PollerAction) : List StatusEvent :=
  reports (segment device.unitId log)

/-- A poll of one device, summed up: one report, of the first block that failed, and
the decoded points of the blocks before it. -/
structure DevicePolled (cfg : ConnectionConfig) (device : DeviceConfig)
    (log : List PollerAction) : Prop where
  in_order : (reads (segment device.unitId log)).map Prod.fst <+: device.blocks
  read_before : ∀ result ∈ (resultsOf device log).dropLast, ∃ words, result = .words words
  offered : offersOf device log = readingsOf device (reads (segment device.unitId log))
  reported : reportsOf device log =
    [deviceEvent cfg device (firstProblem (reads (segment device.unitId log)))]
  ok_iff : reportsOf device log = [.deviceOk cfg.id device.id] ↔
    (resultsOf device log).length = device.blocks.length ∧
      ∀ result ∈ resultsOf device log, ∃ words, result = .words words

theorem DeviceLog.devicePolled {cfg : ConnectionConfig} {device : DeviceConfig}
    {log : List PollerAction}
    (polled : DeviceLog cfg device device.blocks (segment device.unitId log)) :
    DevicePolled cfg device log := by
  obtain ⟨order, earlier, complete⟩ := polled.reads_shape
  refine ⟨order, ?_, polled.offers_eq, polled.reports_eq, ?_⟩
  · intro result member
    rw [resultsOf, ← List.map_dropLast] at member
    obtain ⟨r, listed, rfl⟩ := List.mem_map.mp member
    exact earlier r listed
  · have ok : reportsOf device log = [.deviceOk cfg.id device.id] ↔
        firstProblem (reads (segment device.unitId log)) = none := by
      rw [reportsOf, polled.reports_eq]
      cases firstProblem (reads (segment device.unitId log)) <;> simp [deviceEvent]
    -- The blocks read are a prefix, so their number tells whether they are all.
    have all : (reads (segment device.unitId log)).map Prod.fst = device.blocks ↔
        (resultsOf device log).length = device.blocks.length := by
      constructor
      · intro same
        rw [← same, resultsOf, List.length_map, List.length_map]
      · intro same
        rw [resultsOf, List.length_map] at same
        exact order.eq_of_length (by rw [List.length_map, same])
    rw [ok, complete, all]
    simp only [resultsOf, List.mem_map, forall_exists_index, and_imp,
      forall_apply_eq_imp_iff₂]

/-- Fault isolation between the devices of a connection. In two undisturbed ticks whose
reads of one device answer alike, the device is polled alike: same readings, same
single report. Whatever the other devices did, the connection is kept. -/
theorem device_isolation {host : Host} {config : Config}
    (accepted : validate host config = .ok ()) {conn : ConnectionConfig}
    (connected : conn ∈ config.connections) {device : DeviceConfig}
    (configured : device ∈ conn.devices) {backoff backoff' : Backoff}
    {events events' : List (PollerInput × List PollerAction)} {poller poller' : Poller}
    (tick : PollTick conn backoff events poller) (tick' : PollTick conn backoff' events' poller')
    (calm : Undisturbed (actionsOf events)) (calm' : Undisturbed (actionsOf events'))
    (same : ∀ (k : Nat) r r', (resultsOf device (actionsOf events))[k]? = some r →
      (resultsOf device (actionsOf events'))[k]? = some r' → r = r') :
    offersOf device (actionsOf events) = offersOf device (actionsOf events') ∧
    reportsOf device (actionsOf events) = reportsOf device (actionsOf events') ∧
    DevicePolled conn device (actionsOf events) ∧ DevicePolled conn device (actionsOf events') ∧
    poller.phase = .ticking ∧ poller'.phase = .ticking := by
  have good := wellFormed_of_validate accepted connected
  obtain ⟨ended, log⟩ := tick.tickLog good.blocks calm
  obtain ⟨ended', log'⟩ := tick'.tickLog good.blocks calm'
  have polled := log.segment_polled good.unit_ids_distinct configured
  have polled' := log'.segment_polled good.unit_ids_distinct configured
  -- Both segments are polls of the same device; what they show depends on its reads alone.
  have alike := polled.reads_eq polled' same
  refine ⟨?_, ?_, polled.devicePolled, polled'.devicePolled, ended, ended'⟩
  · rw [offersOf, offersOf, polled.offers_eq, polled'.offers_eq, alike]
  · rw [reportsOf, reportsOf, polled.reports_eq, polled'.reports_eq, alike]

private theorem alike_of_eq {results results' : List BlockResult} (same : results = results') :
    ∀ (k : Nat) r r', results[k]? = some r → results'[k]? = some r' → r = r' := by
  intro k r r' here there
  rw [same, there] at here
  exact (Option.some.inj here).symm

theorem device_isolation_tempSensor :
    ∃ (events events' : List (PollerInput × List PollerAction)) (poller poller' : Poller),
      PollTick rs485Bus1 (.new (.fromSecs 1) (.fromSecs 30)) events poller ∧
      PollTick rs485Bus1 (.new (.fromSecs 1) (.fromSecs 30)) events' poller' ∧
      resultsOf (tempSensor "tempsensor1" 5) (actionsOf events) ≠
        resultsOf (tempSensor "tempsensor1" 5) (actionsOf events') ∧
      offersOf (tempSensor "tempsensor2" 6) (actionsOf events) =
        offersOf (tempSensor "tempsensor2" 6) (actionsOf events') := by
  have sensor : tempSensor "tempsensor2" 6 ∈ rs485Bus1.devices :=
    List.mem_cons_of_mem _ List.mem_cons_self
  have tick : PollTick rs485Bus1 (.new (.fromSecs 1) (.fromSecs 30))
      [(.tick, _), (.response none, _), (.response (some (.ok (.ok [1, 2]))), _),
        (.trySend .ok, _), (.trySend .full, _)] _ :=
    ⟨.cons rfl (.cons rfl (.cons rfl (.cons rfl (.single rfl)))), ⟨_, _, rfl, by simp⟩, rfl⟩
  have tick' : PollTick rs485Bus1 (.new (.fromSecs 1) (.fromSecs 30))
      [(.tick, _), (.response (some (.ok (.ok [3, 4]))), _), (.trySend .ok, _),
        (.trySend .ok, _), (.response (some (.ok (.ok [1, 2]))), _), (.trySend .ok, _),
        (.trySend .ok, _)] _ :=
    ⟨.cons rfl (.cons rfl (.cons rfl (.cons rfl (.cons rfl (.cons rfl (.single rfl)))))),
      ⟨_, _, rfl, by simp⟩, rfl⟩
  have isolated := device_isolation exampleConfig_accepted rs485Bus1_mem sensor tick tick'
    ⟨by decide +kernel, by decide +kernel, by decide +kernel⟩
    ⟨by decide +kernel, by decide +kernel, by decide +kernel⟩
    (alike_of_eq (by decide +kernel))
  exact ⟨_, _, _, _, tick, tick', by decide +kernel, isolated.1⟩

/-- With the channel closed, the first reading sent ends the task. Which device that
reading belongs to, and so whether a later device is polled at all, depends on the
results of the devices before it; and a device whose only block was read gets no report. -/
theorem device_isolation_ends_with_channel :
    ∃ (events events' : List (PollerInput × List PollerAction)) (poller poller' : Poller),
      PollTick rs485Bus1 (.new (.fromSecs 1) (.fromSecs 30)) events poller ∧
      PollTick rs485Bus1 (.new (.fromSecs 1) (.fromSecs 30)) events' poller' ∧
      (∀ r ∈ reads (actionsOf events) ++ reads (actionsOf events'),
        r.2 ≠ .transportFatal ∧ r.2.Full r.1) ∧
      resultsOf (tempSensor "tempsensor2" 6) (actionsOf events) = [.words [1, 2]] ∧
      reportsOf (tempSensor "tempsensor2" 6) (actionsOf events) = [] ∧
      resultsOf (tempSensor "tempsensor2" 6) (actionsOf events') = [] ∧
      offersOf (tempSensor "tempsensor2" 6) (actionsOf events) ≠
        offersOf (tempSensor "tempsensor2" 6) (actionsOf events') := by
  -- First the other sensor times out, then it answers and its reading finds the channel closed.
  refine ⟨[(.tick, _), (.response none, _), (.response (some (.ok (.ok [1, 2]))), _),
      (.trySend .closed, _)],
    [(.tick, _), (.response (some (.ok (.ok [1, 2]))), _), (.trySend .closed, _)], _, _,
    ⟨.cons rfl (.cons rfl (.cons rfl (.single rfl))), ⟨_, _, rfl, by simp⟩, rfl⟩,
    ⟨.cons rfl (.cons rfl (.single rfl)), ⟨_, _, rfl, by simp⟩, rfl⟩, ?_⟩
  decide +kernel

end ModbusGateway
