import ModbusGateway.Foundation.Runs
import ModbusGateway.Modbus.Decode
import ModbusGateway.Status
import ModbusGateway.Time
import ModbusGateway.Types

/-!
# The poller of one connection

`run_connection` as a state machine. A phase is a point where the task awaits
something; an input is what it gets there, and the actions are everything it
does until the next such point, in order. The nested loops over devices and
blocks are the cursor: what is being read and what is still to come.
-/
namespace ModbusGateway

/-- Exponential reconnect backoff, doubling from `min` up to `max`. -/
structure Backoff where
  min : Duration
  max : Duration
  current : Duration
  deriving DecidableEq

namespace Backoff

def new (min max : Duration) : Backoff := ⟨min, max, min⟩

/-- What is left of the backoff after sleeping for `current`. -/
def wait (backoff : Backoff) : Option Backoff :=
  -- `Duration * 2` panics where it overflows, also if `max` would cap the result.
  (backoff.current.mul? 2).map fun doubled =>
    { backoff with current := doubled.min backoff.max }

def reset (backoff : Backoff) : Backoff := { backoff with current := backoff.min }

end Backoff

/-- A Modbus exception code; only its `Display` text is used. -/
structure ExceptionCode where
  display : String
  deriving DecidableEq

/-- `tokio_modbus::Error`. -/
inductive ModbusError where
  | protocol
  | transport
  deriving DecidableEq

def isTransportFatal : ModbusError → Bool
  | .transport => true
  | .protocol => false

/-- Outcome of reading one block, collapsed to what the poll loop acts on. -/
inductive BlockResult where
  | words (words : List UInt16)
  | exception (code : ExceptionCode)
  | protocol
  | timeout
  | transportFatal
  deriving DecidableEq

/-- What a read request ends with; `none` when the timeout comes first. -/
abbrev Response := Option (Except ModbusError (Except ExceptionCode (List UInt16)))

def readBlock : Response → BlockResult
  | some (.ok (.ok words)) => .words words
  | some (.ok (.error code)) => .exception code
  | some (.error e) => if isTransportFatal e then .transportFatal else .protocol
  | none => .timeout

def interFrameDelay : Transport → Option Duration
  | .rtu _ _ _ _ _ interFrameDelayMs =>
    if interFrameDelayMs > 0 then some (.fromMillis interFrameDelayMs) else none
  | .tcp .. => none

/-- The outcome of `tx.try_send`. -/
inductive TrySend where
  | ok
  | full
  | closed
  deriving DecidableEq

/-- The position in the loops over devices and blocks. -/
structure Cursor where
  device : DeviceConfig
  block : BlockConfig
  blocks : List BlockConfig
  devices : List DeviceConfig
  deriving DecidableEq

inductive PollerPhase where
  | connecting
  | backingOff
  | ticking
  | reading (cursor : Cursor)
  | offering (cursor : Cursor) (words : List UInt16) (value : String × F64)
      (values : List (String × F64))
  | returned
  | panicked
  deriving DecidableEq

inductive PollerInput where
  | connect (succeeded : Bool)
  | slept
  | tick
  | response (response : Response)
  | trySend (outcome : TrySend)

inductive PollerAction where
  | report (event : StatusEvent)
  | setSlave (unitId : UInt8)
  | request (device : DeviceConfig) (block : BlockConfig)
  | read (device : DeviceConfig) (block : BlockConfig) (result : BlockResult)
  | sleep (delay : Duration)
  | offer (device : DeviceConfig) (block : BlockConfig) (words : List UInt16) (reading : Reading)
      (outcome : TrySend)
  deriving DecidableEq

structure Poller where
  phase : PollerPhase
  backoff : Backoff
  deriving DecidableEq

section

variable (cfg : ConnectionConfig)

def deviceEvent (device : DeviceConfig) : Option String → StatusEvent
  | none => .deviceOk cfg.id device.id
  | some reason => .deviceProblem cfg.id device.id reason

/-- The loop over the devices, up to the first read. -/
def pollDevices : List DeviceConfig → PollerPhase × List PollerAction
  | [] => (.ticking, [])
  | device :: devices =>
    match device.blocks with
    | [] =>
      -- A device without blocks has nothing that could fail.
      let (phase, actions) := pollDevices devices
      (phase, .setSlave device.unitId :: .report (deviceEvent cfg device none) :: actions)
    | block :: blocks =>
      (.reading ⟨device, block, blocks, devices⟩,
        [.setSlave device.unitId, .request device block])

/-- What follows the loop over a device's blocks. -/
def finishDevice (cursor : Cursor) (problem : Option String) :
    PollerPhase × List PollerAction :=
  let (phase, actions) := pollDevices cfg cursor.devices
  (phase, .report (deviceEvent cfg cursor.device problem) :: actions)

def nextBlock (cursor : Cursor) : PollerPhase × List PollerAction :=
  match cursor.blocks with
  | [] => finishDevice cfg cursor none
  | block :: blocks =>
    (.reading { cursor with block, blocks }, [.request cursor.device block])

/-- The loop over decoded values, up to the next `try_send`. -/
def offerValues (cursor : Cursor) (words : List UInt16) :
    List (String × F64) → PollerPhase × List PollerAction
  | [] => nextBlock cfg cursor
  | value :: values => (.offering cursor words value values, [])

/-- Leaving the poll loop, or a failed connect: `backoff.wait` begins. -/
def backOff (backoff : Backoff) : Poller × List PollerAction :=
  (⟨.backingOff, backoff⟩, [.report (.connectionDown cfg.id), .sleep backoff.current])

/-- The `match` on the result of `read_block`. -/
def handleResult (backoff : Backoff) (cursor : Cursor) :
    BlockResult → Poller × List PollerAction
  | .words words =>
    -- Any successful read resets the backoff, before its words are decoded.
    match decode cursor.block words with
    | none => (⟨.panicked, backoff.reset⟩, [])
    | some values =>
      let (phase, actions) := offerValues cfg cursor words values
      (⟨phase, backoff.reset⟩, actions)
  | .exception code => failed s!"exception: {code.display}"
  | .protocol => failed "protocol error"
  | .timeout => failed "timeout"
  | .transportFatal => backOff cfg backoff
where
  failed (reason : String) : Poller × List PollerAction :=
    let (phase, actions) := finishDevice cfg cursor (some reason)
    (⟨phase, backoff⟩, actions)

/-- The pause after a read on a serial bus. -/
def frameDelays : List PollerAction :=
  (interFrameDelay cfg.transport).toList.map .sleep

/-- The reading sent for a decoded value. -/
def Cursor.readingOf (cursor : Cursor) (value : String × F64) : Reading :=
  ⟨⟨cursor.device.id, value.1⟩, value.2⟩

namespace Poller

/-- `run_connection` before its first connect. -/
def start : Poller :=
  ⟨.connecting, .new (.fromSecs cfg.reconnectBackoffMinSecs)
    (.fromSecs cfg.reconnectBackoffMaxSecs)⟩

/-- One step from one await to the next; no result where the input does not fit. -/
def next (poller : Poller) (input : PollerInput) : Option (Poller × List PollerAction) :=
  match poller.phase, input with
  | .connecting, .connect true =>
    some ({ poller with phase := .ticking }, [.report (.connectionUp cfg.id)])
  | .connecting, .connect false => some (backOff cfg poller.backoff)
  | .backingOff, .slept =>
    match poller.backoff.wait with
    | some backoff => some (⟨.connecting, backoff⟩, [])
    | none => some ({ poller with phase := .panicked }, [])
  | .ticking, .tick =>
    let (phase, actions) := pollDevices cfg cfg.devices
    some ({ poller with phase }, actions)
  | .reading cursor, .response response =>
    -- The pause on a serial bus comes before the result is looked at.
    let result := readBlock response
    let (poller, actions) := handleResult cfg poller.backoff cursor result
    some (poller, .read cursor.device cursor.block result :: frameDelays cfg ++ actions)
  | .offering cursor words value values, .trySend outcome =>
    let offer := .offer cursor.device cursor.block words (cursor.readingOf value) outcome
    match outcome with
    | .closed => some ({ poller with phase := .returned }, [offer])
    -- A full channel drops the reading, and the loop goes on to the next.
    | .ok | .full =>
      let (phase, actions) := offerValues cfg cursor words values
      some ({ poller with phase }, offer :: actions)
  | _, _ => none

/-- Steps labelled with their input and actions. -/
def Step (poller : Poller) (event : PollerInput × List PollerAction) (poller' : Poller) : Prop :=
  poller.next cfg event.1 = some (poller', event.2)

end Poller

end

/-! ### What a step can do -/

/-- The problem a failed read gives its device. -/
def BlockResult.problem? : BlockResult → Option String
  | .exception code => some s!"exception: {code.display}"
  | .protocol => some "protocol error"
  | .timeout => some "timeout"
  | .words _ | .transportFatal => none

/-- Every way a poller can move, with the result of `read_block` taken apart. -/
inductive Poller.Moves (cfg : ConnectionConfig) :
    Poller → PollerInput → Poller → List PollerAction → Prop where
  | connected (backoff : Backoff) :
      Moves cfg ⟨.connecting, backoff⟩ (.connect true) ⟨.ticking, backoff⟩
        [.report (.connectionUp cfg.id)]
  | connectFailed (backoff : Backoff) :
      Moves cfg ⟨.connecting, backoff⟩ (.connect false) ⟨.backingOff, backoff⟩
        [.report (.connectionDown cfg.id), .sleep backoff.current]
  | slept (backoff backoff' : Backoff) (doubled : backoff.wait = some backoff') :
      Moves cfg ⟨.backingOff, backoff⟩ .slept ⟨.connecting, backoff'⟩ []
  | overflowed (backoff : Backoff) (overflow : backoff.wait = none) :
      Moves cfg ⟨.backingOff, backoff⟩ .slept ⟨.panicked, backoff⟩ []
  | ticked (backoff : Backoff) :
      Moves cfg ⟨.ticking, backoff⟩ .tick ⟨(pollDevices cfg cfg.devices).1, backoff⟩
        (pollDevices cfg cfg.devices).2
  | words (backoff : Backoff) (cursor : Cursor) (response : Response) (words : List UInt16)
      (values : List (String × F64)) (result : readBlock response = .words words)
      (decoded : decode cursor.block words = some values) :
      Moves cfg ⟨.reading cursor, backoff⟩ (.response response)
        ⟨(offerValues cfg cursor words values).1, backoff.reset⟩
        (.read cursor.device cursor.block (.words words) :: frameDelays cfg ++
          (offerValues cfg cursor words values).2)
  | undecodable (backoff : Backoff) (cursor : Cursor) (response : Response)
      (words : List UInt16) (result : readBlock response = .words words)
      (outOfRange : decode cursor.block words = none) :
      Moves cfg ⟨.reading cursor, backoff⟩ (.response response) ⟨.panicked, backoff.reset⟩
        (.read cursor.device cursor.block (.words words) :: frameDelays cfg)
  | failed (backoff : Backoff) (cursor : Cursor) (response : Response) (result : BlockResult)
      (reason : String) (read : readBlock response = result)
      (problem : result.problem? = some reason) :
      Moves cfg ⟨.reading cursor, backoff⟩ (.response response)
        ⟨(finishDevice cfg cursor (some reason)).1, backoff⟩
        (.read cursor.device cursor.block result :: frameDelays cfg ++
          (finishDevice cfg cursor (some reason)).2)
  | fatal (backoff : Backoff) (cursor : Cursor) (response : Response)
      (result : readBlock response = .transportFatal) :
      Moves cfg ⟨.reading cursor, backoff⟩ (.response response) ⟨.backingOff, backoff⟩
        (.read cursor.device cursor.block .transportFatal :: frameDelays cfg ++
          [.report (.connectionDown cfg.id), .sleep backoff.current])
  | refused (backoff : Backoff) (cursor : Cursor) (words : List UInt16)
      (value : String × F64) (values : List (String × F64)) :
      Moves cfg ⟨.offering cursor words value values, backoff⟩ (.trySend .closed)
        ⟨.returned, backoff⟩
        [.offer cursor.device cursor.block words (cursor.readingOf value) .closed]
  | offered (backoff : Backoff) (cursor : Cursor) (words : List UInt16)
      (value : String × F64) (values : List (String × F64)) (outcome : TrySend)
      (kept : outcome ≠ .closed) :
      Moves cfg ⟨.offering cursor words value values, backoff⟩ (.trySend outcome)
        ⟨(offerValues cfg cursor words values).1, backoff⟩
        (.offer cursor.device cursor.block words (cursor.readingOf value) outcome ::
          (offerValues cfg cursor words values).2)

theorem Poller.moves_of_next {cfg : ConnectionConfig} {poller poller' : Poller}
    {input : PollerInput} {actions : List PollerAction}
    (moved : poller.next cfg input = some (poller', actions)) :
    Poller.Moves cfg poller input poller' actions := by
  obtain ⟨phase, backoff⟩ := poller
  unfold next at moved
  -- One case for each phase with the input it awaits.
  split at moved
  next at_phase => cases at_phase; cases moved; exact .connected backoff
  next at_phase => cases at_phase; cases moved; exact .connectFailed backoff
  next at_phase =>
    cases at_phase
    cases waited : backoff.wait with
    | none => simp only [waited] at moved; cases moved; exact .overflowed backoff waited
    | some backoff' => simp only [waited] at moved; cases moved; exact .slept backoff _ waited
  next at_phase => cases at_phase; cases moved; exact .ticked backoff
  next cursor response at_phase =>
    cases at_phase
    cases read : readBlock response with
    | words words =>
      cases decoded : decode cursor.block words with
      | none =>
        simp only [read, handleResult, decoded, List.append_nil] at moved
        cases moved
        exact .undecodable backoff cursor response words read decoded
      | some values =>
        simp only [read, handleResult, decoded] at moved
        cases moved
        exact .words backoff cursor response words values read decoded
    | exception | protocol | timeout =>
      simp only [read, handleResult, handleResult.failed] at moved
      cases moved
      exact .failed backoff cursor response _ _ read rfl
    | transportFatal =>
      simp only [read, handleResult, backOff] at moved
      cases moved
      exact .fatal backoff cursor response read
  next cursor words value values outcome at_phase =>
    cases at_phase
    cases outcome with
    | closed => cases moved; exact .refused backoff cursor words value values
    | ok | full =>
      cases moved
      exact .offered backoff cursor words value values _ (by decide)
  next => cases moved

/-! ### The cursor stays in the configuration -/

structure Cursor.Within (cfg : ConnectionConfig) (cursor : Cursor) : Prop where
  device : cursor.device ∈ cfg.devices
  block : cursor.block ∈ cursor.device.blocks
  blocks : cursor.blocks ⊆ cursor.device.blocks
  devices : cursor.devices ⊆ cfg.devices

/-- What a phase holds comes from the configuration, and values that are being
sent from decoding the block under the cursor. -/
def PollerPhase.Within (cfg : ConnectionConfig) : PollerPhase → Prop
  | .reading cursor => cursor.Within cfg
  | .offering cursor words value values => cursor.Within cfg ∧
      ∃ decoded, decode cursor.block words = some decoded ∧ value :: values <:+ decoded
  | _ => True

theorem pollDevices_within (cfg : ConnectionConfig) (devices : List DeviceConfig)
    (listed : devices ⊆ cfg.devices) : (pollDevices cfg devices).1.Within cfg := by
  induction devices with
  | nil => trivial
  | cons device devices ih =>
    obtain ⟨here, rest⟩ := List.cons_subset.mp listed
    unfold pollDevices
    cases blocks : device.blocks with
    | nil => exact ih rest
    | cons block others =>
      have all : block :: others ⊆ device.blocks := blocks ▸ List.Subset.refl _
      exact ⟨here, (List.cons_subset.mp all).1, (List.cons_subset.mp all).2, rest⟩

theorem nextBlock_within {cfg : ConnectionConfig} {cursor : Cursor}
    (within : cursor.Within cfg) : (nextBlock cfg cursor).1.Within cfg := by
  unfold nextBlock
  cases blocks : cursor.blocks with
  | nil => exact pollDevices_within cfg cursor.devices within.devices
  | cons block others =>
    have left := within.blocks
    rw [blocks] at left
    exact ⟨within.device, (List.cons_subset.mp left).1, (List.cons_subset.mp left).2,
      within.devices⟩

theorem offerValues_within {cfg : ConnectionConfig} {cursor : Cursor}
    (within : cursor.Within cfg) (words : List UInt16) (values : List (String × F64))
    (origin : ∃ decoded, decode cursor.block words = some decoded ∧ values <:+ decoded) :
    (offerValues cfg cursor words values).1.Within cfg := by
  cases values with
  | nil => exact nextBlock_within within
  | cons value values => exact ⟨within, origin⟩

theorem Poller.Moves.within {cfg : ConnectionConfig} {poller poller' : Poller}
    {input : PollerInput} {actions : List PollerAction}
    (moves : Poller.Moves cfg poller input poller' actions)
    (before : poller.phase.Within cfg) : poller'.phase.Within cfg := by
  cases moves with
  | connected | connectFailed | slept | overflowed | undecodable | fatal | refused => trivial
  | ticked => exact pollDevices_within cfg _ (List.Subset.refl _)
  | words backoff cursor response words values result decoded =>
    exact offerValues_within before words values ⟨values, decoded, List.suffix_refl _⟩
  | failed backoff cursor => exact pollDevices_within cfg _ before.devices
  | offered backoff cursor words value values outcome kept =>
    -- What is still to be sent is a shorter end of the same decoded list.
    obtain ⟨within, decoded, found, suffix⟩ := before
    exact offerValues_within within words values
      ⟨decoded, found, (List.suffix_cons value values).trans suffix⟩

/-! ### What moving on does -/

/-- The block whose reply a phase awaits. -/
def PollerPhase.awaits : PollerPhase → List (DeviceConfig × BlockConfig)
  | .reading cursor => [(cursor.device, cursor.block)]
  | _ => []

def PollerAction.request? : PollerAction → Option (DeviceConfig × BlockConfig)
  | .request device block => some (device, block)
  | _ => none

/-- The read requests among some actions. -/
def requests (actions : List PollerAction) : List (DeviceConfig × BlockConfig) :=
  actions.filterMap PollerAction.request?

section view

variable {α : Type} (view : PollerAction → Option α)

theorem view_cons (action : PollerAction) (actions : List PollerAction) :
    (action :: actions).filterMap view = (view action).toList ++ actions.filterMap view := by
  rw [List.filterMap_eq_flatMap_toList, List.filterMap_eq_flatMap_toList, List.flatMap_cons]

/-- A view that does not show pauses shows nothing of those between frames. -/
theorem view_frameDelays (silent : ∀ delay, view (.sleep delay) = none)
    (cfg : ConnectionConfig) : (frameDelays cfg).filterMap view = [] := by
  simp [frameDelays, silent]

end view

@[simp] theorem requests_nil : requests [] = [] := rfl

@[simp] theorem requests_cons (action : PollerAction) (actions : List PollerAction) :
    requests (action :: actions) = action.request?.toList ++ requests actions :=
  view_cons _ action actions

@[simp] theorem requests_append (actions actions' : List PollerAction) :
    requests (actions ++ actions') = requests actions ++ requests actions' :=
  List.filterMap_append

@[simp] theorem requests_frameDelays (cfg : ConnectionConfig) :
    requests (frameDelays cfg) = [] :=
  view_frameDelays _ (fun _ => rfl) cfg

/-- Actions that neither read nor send anything. -/
def PollerAction.quiet : PollerAction → Bool
  | .report _ | .setSlave _ | .request .. => true
  | _ => false

/-- Moving on sends the request whose reply it then awaits, and no values. -/
structure MovesOn (result : PollerPhase × List PollerAction) : Prop where
  requested : requests result.2 = result.1.awaits
  quiet : ∀ action ∈ result.2, action.quiet = true

theorem MovesOn.view_eq_nil {α : Type} {view : PollerAction → Option α}
    {result : PollerPhase × List PollerAction} (movesOn : MovesOn result)
    (silent : ∀ action, action.quiet = true → view action = none) :
    result.2.filterMap view = [] :=
  List.filterMap_eq_nil_iff.mpr fun action member => silent action (movesOn.quiet action member)

theorem pollDevices_movesOn (cfg : ConnectionConfig) (devices : List DeviceConfig) :
    MovesOn (pollDevices cfg devices) := by
  induction devices with
  | nil => exact ⟨rfl, by simp [pollDevices]⟩
  | cons device devices ih =>
    unfold pollDevices
    cases device.blocks with
    | nil =>
      refine ⟨ih.requested, fun action member => ?_⟩
      rcases List.mem_cons.mp member with rfl | member
      · rfl
      rcases List.mem_cons.mp member with rfl | member
      · rfl
      exact ih.quiet action member
    | cons block blocks =>
      refine ⟨rfl, fun action member => ?_⟩
      simp only [List.mem_cons, List.not_mem_nil, or_false] at member
      rcases member with rfl | rfl <;> rfl

theorem finishDevice_movesOn (cfg : ConnectionConfig) (cursor : Cursor)
    (problem : Option String) : MovesOn (finishDevice cfg cursor problem) := by
  have rest := pollDevices_movesOn cfg cursor.devices
  refine ⟨rest.requested, fun action member => ?_⟩
  rcases List.mem_cons.mp member with rfl | member
  · rfl
  · exact rest.quiet action member

theorem offerValues_movesOn (cfg : ConnectionConfig) (cursor : Cursor) (words : List UInt16)
    (values : List (String × F64)) : MovesOn (offerValues cfg cursor words values) := by
  cases values with
  | nil =>
    unfold offerValues nextBlock
    cases cursor.blocks with
    | nil => exact finishDevice_movesOn cfg cursor none
    | cons block blocks =>
      refine ⟨rfl, fun action member => ?_⟩
      rw [List.mem_singleton.mp member]
      rfl
  | cons value values => exact ⟨rfl, by simp [offerValues]⟩

theorem pollDevices_not_offering (cfg : ConnectionConfig) (devices : List DeviceConfig)
    (cursor : Cursor) (words : List UInt16) (value : String × F64)
    (values : List (String × F64)) :
    (pollDevices cfg devices).1 ≠ .offering cursor words value values := by
  induction devices with
  | nil => simp [pollDevices]
  | cons device devices ih =>
    unfold pollDevices
    cases device.blocks with
    | nil => exact ih
    | cons => simp

theorem offerValues_eq_offering {cfg : ConnectionConfig} {cursor cursor' : Cursor}
    {words words' : List UInt16} {values values' : List (String × F64)} {value : String × F64}
    (offering : (offerValues cfg cursor words values).1 =
      .offering cursor' words' value values') :
    cursor' = cursor ∧ words' = words ∧ values = value :: values' := by
  cases values with
  | nil =>
    unfold offerValues nextBlock at offering
    cases blocks : cursor.blocks with
    | nil =>
      simp only [blocks] at offering
      exact absurd offering (pollDevices_not_offering cfg _ _ _ _ _)
    | cons block rest => simp [blocks] at offering
  | cons first values =>
    cases offering
    exact ⟨rfl, rfl, rfl⟩

namespace Poller.Moves

variable {cfg : ConnectionConfig} {poller poller' : Poller} {input : PollerInput}
  {actions : List PollerAction} (moves : Poller.Moves cfg poller input poller' actions)

include moves

theorem requested : requests actions = poller'.phase.awaits := by
  cases moves with
  | connected | connectFailed | slept | overflowed | refused => rfl
  | ticked => exact (pollDevices_movesOn cfg _).requested
  | words backoff cursor response words values =>
    simp [PollerAction.request?, (offerValues_movesOn cfg cursor words values).requested]
  | undecodable => simp [PollerAction.request?, PollerPhase.awaits]
  | failed backoff cursor response result reason =>
    simp [PollerAction.request?, (finishDevice_movesOn cfg cursor (some reason)).requested]
  | fatal => simp [PollerAction.request?, PollerPhase.awaits]
  | offered backoff cursor words value values =>
    simp [PollerAction.request?, (offerValues_movesOn cfg cursor words values).requested]

/-- Values are sent from the loop over them only. -/
theorem offering_of_offer {device : DeviceConfig} {block : BlockConfig} {words : List UInt16}
    {reading : Reading} {outcome : TrySend}
    (sent : .offer device block words reading outcome ∈ actions) :
    ∃ cursor value values, poller.phase = .offering cursor words value values ∧
      device = cursor.device ∧ block = cursor.block ∧ reading = cursor.readingOf value := by
  have pauses : PollerAction.offer device block words reading outcome ∉ frameDelays cfg := by
    simp [frameDelays]
  have moving {result : PollerPhase × List PollerAction} (movesOn : MovesOn result) :
      PollerAction.offer device block words reading outcome ∉ result.2 := fun member => by
    cases movesOn.quiet _ member
  -- Pauses and moving on send nothing; what is left is the offer of the step itself.
  cases moves with
  | connected | connectFailed | slept | overflowed => simp at sent
  | ticked => exact absurd sent (moving (pollDevices_movesOn cfg _))
  | words backoff cursor response words' values =>
    simp [pauses, moving (offerValues_movesOn cfg cursor words' values)] at sent
  | undecodable => simp [pauses] at sent
  | failed backoff cursor response result reason =>
    simp [pauses, moving (finishDevice_movesOn cfg cursor (some reason))] at sent
  | fatal => simp [pauses] at sent
  | refused backoff cursor words' value values =>
    obtain ⟨rfl, rfl, rfl, rfl, rfl⟩ :
        device = _ ∧ block = _ ∧ words = _ ∧ reading = _ ∧ outcome = _ := by
      simpa using sent
    exact ⟨cursor, value, values, rfl, rfl, rfl, rfl⟩
  | offered backoff cursor words' value values outcome' kept =>
    obtain ⟨rfl, rfl, rfl, rfl, rfl⟩ :
        device = _ ∧ block = _ ∧ words = _ ∧ reading = _ ∧ outcome = _ := by
      simpa [moving (offerValues_movesOn cfg cursor words' values)] using sent
    exact ⟨cursor, value, values, rfl, rfl, rfl, rfl⟩

/-- The only read logged is that of the response, for the block under the cursor. -/
theorem result_of_read {device : DeviceConfig} {block : BlockConfig} {result : BlockResult}
    (read : .read device block result ∈ actions) :
    ∃ cursor response, poller.phase = .reading cursor ∧ input = .response response ∧
      device = cursor.device ∧ block = cursor.block ∧ result = readBlock response := by
  have pauses : PollerAction.read device block result ∉ frameDelays cfg := by
    simp [frameDelays]
  have moving {moved : PollerPhase × List PollerAction} (movesOn : MovesOn moved) :
      PollerAction.read device block result ∉ moved.2 := fun member => by
    cases movesOn.quiet _ member
  cases moves with
  | connected | connectFailed | slept | overflowed | refused => simp at read
  | ticked => exact absurd read (moving (pollDevices_movesOn cfg _))
  | words backoff cursor response words values found =>
    obtain ⟨rfl, rfl, rfl⟩ : device = _ ∧ block = _ ∧ result = _ := by
      simpa [pauses, moving (offerValues_movesOn cfg cursor words values)] using read
    exact ⟨cursor, response, rfl, rfl, rfl, rfl, found.symm⟩
  | undecodable backoff cursor response words found =>
    obtain ⟨rfl, rfl, rfl⟩ : device = _ ∧ block = _ ∧ result = _ := by
      simpa [pauses] using read
    exact ⟨cursor, response, rfl, rfl, rfl, rfl, found.symm⟩
  | failed backoff cursor response result' reason found =>
    obtain ⟨rfl, rfl, rfl⟩ : device = _ ∧ block = _ ∧ result = _ := by
      simpa [pauses, moving (finishDevice_movesOn cfg cursor (some reason))] using read
    exact ⟨cursor, response, rfl, rfl, rfl, rfl, found.symm⟩
  | fatal backoff cursor response found =>
    obtain ⟨rfl, rfl, rfl⟩ : device = _ ∧ block = _ ∧ result = _ := by
      simpa [pauses] using read
    exact ⟨cursor, response, rfl, rfl, rfl, rfl, found.symm⟩
  | offered backoff cursor words value values =>
    simp [moving (offerValues_movesOn cfg cursor words values)] at read

/-- Values being sent were decoded in this step or were being sent before it. -/
theorem origin_of_offering {cursor : Cursor} {words : List UInt16} {value : String × F64}
    {values : List (String × F64)}
    (offering : poller'.phase = .offering cursor words value values) :
    (∃ first, poller.phase = .offering cursor words first (value :: values) ∧
      ∃ outcome, input = .trySend outcome) ∨
    (poller.phase = .reading cursor ∧ ∃ response, input = .response response ∧
      readBlock response = .words words ∧
      decode cursor.block words = some (value :: values)) := by
  cases moves with
  | connected | connectFailed | slept | overflowed | undecodable | fatal | refused =>
    cases offering
  | ticked => exact absurd offering (pollDevices_not_offering cfg _ _ _ _ _)
  | failed backoff cursor' => exact absurd offering (pollDevices_not_offering cfg _ _ _ _ _)
  | words backoff cursor' response words' decoded result found =>
    obtain ⟨rfl, rfl, rfl⟩ := offerValues_eq_offering offering
    exact .inr ⟨rfl, response, rfl, result, found⟩
  | offered backoff cursor' words' first rest outcome =>
    obtain ⟨rfl, rfl, rfl⟩ := offerValues_eq_offering offering
    exact .inl ⟨first, rfl, outcome, rfl⟩

end Poller.Moves

/-- Everything a run did, in order. -/
def actionsOf (events : List (PollerInput × List PollerAction)) : List PollerAction :=
  events.flatMap Prod.snd

theorem actionsOf_cons (event : PollerInput × List PollerAction)
    (events : List (PollerInput × List PollerAction)) :
    actionsOf (event :: events) = event.2 ++ actionsOf events :=
  List.flatMap_cons

theorem actionsOf_append (events events' : List (PollerInput × List PollerAction)) :
    actionsOf (events ++ events') = actionsOf events ++ actionsOf events' :=
  List.flatMap_append

end ModbusGateway
