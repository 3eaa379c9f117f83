import ModbusGateway.Modbus.Poller

/-!
# Requests and replies on one connection

The poller together with the wire below it: requests a device may still answer,
and replies that have arrived and wait to be read. A reply may arrive at any time
after its request. Which reply is taken for the answer to the outstanding request
is decided by the headers, as the Modbus client documents it: transaction id and
unit id over TCP, unit id and function code on a serial bus.
-/
namespace ModbusGateway

open Foundation

/-- A read request, with its number on the connection and the tick it was sent in. -/
structure WireRequest where
  serial : Nat
  tick : Nat
  unitId : UInt8
  device : DeviceConfig
  block : BlockConfig
  deriving DecidableEq

/-- What a device sent, and the request it answers. -/
structure Reply where
  request : WireRequest
  payload : Except ExceptionCode (List UInt16)

/-- `outstanding` is the request whose reply is awaited, `unanswered` are those a
device may still answer, `buffer` is what has arrived. `decoding` is the reply the
values being sent come from. -/
structure Wire where
  poller : Poller
  slave : UInt8
  ticks : Nat
  sent : Nat
  outstanding : Option WireRequest
  unanswered : List WireRequest
  buffer : List Reply
  decoding : Option Reply

inductive WireEvent where
  | poll (input : PollerInput)
  | arrive (position : Nat) (payload : Except ExceptionCode (List UInt16))
  | receive (discards : Bool)
  | timeout
  | broken

namespace Wire

def start (cfg : ConnectionConfig) : Wire where
  poller := .start cfg
  slave := 0
  ticks := 0
  sent := 0
  outstanding := none
  unanswered := []
  buffer := []
  decoding := none

/-- What an action does on the wire. -/
def act (wire : Wire) : PollerAction → Wire
  | .setSlave unitId => { wire with slave := unitId }
  | .request device block =>
    let request : WireRequest := ⟨wire.sent, wire.ticks, wire.slave, device, block⟩
    { wire with
      sent := wire.sent + 1
      outstanding := some request
      unanswered := request :: wire.unanswered }
  | _ => wire

def acts (wire : Wire) (actions : List PollerAction) : Wire := actions.foldl act wire

/-- Connecting opens a new TCP stream; bytes for a serial port stay where they are. -/
def enter (cfg : ConnectionConfig) (wire : Wire) : PollerInput → Wire
  | .connect true =>
    match cfg.transport with
    | .tcp .. => { wire with sent := 0, outstanding := none, unanswered := [], buffer := [] }
    | .rtu .. => wire
  | .tick => { wire with ticks := wire.ticks + 1 }
  | _ => wire

section

variable (cfg : ConnectionConfig) (transactionId : Nat → UInt16)

/-- Whether the client takes a reply for the answer to the outstanding request. -/
def accepts (outstanding : WireRequest) (reply : Reply) : Bool :=
  match cfg.transport with
  | .tcp .. =>
    transactionId reply.request.serial == transactionId outstanding.serial &&
      reply.request.unitId == outstanding.unitId
  | .rtu .. =>
    reply.request.unitId == outstanding.unitId &&
      reply.request.block.function == outstanding.block.function

/-- The outstanding request ends, for the poller with this response. -/
def respond (wire : Wire) (response : Response) (decoding : Option Reply) :
    Option (Wire × List PollerAction) := do
  let (poller, actions) ← wire.poller.next cfg (.response response)
  return (acts { wire with poller, decoding, outstanding := none } actions, actions)

def next (wire : Wire) : WireEvent → Option (Wire × List PollerAction)
  | .poll (.response _) => none
  | .poll input => do
    let (poller, actions) ← wire.poller.next cfg input
    return (acts { wire.enter cfg input with poller } actions, actions)
  | .arrive position payload =>
    match wire.unanswered[position]? with
    | some request =>
      some ({ wire with
        unanswered := wire.unanswered.eraseIdx position
        buffer := wire.buffer ++ [⟨request, payload⟩] }, [])
    | none => none
  | .receive discards =>
    match wire.outstanding, wire.buffer with
    | some outstanding, reply :: buffer =>
      if accepts cfg transactionId outstanding reply then
        { wire with buffer }.respond cfg (some (.ok reply.payload)) (some reply)
      -- A reply with another header is dropped, or ends the request as a protocol error.
      else if discards then some ({ wire with buffer }, [])
      else { wire with buffer }.respond cfg (some (.error .protocol)) none
    | _, _ => none
  -- Giving up leaves the request unanswered and the connection open.
  | .timeout => wire.respond cfg none none
  | .broken => wire.respond cfg (some (.error .transport)) none

def Step (wire : Wire) (event : WireEvent × List PollerAction) (wire' : Wire) : Prop :=
  wire.next cfg transactionId event.1 = some (wire', event.2)

/-- The reply read next, if it answers an earlier request, differs from the answer to
the outstanding request in its header: over TCP in transaction id or unit id, on a serial
bus in unit id or function code. -/
def ToldApart (wire : Wire) : WireEvent → Prop
  | .receive _ => ∀ outstanding reply buffer, wire.outstanding = some outstanding →
    wire.buffer = reply :: buffer → reply.request ≠ outstanding →
      match cfg.transport with
      | .tcp .. => transactionId reply.request.serial ≠ transactionId outstanding.serial ∨
          reply.request.unitId ≠ outstanding.unitId
      | .rtu .. => reply.request.unitId ≠ outstanding.unitId ∨
          reply.request.block.function ≠ outstanding.block.function
  | _ => True

end

/-- These registers are the reply to the request for the block in this tick. -/
def Answered (wire : Wire) (device : DeviceConfig) (block : BlockConfig)
    (words : List UInt16) : Prop :=
  ∃ reply, wire.decoding = some reply ∧ reply.request.device = device ∧
    reply.request.block = block ∧ reply.request.tick = wire.ticks ∧ reply.payload = .ok words

/-- A reading of a block is decoded from the reply to the request for that block in this
tick. -/
def Genuine (wire : Wire) (device : DeviceConfig) (block : BlockConfig)
    (words : List UInt16) (reading : Reading) : Prop :=
  wire.Answered device block words ∧ ∃ values, decode block words = some values ∧
    ∃ value ∈ values, reading = ⟨⟨device.id, value.1⟩, value.2⟩

/-! ### Sending requests -/

/-- Requests carry increasing numbers, and the outstanding one is the latest. -/
structure Numbered (wire : Wire) : Prop where
  unanswered_lt : ∀ request ∈ wire.unanswered, request.serial < wire.sent
  buffer_lt : ∀ reply ∈ wire.buffer, reply.request.serial < wire.sent
  latest : ∀ outstanding, wire.outstanding = some outstanding →
    outstanding.serial + 1 = wire.sent ∧
    (∀ request ∈ wire.unanswered, request.serial = outstanding.serial → request = outstanding) ∧
    ∀ reply ∈ wire.buffer, reply.request.serial = outstanding.serial →
      reply.request = outstanding

theorem acts_of_quiet (wire : Wire) (actions : List PollerAction)
    (quiet : requests actions = []) :
    ∃ slave, acts wire actions = { wire with slave } := by
  induction actions generalizing wire with
  | nil => exact ⟨wire.slave, rfl⟩
  | cons action actions ih =>
    rw [requests_cons, List.append_eq_nil_iff] at quiet
    cases action with
    | setSlave unitId =>
      obtain ⟨slave, rest⟩ := ih { wire with slave := unitId } quiet.2
      exact ⟨slave, rest⟩
    | request device block => cases quiet.1
    | report | read | sleep | offer => exact ih wire quiet.2

theorem acts_of_request (wire : Wire) (actions : List PollerAction) (device : DeviceConfig)
    (block : BlockConfig) (asked : requests actions = [(device, block)]) :
    ∃ unitId slave, acts wire actions =
      { wire with
        slave
        sent := wire.sent + 1
        outstanding := some ⟨wire.sent, wire.ticks, unitId, device, block⟩
        unanswered := ⟨wire.sent, wire.ticks, unitId, device, block⟩ :: wire.unanswered } := by
  induction actions generalizing wire with
  | nil => cases asked
  | cons action actions ih =>
    rw [requests_cons] at asked
    cases action with
    | setSlave unitId =>
      obtain ⟨unit, slave, rest⟩ := ih { wire with slave := unitId } asked
      exact ⟨unit, slave, rest⟩
    | request device' block' =>
      simp only [PollerAction.request?, Option.toList_some, List.singleton_append,
        List.cons.injEq, Prod.mk.injEq] at asked
      obtain ⟨⟨rfl, rfl⟩, quiet⟩ := asked
      obtain ⟨slave, rest⟩ := acts_of_quiet (wire.act (.request device' block')) actions quiet
      exact ⟨wire.slave, slave, rest⟩
    | report | read | sleep | offer => exact ih wire asked

/-- While a reply is awaited, the outstanding request is for the block under the cursor
and of this tick; while values are sent, they come from such a request's reply. -/
structure Inv (wire : Wire) : Prop where
  numbered : wire.Numbered
  reading : ∀ cursor, wire.poller.phase = .reading cursor →
    ∃ outstanding, wire.outstanding = some outstanding ∧
      outstanding.device = cursor.device ∧ outstanding.block = cursor.block ∧
      outstanding.tick = wire.ticks
  offering : ∀ cursor words value values,
    wire.poller.phase = .offering cursor words value values →
    wire.Answered cursor.device cursor.block words ∧
      ∃ decoded, decode cursor.block words = some decoded ∧ value :: values <:+ decoded

/-- The invariant after the actions of a step, from what holds before them. -/
theorem inv_acts {wire : Wire} {actions : List PollerAction} (numbered : wire.Numbered)
    (requested : requests actions = wire.poller.phase.awaits)
    (offering : ∀ cursor words value values,
      wire.poller.phase = .offering cursor words value values →
      wire.Answered cursor.device cursor.block words ∧
        ∃ decoded, decode cursor.block words = some decoded ∧ value :: values <:+ decoded) :
    (wire.acts actions).Inv := by
  by_cases awaiting : ∃ cursor, wire.poller.phase = .reading cursor
  · -- The step made a request: the newest on the connection, for the block under the cursor.
    obtain ⟨cursor, phase⟩ := awaiting
    rw [phase] at requested
    obtain ⟨unitId, slave, after⟩ := acts_of_request wire actions _ _ requested
    rw [after]
    refine ⟨⟨?_, ?_, ?_⟩, ?_, ?_⟩
    · intro request member
      rcases List.mem_cons.mp member with rfl | member
      · exact Nat.lt_succ_self _
      · exact Nat.lt_succ_of_lt (numbered.unanswered_lt request member)
    · intro reply member
      exact Nat.lt_succ_of_lt (numbered.buffer_lt reply member)
    · intro outstanding newest
      cases newest
      refine ⟨rfl, fun request member same => ?_, fun reply member same => ?_⟩
      · rcases List.mem_cons.mp member with rfl | member
        · rfl
        · exact absurd same (numbered.unanswered_lt request member).ne
      · exact absurd same (numbered.buffer_lt reply member).ne
    · intro cursor' phase'
      have same : cursor' = cursor := by
        rw [phase] at phase'
        cases phase'
        rfl
      subst same
      exact ⟨_, rfl, rfl, rfl, rfl⟩
    · intro cursor' words value values phase'
      rw [phase] at phase'
      cases phase'
  · -- Without a request at most the slave address has changed.
    have quiet : requests actions = [] := by
      rw [requested]
      cases phase : wire.poller.phase with
      | reading cursor => exact absurd ⟨cursor, phase⟩ awaiting
      | _ => rfl
    obtain ⟨slave, after⟩ := acts_of_quiet wire actions quiet
    rw [after]
    exact ⟨⟨numbered.unanswered_lt, numbered.buffer_lt, numbered.latest⟩,
      fun cursor phase => absurd ⟨cursor, phase⟩ awaiting, offering⟩

/-! ### Accepting replies -/

section

variable {cfg : ConnectionConfig} {transactionId : Nat → UInt16}

/-- Consecutive transaction ids repeat after `2 ^ 16` requests, not before. -/
theorem transactionId_injective (counting : ∀ n, transactionId (n + 1) = transactionId n + 1)
    {i j : Nat} (order : i ≤ j) (near : j < i + 2 ^ 16)
    (same : transactionId i = transactionId j) : i = j := by
  have ahead : ∀ k, (transactionId (i + k)).toNat = ((transactionId i).toNat + k) % 2 ^ 16 := by
    intro k
    induction k with
    | zero => exact (Nat.mod_eq_of_lt (transactionId i).toNat_lt).symm
    | succ k ih =>
      rw [← Nat.add_assoc, counting, UInt16.toNat_add, ih, UInt16.toNat_one]
      omega
  have distance := ahead (j - i)
  rw [Nat.add_sub_cancel' order, ← same] at distance
  have bound := (transactionId i).toNat_lt
  omega

/-- Over TCP replies are told apart while fewer than `2 ^ 16` requests lie between the two. -/
theorem toldApart_of_recent (counting : ∀ n, transactionId (n + 1) = transactionId n + 1)
    {wire : Wire} (numbered : wire.Numbered) {host : String} {port : UInt16}
    (tcp : cfg.transport = .tcp host port) {outstanding : WireRequest} {reply : Reply}
    {buffer : List Reply} (awaited : wire.outstanding = some outstanding)
    (arrived : wire.buffer = reply :: buffer)
    (recent : outstanding.serial < reply.request.serial + 2 ^ 16) (discards : Bool) :
    wire.ToldApart cfg transactionId (.receive discards) := by
  rintro outstanding' reply' buffer' awaited' arrived' different
  cases awaited.symm.trans awaited'
  cases arrived.symm.trans arrived'
  rw [tcp]
  -- Equal ids this close are equal numbers, and a number is given to one request.
  have listed : reply ∈ wire.buffer := arrived ▸ List.mem_cons_self
  obtain ⟨next, _, alone⟩ := numbered.latest outstanding awaited
  have order := numbered.buffer_lt reply listed
  left
  intro same
  exact different (alone reply listed (transactionId_injective counting (by omega) recent same))

/-- A reply that is accepted where replies can be told apart answers the outstanding
request. -/
theorem request_of_accepts {wire : Wire} {outstanding : WireRequest} {reply : Reply}
    {buffer : List Reply} (awaited : wire.outstanding = some outstanding)
    (arrived : wire.buffer = reply :: buffer) {discards : Bool}
    (told : wire.ToldApart cfg transactionId (.receive discards))
    (accepted : accepts cfg transactionId outstanding reply = true) :
    reply.request = outstanding := by
  by_contra different
  have header := told outstanding reply buffer awaited arrived different
  unfold accepts at accepted
  -- The header is all there is to go by.
  cases transport : cfg.transport with
  | tcp host port =>
    simp only [transport, Bool.and_eq_true, beq_iff_eq] at accepted header
    rcases header with id | unit
    · exact id accepted.1
    · exact unit accepted.2
  | rtu serialPort baudRate dataBits parity stopBits interFrameDelayMs =>
    simp only [transport, Bool.and_eq_true, beq_iff_eq] at accepted header
    rcases header with unit | function
    · exact unit accepted.1
    · exact function accepted.2

theorem moves_of_respond {wire wire' : Wire} {actions : List PollerAction}
    {response : Response} {decoding : Option Reply}
    (moved : wire.respond cfg response decoding = some (wire', actions)) :
    ∃ poller, Poller.Moves cfg wire.poller (.response response) poller actions ∧
      wire' = acts { wire with poller, decoding, outstanding := none } actions := by
  simp only [respond, Option.bind_eq_bind, Option.bind_eq_some_iff, Prod.exists, pure,
    Option.some.injEq, Prod.mk.injEq] at moved
  obtain ⟨poller, _, found, rfl, rfl⟩ := moved
  exact ⟨poller, Poller.moves_of_next found, rfl⟩

theorem respond_inv {wire wire' : Wire} {actions : List PollerAction} {response : Response}
    {decoding : Option Reply} (numbered : wire.Numbered)
    (moved : wire.respond cfg response decoding = some (wire', actions))
    (answered : ∀ cursor words, wire.poller.phase = .reading cursor →
      readBlock response = .words words →
      { wire with decoding }.Answered cursor.device cursor.block words) : wire'.Inv := by
  obtain ⟨poller, moves, rfl⟩ := moves_of_respond moved
  have base : Numbered { wire with poller, decoding, outstanding := none } :=
    ⟨numbered.unanswered_lt, numbered.buffer_lt, by simp⟩
  apply inv_acts base moves.requested
  intro cursor words value values offering
  -- A response never continues a loop over values, it can only begin one.
  rcases moves.origin_of_offering offering with ⟨first, _, outcome, input⟩ | origin
  · cases input
  · obtain ⟨phase, response', input, read, decoded⟩ := origin
    cases input
    exact ⟨answered cursor words phase read, _, decoded, List.suffix_refl _⟩

theorem Numbered.enter {wire : Wire} (numbered : wire.Numbered) (input : PollerInput) :
    (wire.enter cfg input).Numbered := by
  unfold Wire.enter
  split
  · split
    · exact ⟨by simp, by simp, by simp⟩
    · exact numbered
  · exact ⟨numbered.unanswered_lt, numbered.buffer_lt, numbered.latest⟩
  · exact numbered

theorem Numbered.pop {wire : Wire} (numbered : wire.Numbered) {reply : Reply}
    {buffer : List Reply} (arrived : wire.buffer = reply :: buffer) :
    { wire with buffer }.Numbered := by
  have part : buffer ⊆ wire.buffer := arrived ▸ List.subset_cons_self reply buffer
  refine ⟨numbered.unanswered_lt, fun r member => numbered.buffer_lt r (part member), ?_⟩
  intro outstanding awaited
  obtain ⟨next, unanswered, buffered⟩ := numbered.latest outstanding awaited
  exact ⟨next, unanswered, fun r member => buffered r (part member)⟩

theorem Numbered.arrive {wire : Wire} (numbered : wire.Numbered) {request : WireRequest}
    {position : Nat} (payload : Except ExceptionCode (List UInt16))
    (found : wire.unanswered[position]? = some request) :
    Numbered { wire with
      unanswered := wire.unanswered.eraseIdx position
      buffer := wire.buffer ++ [⟨request, payload⟩] } := by
  have part : wire.unanswered.eraseIdx position ⊆ wire.unanswered :=
    (List.eraseIdx_sublist _ _).subset
  have open_ : request ∈ wire.unanswered := List.mem_of_getElem? found
  refine ⟨fun r member => numbered.unanswered_lt r (part member), ?_, ?_⟩
  · intro reply member
    rcases List.mem_append.mp member with old | new
    · exact numbered.buffer_lt reply old
    · rw [List.mem_singleton.mp new]
      exact numbered.unanswered_lt request open_
  · intro outstanding awaited
    obtain ⟨next, unanswered, buffered⟩ := numbered.latest outstanding awaited
    refine ⟨next, fun r member => unanswered r (part member), fun reply member => ?_⟩
    rcases List.mem_append.mp member with old | new
    · exact buffered reply old
    · rw [List.mem_singleton.mp new]
      exact unanswered request open_

theorem next_poll_eq_some {wire wire' : Wire} {input : PollerInput}
    {actions : List PollerAction}
    (moved : wire.next cfg transactionId (.poll input) = some (wire', actions)) :
    (∀ response, input ≠ .response response) ∧
      ∃ poller, Poller.Moves cfg wire.poller input poller actions ∧
        wire' = acts { wire.enter cfg input with poller } actions := by
  cases input with
  | response response => cases moved
  | connect | slept | tick | trySend =>
    simp only [next, Option.bind_eq_bind, Option.bind_eq_some_iff, Prod.exists, pure,
      Option.some.injEq, Prod.mk.injEq] at moved
    obtain ⟨poller, _, found, rfl, rfl⟩ := moved
    exact ⟨by simp, poller, Poller.moves_of_next found, rfl⟩

/-- The invariant survives every step in which replies can be told apart. -/
theorem Inv.step {wire wire' : Wire} {event : WireEvent × List PollerAction} (inv : wire.Inv)
    (moved : wire.Step cfg transactionId event wire')
    (told : wire.ToldApart cfg transactionId event.1) : wire'.Inv := by
  obtain ⟨event, actions⟩ := event
  cases event with
  | poll input =>
    obtain ⟨noResponse, poller, moves, rfl⟩ := next_poll_eq_some moved
    have numbered : { wire.enter cfg input with poller }.Numbered := by
      have entered : (wire.enter cfg input).Numbered := inv.numbered.enter input
      exact ⟨entered.unanswered_lt, entered.buffer_lt, entered.latest⟩
    apply inv_acts numbered moves.requested
    intro cursor words value values offering
    -- The other way round: without a response the values were being sent before.
    rcases moves.origin_of_offering offering with ⟨first, before, outcome, rfl⟩ | origin
    · obtain ⟨answered, decoded, found, suffix⟩ := inv.offering cursor words first _ before
      exact ⟨answered, decoded, found, (List.suffix_cons _ _).trans suffix⟩
    · obtain ⟨_, response, input, _⟩ := origin
      exact absurd input (noResponse response)
  | arrive position payload =>
    simp only [Step, next] at moved
    split at moved
    next request found =>
      cases moved
      exact ⟨inv.numbered.arrive payload found, inv.reading, inv.offering⟩
    next => cases moved
  | receive discards =>
    simp only [Step, next] at moved
    split at moved
    next outstanding reply buffer awaited arrived =>
      have numbered := inv.numbered.pop arrived
      split at moved
      next accepted =>
        -- The reply is the outstanding request's, and that is for the block under the cursor.
        have own := request_of_accepts awaited arrived told accepted
        apply respond_inv numbered moved
        intro cursor words phase read
        obtain ⟨outstanding', awaited', device, block, tick⟩ := inv.reading cursor phase
        rw [awaited] at awaited'
        cases awaited'
        have payload : reply.payload = .ok words := by
          cases shape : reply.payload <;> simp_all [readBlock]
        exact ⟨reply, rfl, own ▸ device, own ▸ block, own ▸ tick, payload⟩
      next =>
        split at moved
        · cases moved
          exact ⟨numbered, inv.reading, inv.offering⟩
        · exact respond_inv numbered moved fun _ _ _ read => by cases read
    next => cases moved
  | timeout => exact respond_inv inv.numbered moved fun _ _ _ read => by cases read
  | broken => exact respond_inv inv.numbered moved fun _ _ _ read => by cases read

theorem inv_start (cfg : ConnectionConfig) : (start cfg).Inv :=
  ⟨⟨by simp [start], by simp [start], by simp [start]⟩, by simp [start, Poller.start],
    by simp [start, Poller.start]⟩

/-- Values are only sent while they come from this tick's reply for their block. -/
theorem Inv.genuine_of_moves {wire : Wire} (inv : wire.Inv) {input : PollerInput}
    {poller : Poller} {actions : List PollerAction}
    (moves : Poller.Moves cfg wire.poller input poller actions) {device : DeviceConfig}
    {block : BlockConfig} {words : List UInt16} {reading : Reading} {outcome : TrySend}
    (sent : .offer device block words reading outcome ∈ actions) :
    wire.Genuine device block words reading := by
  obtain ⟨cursor, value, values, phase, rfl, rfl, rfl⟩ := moves.offering_of_offer sent
  obtain ⟨answered, decoded, found, suffix⟩ := inv.offering cursor words value values phase
  exact ⟨answered, decoded, found, value, suffix.subset List.mem_cons_self, rfl⟩

theorem Inv.genuine {wire wire' : Wire} {event : WireEvent × List PollerAction}
    (inv : wire.Inv) (moved : wire.Step cfg transactionId event wire') {device : DeviceConfig}
    {block : BlockConfig} {words : List UInt16} {reading : Reading} {outcome : TrySend}
    (sent : .offer device block words reading outcome ∈ event.2) :
    wire.Genuine device block words reading := by
  obtain ⟨event, actions⟩ := event
  cases event with
  | poll input =>
    obtain ⟨_, poller, moves, _⟩ := next_poll_eq_some moved
    exact inv.genuine_of_moves moves sent
  | arrive position payload =>
    simp only [Step, next] at moved
    split at moved <;> cases moved
    simp at sent
  | receive discards =>
    simp only [Step, next] at moved
    split at moved
    · split at moved
      · obtain ⟨poller, moves, _⟩ := moves_of_respond moved
        exact inv.genuine_of_moves moves sent
      split at moved
      · cases moved
        simp at sent
      · obtain ⟨poller, moves, _⟩ := moves_of_respond moved
        exact inv.genuine_of_moves moves sent
    · cases moved
  | timeout | broken =>
    obtain ⟨poller, moves, _⟩ := moves_of_respond moved
    exact inv.genuine_of_moves moves sent

/-- A reply to another request that is told apart is dropped or read as a protocol error. -/
theorem late_reply_rejected {wire wire' : Wire} {discards : Bool} {actions : List PollerAction}
    (moved : wire.Step cfg transactionId (.receive discards, actions) wire')
    (told : wire.ToldApart cfg transactionId (.receive discards)) {outstanding : WireRequest} {reply : Reply}
    {buffer : List Reply} (awaited : wire.outstanding = some outstanding)
    (arrived : wire.buffer = reply :: buffer) (late : reply.request ≠ outstanding)
    {device : DeviceConfig} {block : BlockConfig} {result : BlockResult}
    (read : .read device block result ∈ actions) : result = .protocol := by
  have rejected : ¬accepts cfg transactionId outstanding reply = true := fun accepted =>
    late (request_of_accepts awaited arrived told accepted)
  simp only [Step, next, awaited, arrived, rejected] at moved
  cases discards with
  | true =>
    cases moved
    simp at read
  | false =>
    obtain ⟨poller, moves, _⟩ := moves_of_respond moved
    obtain ⟨_, response, _, input, _, _, same⟩ := moves.result_of_read read
    cases input
    exact same

/-- No reply is decoded as the answer to another request, in every run in which a late
reply never carries the header of the answer to the outstanding request: then every
reading sent comes from the reply to the request for its block in the same tick, and a
late reply is dropped or reported as a protocol error. Where transaction ids are counted,
no late reply does over TCP until `2 ^ 16` requests have followed its own. -/
theorem replies_not_confused (cfg : ConnectionConfig)
    {events : List (WireEvent × List PollerAction)} {event : WireEvent × List PollerAction}
    {wire wire' : Wire}
    (run : Run (fun wire event wire' =>
      wire.Step cfg transactionId event wire' ∧ wire.ToldApart cfg transactionId event.1)
      (start cfg) events wire)
    (moved : wire.Step cfg transactionId event wire')
    (told : wire.ToldApart cfg transactionId event.1) :
    (∀ device block words reading outcome,
      .offer device block words reading outcome ∈ event.2 →
      wire.Genuine device block words reading) ∧
    (∀ discards outstanding reply buffer, event.1 = .receive discards →
      wire.outstanding = some outstanding → wire.buffer = reply :: buffer →
      reply.request ≠ outstanding →
      ∀ device block result, .read device block result ∈ event.2 → result = .protocol) ∧
    ((∀ n, transactionId (n + 1) = transactionId n + 1) →
      ∀ host port outstanding reply buffer, cfg.transport = .tcp host port →
      wire.outstanding = some outstanding → wire.buffer = reply :: buffer →
      outstanding.serial < reply.request.serial + 2 ^ 16 →
      ∀ discards, wire.ToldApart cfg transactionId (.receive discards)) := by
  have inv : wire.Inv := run.invariant Inv (inv_start cfg) fun wire₁ event₁ wire₂ held both =>
    held.step both.1 both.2
  refine ⟨fun device block words reading outcome sent => inv.genuine moved sent, ?_, ?_⟩
  · intro discards outstanding reply buffer shape awaited arrived late device block result read
    obtain ⟨event, actions⟩ := event
    cases shape
    exact late_reply_rejected moved told awaited arrived late read
  · intro counting host port outstanding reply buffer tcp awaited arrived recent
    exact toldApart_of_recent counting inv.numbered tcp awaited arrived recent

end

/-- On the shipped bus the first sensor's late reply ends the second sensor's request, and
the next tick reads the first sensor again. -/
theorem replies_not_confused_tempSensor :
    ∃ (wire : Wire) (reading : Reading), wire.ticks = 2 ∧
      wire.Genuine (tempSensor "tempsensor1" 5) tempSensorBlock [1, 2] reading ∧
      reading = ⟨⟨"tempsensor1", "temperature"⟩, .finite (1 / 10)⟩ := by
  have run : Run (fun wire event wire' =>
      wire.Step rs485Bus1 UInt16.ofNat event wire' ∧
        wire.ToldApart rs485Bus1 UInt16.ofNat event.1)
      (start rs485Bus1)
      [(.poll (.connect true), _), (.poll .tick, _), (.timeout, _),
        (.arrive 1 (.ok [7, 8]), _), (.receive false, _), (.poll .tick, _),
        (.arrive 0 (.ok [1, 2]), _), (.receive false, _)] _ :=
    .cons ⟨rfl, trivial⟩ (.cons ⟨rfl, trivial⟩ (.cons ⟨rfl, trivial⟩ (.cons ⟨rfl, trivial⟩
      (.cons ⟨rfl, fun _ _ _ awaited arrived _ => by
          cases awaited
          cases arrived
          exact .inl (by decide)⟩
        (.cons ⟨rfl, trivial⟩ (.cons ⟨rfl, trivial⟩
          (.single ⟨rfl, fun _ _ _ awaited arrived late => by
            cases awaited
            cases arrived
            exact absurd rfl late⟩)))))))
  have genuine := (replies_not_confused rs485Bus1 run
    (show Wire.Step rs485Bus1 UInt16.ofNat _ (.poll (.trySend .ok), _) _ by rfl) trivial).1
    _ _ _ _ _ List.mem_cons_self
  exact ⟨_, _, rfl, genuine, by decide +kernel⟩

/-- The shipped meter, on a serial bus. -/
def meterRtu : ConnectionConfig := { rs485Bus1 with devices := meterTcp1.devices }

/-- On a serial bus the late reply to a request that timed out is taken for the answer to
the next request with its unit id and function code, and from then on every reply is: the
meter's energy is decoded from the registers of its voltage. -/
theorem replies_confused_meterRtu :
    validate exampleHost { exampleConfig with connections := [meterRtu] } = .ok () ∧
    ∃ (events : List (WireEvent × List PollerAction)) (wire wire' : Wire)
      (actions : List PollerAction) (device : DeviceConfig) (block : BlockConfig)
      (words : List UInt16) (reading : Reading) (outcome : TrySend),
      Run (Wire.Step meterRtu UInt16.ofNat) (start meterRtu) events wire ∧
      wire.Step meterRtu UInt16.ofNat (.poll (.trySend .ok), actions) wire' ∧
      .offer device block words reading outcome ∈ actions ∧
      ¬wire.Genuine device block words reading ∧
      reading.pointId = ⟨"meter1", "energy_total"⟩ ∧ block.start = 3100 ∧
      ∃ reply, wire.decoding = some reply ∧ reply.request.block.start = 3000 := by
  -- The reply to the request that timed out ends the next tick's first request, and from
  -- there on each reply is taken for the answer to the request after its own.
  refine ⟨by decide, [(.poll (.connect true), _), (.poll .tick, _), (.timeout, _),
    (.poll .tick, _), (.arrive 1 (.ok [1, 2, 3, 4, 5, 6, 7, 8]), _), (.receive false, _),
    (.poll (.trySend .ok), _), (.poll (.trySend .ok), _), (.poll (.trySend .ok), _),
    (.arrive 1 (.ok [1, 2, 3, 4, 5, 6, 7, 8]), _), (.receive false, _)], _, _, _, _, _, _, _, _,
    .cons rfl (.cons rfl (.cons rfl (.cons rfl (.cons rfl (.cons rfl (.cons rfl (.cons rfl
      (.cons rfl (.cons rfl (.single rfl)))))))))), rfl, List.mem_cons_self, ?_, rfl, rfl,
    _, rfl, rfl⟩
  rintro ⟨⟨reply, decoding, _, block, _⟩, _⟩
  cases decoding
  exact absurd (congrArg BlockConfig.start block) (by decide)

end Wire

end ModbusGateway
