import ModbusGateway.Gateway

/-!
# Readings on their way

Where a reading is between the read it was decoded from and the aggregator: in
the poller that sends it, in the channel, received, or lost to a refused
`try_send`. Over a run nothing else happens to it.
-/
namespace ModbusGateway

open Foundation

/-- The readings a read decodes to, none where decoding panics. -/
def BlockRead.deliveries (read : BlockRead) : List Delivery :=
  ((decode read.block read.words).getD []).map fun value =>
    ⟨read, ⟨⟨read.device.id, value.1⟩, value.2⟩⟩

def PollerAction.blockRead? (connection : ConnectionConfig) : PollerAction → Option BlockRead
  | .read device block (.words words) => some ⟨connection, device, block, words⟩
  | _ => none

/-- The successful reads among some actions. -/
def blockReads (connection : ConnectionConfig) (actions : List PollerAction) : List BlockRead :=
  actions.filterMap (PollerAction.blockRead? connection)

/-- What a poller still has to send. -/
def PollerPhase.pending (connection : ConnectionConfig) : PollerPhase → List Delivery
  | .offering cursor words value values => (value :: values).map fun value =>
      ⟨⟨connection, cursor.device, cursor.block, words⟩, cursor.readingOf value⟩
  | _ => []

/-! ### One poller -/

section poller

variable (connection : ConnectionConfig)

@[simp] theorem deliveries_nil : deliveries connection [] = [] := rfl

@[simp] theorem deliveries_cons (action : PollerAction) (actions : List PollerAction) :
    deliveries connection (action :: actions) =
      (action.delivery? connection).toList ++ deliveries connection actions :=
  view_cons _ action actions

@[simp] theorem deliveries_append (actions actions' : List PollerAction) :
    deliveries connection (actions ++ actions') =
      deliveries connection actions ++ deliveries connection actions' :=
  List.filterMap_append

@[simp] theorem blockReads_nil : blockReads connection [] = [] := rfl

@[simp] theorem blockReads_cons (action : PollerAction) (actions : List PollerAction) :
    blockReads connection (action :: actions) =
      (action.blockRead? connection).toList ++ blockReads connection actions :=
  view_cons _ action actions

@[simp] theorem blockReads_append (actions actions' : List PollerAction) :
    blockReads connection (actions ++ actions') =
      blockReads connection actions ++ blockReads connection actions' :=
  List.filterMap_append

@[simp] theorem deliveries_frameDelays : deliveries connection (frameDelays connection) = [] :=
  view_frameDelays _ (fun _ => rfl) connection

@[simp] theorem blockReads_frameDelays : blockReads connection (frameDelays connection) = [] :=
  view_frameDelays _ (fun _ => rfl) connection

theorem MovesOn.deliveries_eq_nil {moved : PollerPhase × List PollerAction}
    (movesOn : MovesOn moved) : deliveries connection moved.2 = [] :=
  movesOn.view_eq_nil fun action quiet => by cases action <;> first | rfl | cases quiet

theorem MovesOn.blockReads_eq_nil {moved : PollerPhase × List PollerAction}
    (movesOn : MovesOn moved) : blockReads connection moved.2 = [] :=
  movesOn.view_eq_nil fun action quiet => by cases action <;> first | rfl | cases quiet

theorem pending_pollDevices (devices : List DeviceConfig) :
    (pollDevices connection devices).1.pending connection = [] := by
  cases reached : (pollDevices connection devices).1 with
  | offering => exact absurd reached (pollDevices_not_offering _ _ _ _ _ _)
  | _ => rfl

theorem pending_offerValues (cursor : Cursor) (words : List UInt16)
    (values : List (String × F64)) :
    (offerValues connection cursor words values).1.pending connection =
      values.map fun value =>
        ⟨⟨connection, cursor.device, cursor.block, words⟩, cursor.readingOf value⟩ := by
  cases values with
  | cons => rfl
  | nil =>
    unfold offerValues nextBlock
    cases cursor.blocks with
    | cons => rfl
    | nil => exact pending_pollDevices connection _

theorem pending_finishDevice (cursor : Cursor) (problem : Option String) :
    (finishDevice connection cursor problem).1.pending connection = [] :=
  pending_pollDevices connection cursor.devices

end poller

/-- What a step sends, keeps and loses is what was pending and what it reads. -/
theorem Poller.Moves.conserves {connection : ConnectionConfig} {poller poller' : Poller}
    {input : PollerInput} {actions : List PollerAction}
    (moves : Poller.Moves connection poller input poller' actions) :
    ∃ lost, (deliveries connection actions ++ poller'.phase.pending connection ++ lost).Perm
        (poller.phase.pending connection ++
          (blockReads connection actions).flatMap BlockRead.deliveries) ∧
      ((∀ outcome, input = .trySend outcome → outcome = .ok) → lost = []) := by
  cases moves with
  | connected | connectFailed | slept | overflowed => exact ⟨[], List.Perm.refl _, fun _ => rfl⟩
  | ticked =>
    have movesOn := pollDevices_movesOn connection connection.devices
    refine ⟨[], List.Perm.of_eq ?_, fun _ => rfl⟩
    rw [movesOn.deliveries_eq_nil, movesOn.blockReads_eq_nil, pending_pollDevices]
    rfl
  | words backoff cursor response words values found decoded =>
    have movesOn := offerValues_movesOn connection cursor words values
    refine ⟨[], List.Perm.of_eq ?_, fun _ => rfl⟩
    rw [pending_offerValues]
    simp [movesOn.deliveries_eq_nil, movesOn.blockReads_eq_nil, PollerAction.delivery?,
      PollerAction.blockRead?, PollerPhase.pending, BlockRead.deliveries, decoded,
      Cursor.readingOf]
  | undecodable backoff cursor response words found outOfRange =>
    -- A panic in `decode` leaves nothing to send, and a read without values.
    refine ⟨[], List.Perm.of_eq ?_, fun _ => rfl⟩
    simp [PollerAction.delivery?, PollerAction.blockRead?, PollerPhase.pending,
      BlockRead.deliveries, outOfRange]
  | failed backoff cursor response result reason found problem =>
    have movesOn := finishDevice_movesOn connection cursor (some reason)
    have unread : PollerAction.blockRead? connection
        (.read cursor.device cursor.block result) = none := by
      cases result <;> first | rfl | cases problem
    refine ⟨[], List.Perm.of_eq ?_, fun _ => rfl⟩
    rw [pending_finishDevice]
    simp [movesOn.deliveries_eq_nil, movesOn.blockReads_eq_nil, unread, PollerAction.delivery?,
      PollerPhase.pending]
  | fatal backoff cursor response found =>
    refine ⟨[], List.Perm.of_eq ?_, fun _ => rfl⟩
    simp [PollerAction.delivery?, PollerAction.blockRead?, PollerPhase.pending]
  | refused backoff cursor words value values =>
    -- The closed channel ends the task with all it still had to send.
    refine ⟨PollerPhase.pending connection (.offering cursor words value values), ?_,
      fun kept => absurd (kept .closed rfl) (by decide)⟩
    simp [PollerAction.delivery?, PollerAction.blockRead?, PollerPhase.pending]
  | offered backoff cursor words value values outcome kept =>
    have movesOn := offerValues_movesOn connection cursor words values
    cases outcome with
    | closed => exact absurd rfl kept
    | ok =>
      refine ⟨[], List.Perm.of_eq ?_, fun _ => rfl⟩
      rw [pending_offerValues]
      simp [movesOn.deliveries_eq_nil, movesOn.blockReads_eq_nil, PollerAction.delivery?,
        PollerAction.blockRead?, PollerPhase.pending]
    | full =>
      -- Lost is the one reading, and the next in line is sent all the same.
      refine ⟨[⟨⟨connection, cursor.device, cursor.block, words⟩, cursor.readingOf value⟩], ?_,
        fun sent => absurd (sent .full rfl) (by decide)⟩
      rw [pending_offerValues]
      simp [movesOn.deliveries_eq_nil, movesOn.blockReads_eq_nil, PollerAction.delivery?,
        PollerAction.blockRead?, PollerPhase.pending, List.perm_append_singleton]

/-! ### The gateway -/

/-- The readings that are decoded but not received. -/
def Gateway.inTransit (gateway : Gateway) : List Delivery :=
  gateway.channel ++ gateway.connections.flatMap fun task => task.2.phase.pending task.1

def GatewayEvent.blockReads : GatewayEvent → List BlockRead
  | .poll connection _ actions => ModbusGateway.blockReads connection actions
  | _ => []

def GatewayEvent.received : GatewayEvent → List Delivery
  | .receive delivery => [delivery]
  | _ => []

/-- Whether a step keeps every reading: no `try_send` is refused in it. -/
def GatewayEvent.Keeps (event : GatewayEvent) : Prop :=
  ∀ connection outcome actions, event = .poll connection (.trySend outcome) actions →
    outcome = .ok

variable {config : Config}

theorem GatewayStep.conserves {gateway gateway' : Gateway} {event : GatewayEvent}
    (moved : GatewayStep config gateway event gateway') :
    ∃ lost, (event.received ++ gateway'.inTransit ++ lost).Perm
        (gateway.inTransit ++ event.blockReads.flatMap BlockRead.deliveries) ∧
      (event.Keeps → lost = []) := by
  cases moved with
  | poll before after connection poller poller' input actions channel aggregator answered moved =>
    obtain ⟨lost, conserved, kept⟩ := (Poller.moves_of_next moved).conserves
    refine ⟨lost, ?_, fun keeps => kept fun outcome shape => ?_⟩
    · -- Counted one by one, the other pollers' shares are the same on both sides.
      rw [List.perm_iff_count] at conserved ⊢
      intro delivery
      have balance := conserved delivery
      simp only [Gateway.inTransit, GatewayEvent.received, GatewayEvent.blockReads,
        List.flatMap_append, List.flatMap_cons, List.count_append, List.nil_append] at balance ⊢
      omega
    · exact keeps connection outcome actions (congrArg (GatewayEvent.poll connection · actions) shape)
  | respawn =>
    refine ⟨[], List.Perm.of_eq ?_, fun _ => rfl⟩
    simp [Gateway.inTransit, GatewayEvent.received, GatewayEvent.blockReads,
      PollerPhase.pending, Poller.start]
  | shutdown => exact ⟨[], List.Perm.refl _, fun _ => rfl⟩
  | receive | inputClosed | tick =>
    refine ⟨[], List.Perm.of_eq ?_, fun _ => rfl⟩
    simp [Gateway.inTransit, GatewayEvent.received, GatewayEvent.blockReads]

/-- Over a run readings are received, still in transit or lost, each exactly once,
and lost only where a `try_send` was refused. -/
theorem conservation {gateway gateway' : Gateway} {events : List GatewayEvent}
    (run : Run (GatewayStep config) gateway events gateway') :
    ∃ lost, (events.flatMap GatewayEvent.received ++ gateway'.inTransit ++ lost).Perm
        (gateway.inTransit ++
          (events.flatMap GatewayEvent.blockReads).flatMap BlockRead.deliveries) ∧
      ((∀ event ∈ events, event.Keeps) → lost = []) := by
  induction run with
  | refl => exact ⟨[], by simp, fun _ => rfl⟩
  | @snoc t u events event before moved ih =>
    obtain ⟨lost, earlier, none⟩ := ih
    obtain ⟨lost', now, none'⟩ := moved.conserves
    refine ⟨lost ++ lost', ?_, fun keeps => ?_⟩
    · rw [List.perm_iff_count] at earlier now ⊢
      intro delivery
      have balance := earlier delivery
      have balance' := now delivery
      simp only [List.flatMap_append, List.flatMap_singleton, List.count_append] at balance balance' ⊢
      omega
    · rw [none fun event member => keeps event (List.mem_append_left _ member),
        none' (keeps event (List.mem_append_right _ List.mem_cons_self)), List.append_nil]

end ModbusGateway
