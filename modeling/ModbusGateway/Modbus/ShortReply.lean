import ModbusGateway.Modbus.PollTick

/-!
# Replies of any length

`validate` bounds the offsets of points by the `count` that is requested, and
`decode` indexes the registers that were received. Nothing compares the two, so
a reply that ends before the last point of its block ends the poller.
-/
namespace ModbusGateway

open Foundation

section

variable (cfg : ConnectionConfig) (cursor : Cursor) (words : List UInt16)

/-- The outcome of the match on a reply: the next phase, after the read and what it leads to. -/
def AfterReply (poller' : Poller) (actions : List PollerAction)
    (result : PollerPhase × List PollerAction) : Prop :=
  poller'.phase = result.1 ∧
    actions = .read cursor.device cursor.block (.words words) :: frameDelays cfg ++ result.2

/-- A reply is handled: one that reaches to all points of its block yields a value for each,
and a shorter one is a failure of its device, after which the remaining devices are polled. -/
def ReplyHandled (poller' : Poller) (actions : List PollerAction) : Prop :=
  (cursor.block.Covered words → ∃ values, decode cursor.block words = some values ∧
    values.map Prod.fst = cursor.block.points.map PointConfig.name ∧
    AfterReply cfg cursor words poller' actions (offerValues cfg cursor words values)) ∧
  (¬cursor.block.Covered words → ∃ reason,
    AfterReply cfg cursor words poller' actions (finishDevice cfg cursor (some reason)))

variable {cfg cursor words}

/-- A reply is handled exactly when it reaches to every point of its block. -/
theorem reply_handled_iff {backoff : Backoff} {poller' : Poller} {actions : List PollerAction}
    (moved : Poller.Step cfg ⟨.reading cursor, backoff⟩
      (.response (some (.ok (.ok words))), actions) poller') :
    ReplyHandled cfg cursor words poller' actions ↔ cursor.block.Covered words := by
  cases Poller.moves_of_next moved with
  | words backoff cursor response words' values result decoded =>
    cases result
    have covered := (exists_decode_iff _ _).mp ⟨values, decoded⟩
    exact iff_of_true ⟨fun _ => ⟨values, decoded, names_of_decode decoded, rfl, rfl⟩,
      fun short => absurd covered short⟩ covered
  | undecodable backoff cursor response words' result outOfRange =>
    cases result
    have short : ¬cursor.block.Covered words := fun covered => by
      obtain ⟨values, found⟩ := (exists_decode_iff _ _).mpr covered
      rw [outOfRange] at found
      cases found
    refine iff_of_false (fun handled => ?_) short
    -- The failure of a device leaves the poller in its tick, a panic does not.
    obtain ⟨reason, ended, _⟩ := handled.2 short
    have inTick := pollDevices_inTick cfg cursor.devices
    rw [finishDevice] at ended
    rw [← ended] at inTick
    cases inTick
  | failed backoff cursor response result reason read problem =>
    cases read
    cases problem
  | fatal backoff cursor response result => cases result

end

theorem reply_handled_tempSensor :
    ∃ (poller' : Poller) (actions : List PollerAction),
      ReplyHandled rs485Bus1 ⟨tempSensor "tempsensor1" 5, tempSensorBlock, [],
        [tempSensor "tempsensor2" 6]⟩ [231, 456] poller' actions ∧
      poller'.phase ≠ .panicked := by
  have moved : Poller.Step rs485Bus1 ⟨.reading ⟨tempSensor "tempsensor1" 5, tempSensorBlock, [],
      [tempSensor "tempsensor2" 6]⟩, .new (.fromSecs 1) (.fromSecs 30)⟩
      (.response (some (.ok (.ok [231, 456]))), _) _ := rfl
  exact ⟨_, _, (reply_handled_iff moved).mpr (by decide), by decide +kernel⟩

/-- In the first tick of the shipped bus the first sensor answers with one register instead of
two: the poller panics, and the second sensor is not polled. -/
theorem short_reply_ends_poller :
    ∃ (host : Host) (config : Config) (conn : ConnectionConfig),
      validate host config = .ok () ∧ conn ∈ config.connections ∧
      ∃ (events : List (PollerInput × List PollerAction)) (cursor : Cursor) (backoff : Backoff)
        (words : List UInt16) (poller' : Poller) (actions : List PollerAction),
        Run (Poller.Step conn) (Poller.start conn) events ⟨.reading cursor, backoff⟩ ∧
        Poller.Step conn ⟨.reading cursor, backoff⟩ (.response (some (.ok (.ok words))), actions)
          poller' ∧
        ¬ReplyHandled conn cursor words poller' actions := by
  refine ⟨exampleHost, exampleConfig, rs485Bus1, exampleConfig_accepted, rs485Bus1_mem,
    [(.connect true, _), (.tick, _)], _, _, [231], _, _, .cons rfl (.single rfl), rfl, ?_⟩
  rintro ⟨_, short⟩
  obtain ⟨reason, ended, _⟩ := short (by decide)
  cases ended

end ModbusGateway
