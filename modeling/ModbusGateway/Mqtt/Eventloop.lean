import ModbusGateway.Mqtt.Shutdown
import ModbusGateway.Status.History

/-!
# What the event loop reports

`drive_eventloop` as far as the status task sees it: every poll result, and
whether the status channel had room when it was handled. Errors are reported on
every failed attempt; a ConnAck is reported once.
-/
namespace ModbusGateway

open Foundation

/-- What `eventloop.poll` returns, as far as `drive_eventloop` tells results apart. -/
inductive PollResult where
  | connAck
  | outgoingDisconnect
  -- Any other packet in or out.
  | other
  | error
  deriving DecidableEq

/-- A result with what a report finds while it is handled: a slot in the channel, or none. -/
structure HandledResult where
  result : PollResult
  room : Bool
  deriving DecidableEq

/-- `StatusReporter::report`: a full channel drops the event. -/
def HandledResult.report (handled : HandledResult) (event : StatusEvent) : List StatusEvent :=
  if handled.room then [event] else []

/-- The events that reach the status task; the loop ends with the outgoing DISCONNECT. -/
def driveEventloop : List HandledResult → List StatusEvent
  | [] => []
  | handled :: rest =>
    match handled.result with
    | .connAck => handled.report .mqttConnected ++ driveEventloop rest
    | .outgoingDisconnect => handled.report .mqttDisconnected
    | .other => driveEventloop rest
    | .error => handled.report .mqttDisconnected ++ driveEventloop rest

/-- A session is open: a ConnAck came, and after it neither an error nor the DISCONNECT. -/
def SessionOpen (handled : List HandledResult) : Prop :=
  ∃ before ack after, handled = before ++ ack :: after ∧ ack.result = .connAck ∧
    ∀ later ∈ after, later.result ≠ .error ∧ later.result ≠ .outgoingDisconnect

/-- Results that tell whether a session is open, as cuts of a history. -/
def Signals (_earlier : List HandledResult) (handled : HandledResult) : Prop :=
  handled.result ≠ .other

/-! ### One more result -/

theorem not_sessionOpen_nil : ¬SessionOpen [] := by
  rintro ⟨before, ack, after, shape, _⟩
  simp at shape

theorem sessionOpen_snoc (before : List HandledResult) (handled : HandledResult) :
    SessionOpen (before ++ [handled]) ↔
      handled.result = .connAck ∨ handled.result = .other ∧ SessionOpen before := by
  constructor
  · rintro ⟨earlier, ack, after, shape, isAck, kept⟩
    rcases List.eq_nil_or_concat after with rfl | ⟨rest, last, concat⟩
    · obtain ⟨_, same⟩ := List.append_inj' shape rfl
      cases same
      exact .inl isAck
    · rw [List.concat_eq_append] at concat
      subst concat
      rw [← List.cons_append, ← List.append_assoc] at shape
      obtain ⟨rfl, same⟩ := List.append_inj' shape rfl
      cases same
      obtain ⟨noError, noDisconnect⟩ := kept handled (by simp)
      cases result : handled.result with
      | connAck => exact .inl rfl
      | other =>
        exact .inr ⟨rfl, earlier, ack, rest, rfl, isAck, fun later member =>
          kept later (List.mem_append_left _ member)⟩
      | error => exact absurd result noError
      | outgoingDisconnect => exact absurd result noDisconnect
  · rintro (isAck | ⟨isOther, earlier, ack, after, rfl, isAck, kept⟩)
    · exact ⟨before, handled, [], rfl, isAck, by simp⟩
    · refine ⟨earlier, ack, after ++ [handled], by simp, isAck, fun later member => ?_⟩
      rcases List.mem_append.mp member with past | latest
      · exact kept later past
      · rw [List.mem_singleton.mp latest, isOther]
        exact ⟨nofun, nofun⟩

/-- The loop runs on through every result but the outgoing DISCONNECT. -/
theorem driveEventloop_append {handled : List HandledResult}
    (running : ∀ h ∈ handled, h.result ≠ .outgoingDisconnect) (rest : List HandledResult) :
    driveEventloop (handled ++ rest) = driveEventloop handled ++ driveEventloop rest := by
  induction handled with
  | nil => rfl
  | cons first handled ih =>
    have others := ih fun h member => running h (List.mem_cons_of_mem _ member)
    have here := running first List.mem_cons_self
    rw [List.cons_append]
    cases result : first.result with
    | outgoingDisconnect => exact absurd result here
    | connAck | other | error => simp [driveEventloop, result, others]

/-! ### Beside the publisher -/

section

variable {mqtt : MqttConfig} {gateway : GatewayConfig} {qos : QoS}

/-- The poll result that a step of the publisher handles. -/
def pollResult? (event : PublisherEvent × List StatusEvent) : Option PollResult :=
  match event.1 with
  | .connAck => some .connAck
  | .connectionError => some .error
  -- Of the requests only the DISCONNECT makes the loop report.
  | .requestSent => some (if event.2 = [] then .other else .outgoingDisconnect)
  | .batch _ | .inputClosed | .offlineQueued | .disconnectQueued | .eventloopEnded
  | .onlineTask => none

/-- The poll results of a run, each handled with room for its report. -/
def pollResults (events : List (PublisherEvent × List StatusEvent)) : List HandledResult :=
  (events.filterMap pollResult?).map (⟨·, true⟩)

@[simp] theorem pollResults_singleton (event : PublisherEvent × List StatusEvent) :
    pollResults [event] = ((pollResult? event).map (⟨·, true⟩)).toList := by
  cases found : pollResult? event <;> simp [pollResults, found]

theorem pollResults_append (events events' : List (PublisherEvent × List StatusEvent)) :
    pollResults (events ++ events') = pollResults events ++ pollResults events' := by
  rw [pollResults, List.filterMap_append, List.map_append]
  rfl

theorem Publisher.Step.pollResult {publisher publisher' : Publisher}
    {event : PublisherEvent × List StatusEvent}
    (moved : Publisher.Step mqtt gateway qos publisher event publisher') :
    event.2 = driveEventloop (pollResults [event]) ∧
    (publisher.eventloop = .returned →
      pollResults [event] = [] ∧ publisher'.eventloop = .returned) ∧
    (publisher'.eventloop ≠ .returned → ∀ h ∈ pollResults [event],
      h.result ≠ .outgoingDisconnect) := by
  obtain ⟨event, reports⟩ := event
  unfold Publisher.Step Publisher.next at moved
  cases event with
  | requestSent =>
    simp only at moved
    split at moved
    next connected =>
      split at moved
      next => cases moved
      next caller request requests received =>
        by_cases last : request = .disconnect
        · rw [if_pos last] at moved
          cases moved
          simp [pollResult?, driveEventloop, HandledResult.report, connected]
        · rw [if_neg last] at moved
          cases moved
          simp [pollResult?, driveEventloop, connected]
    next => cases moved
  | onlineTask =>
    simp only at moved
    split at moved
    next => cases moved
    next =>
      cases moved
      simp [pollResult?, driveEventloop]
  | _ =>
    simp only [Option.ite_none_right_eq_some] at moved
    obtain ⟨fits, moved⟩ := moved
    cases moved
    simp [pollResult?, driveEventloop, HandledResult.report, fits]

/-- What the publisher's event loop reports in a run is what its poll results give. -/
theorem reports_eq_driveEventloop {events : List (PublisherEvent × List StatusEvent)}
    {publisher : Publisher}
    (run : Run (Publisher.Step mqtt gateway qos) Publisher.start events publisher) :
    events.flatMap Prod.snd = driveEventloop (pollResults events) := by
  -- Until the loop returns its results go on; after that there are none.
  suffices both : events.flatMap Prod.snd = driveEventloop (pollResults events) ∧
      (publisher.eventloop ≠ .returned → ∀ h ∈ pollResults events,
        h.result ≠ .outgoingDisconnect) from both.1
  induction run with
  | refl => exact ⟨rfl, fun _ => by simp [pollResults]⟩
  | @snoc before after events event first moved ih =>
    obtain ⟨same, running⟩ := ih
    obtain ⟨reported, ended, goesOn⟩ := moved.pollResult
    have whole : (events ++ [event]).flatMap Prod.snd = events.flatMap Prod.snd ++ event.2 := by
      simp
    rw [whole, pollResults_append, same, reported]
    by_cases returned : before.eventloop = .returned
    · obtain ⟨none, still⟩ := ended returned
      rw [none, List.append_nil]
      exact ⟨by simp [driveEventloop], fun left => absurd still left⟩
    · refine ⟨(driveEventloop_append (running returned) _).symm, fun left h member => ?_⟩
      rcases List.mem_append.mp member with earlier | last
      · exact running returned h earlier
      · exact goesOn left h last

end

/-! ### What is shown -/

def StatusEvent.isMqtt : StatusEvent → Bool
  | .mqttConnected | .mqttDisconnected => true
  | _ => false

/-- The display of the broker follows the MQTT events, whatever else is applied. -/
theorem mqttConnected_step (state : StatusState) (timed : TimedEvent) :
    (state.step timed).mqttConnected =
      if timed.event.isMqtt then decide (timed.event = .mqttConnected)
      else state.mqttConnected := by
  have kept (id : String) (update : ConnectionStatus → ConnectionStatus × Bool) :
      (state.updateConnection id update).1.mqttConnected = state.mqttConnected := by
    unfold StatusState.updateConnection
    split <;> rfl
  cases same : timed.event <;>
    simp [StatusState.step, StatusState.apply, StatusState.setHealth, same, kept, replace,
      StatusEvent.isMqtt]

theorem mqttConnected_after (state : StatusState) (events : List TimedEvent) :
    (state.after events).mqttConnected =
      ((events.map TimedEvent.event).filter StatusEvent.isMqtt).foldl
        (fun _ event => decide (event = .mqttConnected)) state.mqttConnected := by
  induction events using List.reverseRecOn with
  | nil => rfl
  | append_singleton events timed ih =>
    rw [StatusState.after_snoc, mqttConnected_step, ih]
    by_cases mqtt : timed.event.isMqtt <;> simp [mqtt]

/-- Shown is the session as far as the results handled with room tell. -/
theorem shown_iff {state : StatusState} (fresh : state.mqttConnected = false)
    {handled : List HandledResult}
    (running : ∀ h ∈ handled.dropLast, h.result ≠ .outgoingDisconnect) {events : List TimedEvent}
    (applied : (events.map TimedEvent.event).filter StatusEvent.isMqtt = driveEventloop handled) :
    (state.after events).mqttConnected = true ↔
      SessionOpen (handled.filter HandledResult.room) := by
  rw [mqttConnected_after, applied, fresh]
  clear applied
  induction handled using List.reverseRecOn with
  | nil => simpa [driveEventloop] using not_sessionOpen_nil
  | append_singleton handled last ih =>
    rw [List.dropLast_concat] at running
    have earlier := ih fun h member => running h (List.dropLast_subset _ member)
    rw [driveEventloop_append running, List.foldl_append, List.filter_append]
    cases room : last.room with
    | false =>
      have lost : driveEventloop [last] = [] := by
        cases result : last.result <;> simp [driveEventloop, result, HandledResult.report, room]
      simpa [lost, room] using earlier
    | true =>
      have seen : [last].filter HandledResult.room = [last] := by simp [room]
      rw [seen, sessionOpen_snoc]
      cases result : last.result <;>
        simp [driveEventloop, result, HandledResult.report, room, earlier]

/-- The last ConnAck or error was reported, or what it would have reported was reported by
the last one that found room; where none did, that is that no session is open. -/
def LastSignalKnown (handled : List HandledResult) : Prop :=
  ∀ earlier lost after, Since Signals handled (earlier ++ [lost]) after → lost.room = false →
    (lost.result = .connAck ↔ SessionOpen (earlier.filter HandledResult.room))

theorem sessionOpen_append_of_other (before : List HandledResult) {after : List HandledResult}
    (quiet : ∀ h ∈ after, h.result = .other) :
    SessionOpen (before ++ after) ↔ SessionOpen before := by
  induction after using List.reverseRecOn with
  | nil => rw [List.append_nil]
  | append_singleton after last ih =>
    have other := quiet last (by simp)
    rw [← List.append_assoc, sessionOpen_snoc, other,
      ih fun h member => quiet h (List.mem_append_left _ member)]
    simp

/-- What is known of the session is true of it exactly when the last signal is known. -/
theorem lastSignalKnown_iff (handled : List HandledResult) :
    LastSignalKnown handled ↔
      (SessionOpen (handled.filter HandledResult.room) ↔ SessionOpen handled) := by
  obtain ⟨before, after, cut⟩ := Since.exists_since Signals handled
  have quiet : ∀ h ∈ after, h.result = .other := fun h member => by
    obtain ⟨_, _, other⟩ := cut.exists_not_opens member
    exact not_not.mp other
  -- Only what was handled up to the last signal matters, with and without room.
  have whole : SessionOpen handled ↔ SessionOpen before := by
    rw [cut.split]
    exact sessionOpen_append_of_other before quiet
  have seen : SessionOpen (handled.filter HandledResult.room) ↔
      SessionOpen (before.filter HandledResult.room) := by
    rw [cut.split, List.filter_append]
    exact sessionOpen_append_of_other _ fun h member => quiet h (List.mem_of_mem_filter member)
  rw [whole, seen]
  rcases cut.opened with rfl | ⟨earlier, signal, rfl, signals⟩
  · refine iff_of_true (fun earlier lost after' cut' _ => ?_) Iff.rfl
    simpa using (cut.unique cut').1
  · have decided : SessionOpen (earlier ++ [signal]) ↔ signal.result = .connAck := by
      rw [sessionOpen_snoc]
      exact or_iff_left fun both => signals both.1
    cases room : signal.room with
    | true =>
      have reported : (earlier ++ [signal]).filter HandledResult.room =
          earlier.filter HandledResult.room ++ [signal] := by
        simp [List.filter_append, room]
      rw [decided, reported, sessionOpen_snoc, or_iff_left fun both => signals both.1]
      refine iff_of_true (fun earlier' lost after' cut' isLost => ?_) Iff.rfl
      obtain ⟨_, same⟩ := List.append_inj' (cut.unique cut').1 rfl
      cases same
      rw [room] at isLost
      cases isLost
    | false =>
      have dropped : (earlier ++ [signal]).filter HandledResult.room =
          earlier.filter HandledResult.room := by
        simp [List.filter_append, room]
      rw [decided, dropped]
      constructor
      · intro known
        exact (known earlier signal after cut room).symm
      · intro known earlier' lost after' cut' _
        obtain ⟨rfl, same⟩ := List.append_inj' (cut.unique cut').1 rfl
        cases same
        exact known.symm

/-- After a result handled with room the broker is shown as the session is, exactly when that
result is itself reported or the last signal before it is known. -/
theorem mqtt_shown_iff (gatewayId broker : String) (connections : List (String × List String))
    {handled : List HandledResult} {last : HandledResult}
    (running : ∀ h ∈ handled, h.result ≠ .outgoingDisconnect) (room : last.room = true)
    {events : List TimedEvent}
    (applied : (events.map TimedEvent.event).filter StatusEvent.isMqtt =
      driveEventloop (handled ++ [last])) :
    (((StatusState.new gatewayId broker connections).after events).mqttConnected = true ↔
      SessionOpen (handled ++ [last])) ↔
    last.result ≠ .other ∨ LastSignalKnown handled := by
  have fresh : (StatusState.new gatewayId broker connections).mqttConnected = false := rfl
  have running' : ∀ h ∈ (handled ++ [last]).dropLast, h.result ≠ .outgoingDisconnect := by
    rwa [List.dropLast_concat]
  have seen : (handled ++ [last]).filter HandledResult.room =
      handled.filter HandledResult.room ++ [last] := by
    simp [List.filter_append, room]
  rw [shown_iff fresh running' applied, seen, sessionOpen_snoc, sessionOpen_snoc,
    lastSignalKnown_iff]
  by_cases other : last.result = .other
  · simp [other]
  · simp [other]

/-- A lost session whose first error found the channel full, and the next one did not. -/
theorem mqtt_shown_after_repeated_error :
    ((StatusState.new "gw-router1" "10.0.0.5:8883" []).after
        [StatusEvent.mqttConnected.at 0, StatusEvent.mqttDisconnected.at 1]).mqttConnected = true ↔
      SessionOpen [⟨.connAck, true⟩, ⟨.error, false⟩, ⟨.error, true⟩] :=
  have running : ∀ h ∈ [HandledResult.mk .connAck true, ⟨.error, false⟩],
      h.result ≠ .outgoingDisconnect := by
    decide
  (mqtt_shown_iff "gw-router1" "10.0.0.5:8883" [] running rfl (by decide)).mpr (.inl (by decide))

/-- A ConnAck that finds the channel full is not reported again: with room for the next
packet the open session is still shown as disconnected. -/
theorem mqtt_shown_disconnected_in_session :
    ∃ (handled : List HandledResult) (last : HandledResult) (events : List TimedEvent),
      (∀ h ∈ handled, h.result ≠ .outgoingDisconnect) ∧ last.room = true ∧
      (events.map TimedEvent.event).filter StatusEvent.isMqtt = driveEventloop (handled ++ [last]) ∧
      ¬(((StatusState.new "gw-router1" "10.0.0.5:8883" []).after events).mqttConnected = true ↔
        SessionOpen (handled ++ [last])) := by
  refine ⟨[⟨.connAck, false⟩], ⟨.other, true⟩, [], by decide, rfl, rfl, fun shown => ?_⟩
  have session : SessionOpen [⟨.connAck, false⟩, ⟨.other, true⟩] :=
    ⟨[], _, _, rfl, rfl, by decide⟩
  exact Bool.false_ne_true (shown.mpr session)

end ModbusGateway
