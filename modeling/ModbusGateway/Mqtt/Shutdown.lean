import Mathlib.Data.List.TakeWhile
import ModbusGateway.Config.WellFormed
import ModbusGateway.Mqtt

/-!
# What a clean shutdown leaves on the status topic

"offline" and the disconnect are two requests. Between them the publisher may
wait, and a task spawned for a ConnAck may put its "online" there; that message
is then the last one before the DISCONNECT.
-/
namespace ModbusGateway

open Foundation

/-- The messages on a topic among some requests. -/
def messagesOn (topic : String) (requests : List Request) : List Payload :=
  requests.filterMap fun request =>
    match request with
    | .publish message => if message.topic = topic then some message.payload else none
    | .disconnect => none

/-- The last message on a topic before the DISCONNECT. -/
def lastMessage (topic : String) (sent : List Request) : Option Payload :=
  (messagesOn topic (sent.takeWhile (· ≠ .disconnect))).getLast?

namespace Publisher

/-- Every request issued so far, in order: what was sent, then what is queued or waits. -/
def line (publisher : Publisher) : List Request :=
  publisher.sent ++ publisher.requests.line.map Prod.snd

/-- An "online" issued after the publisher issued "offline" and before its disconnect. -/
def Late (publisher : Publisher) (event : PublisherEvent) : Prop :=
  publisher.phase = .publishingOffline ∧ event = .onlineTask

instance (publisher : Publisher) (event : PublisherEvent) : Decidable (publisher.Late event) :=
  inferInstanceAs (Decidable (_ ∧ _))

section

variable (publisher : Publisher) (caller : Caller) (request : Request)

@[simp] theorem issue_phase : (publisher.issue caller request).phase = publisher.phase := by
  unfold issue; split <;> rfl

@[simp] theorem issue_eventloop :
    (publisher.issue caller request).eventloop = publisher.eventloop := by
  unfold issue; split <;> rfl

@[simp] theorem issue_sent : (publisher.issue caller request).sent = publisher.sent := by
  unfold issue; split <;> rfl

variable {publisher} in
theorem issue_line (running : publisher.eventloop ≠ .returned) :
    (publisher.issue caller request).line = publisher.line ++ [request] := by
  rw [issue, if_neg running]
  simp [line, BoundedQueue.line_send]

/-- Issuing appends, as long as the event loop is there. -/
theorem issue_line_cases : (publisher.issue caller request).line = publisher.line ++ [request] ∨
    (publisher.issue caller request).line = publisher.line := by
  by_cases gone : publisher.eventloop = .returned
  · exact .inr (by rw [issue, if_pos gone])
  · exact .inl (issue_line caller request gone)

@[simp] theorem tryIssue_eventloop :
    (publisher.tryIssue request).eventloop = publisher.eventloop := by
  unfold tryIssue
  split
  · rfl
  · split <;> rfl

theorem tryIssue_cases : publisher.tryIssue request = publisher ∨
    ∃ requests, publisher.tryIssue request = { publisher with requests } ∧
      (publisher.tryIssue request).line = publisher.line ++ [request] := by
  unfold tryIssue
  split
  · exact .inl rfl
  · split
    next requests sent =>
      exact .inr ⟨requests, rfl, by simp [line, BoundedQueue.line_trySend sent]⟩
    next => exact .inl rfl

end

/-! ### The order of the requests -/

/-- What shutting down has put on the line so far, with `late` messages of the tasks
between "offline" and the disconnect. -/
def Shape (gateway : GatewayConfig) (late : Nat) (line : List Request) : PublisherPhase → Prop
  | .receiving => late = 0 ∧ .disconnect ∉ line
  | .publishingOffline => ∃ before, .disconnect ∉ before ∧
      line = before ++ statusMessage gateway offline ::
        List.replicate late (statusMessage gateway online)
  | .disconnecting | .joining | .returned => ∃ before after, .disconnect ∉ before ∧
      line = (before ++ statusMessage gateway offline ::
        List.replicate late (statusMessage gateway online)) ++ .disconnect :: after

structure Inv (gateway : GatewayConfig) (late : Nat) (publisher : Publisher) : Prop where
  shape : Shape gateway late publisher.line publisher.phase
  returned : publisher.eventloop = .returned → .disconnect ∈ publisher.sent

theorem disconnect_notMem_offline {gateway : GatewayConfig} {before : List Request} {late : Nat}
    (none : .disconnect ∉ before) :
    .disconnect ∉ before ++ statusMessage gateway offline ::
      List.replicate late (statusMessage gateway online) := by
  simp [none, statusMessage]

/-- Until the publisher issues its disconnect, the event loop runs. -/
theorem Inv.running {gateway : GatewayConfig} {late : Nat} {publisher : Publisher}
    (inv : Inv gateway late publisher) (absent : .disconnect ∉ publisher.line) :
    publisher.eventloop ≠ .returned := fun returned =>
  absent (List.mem_append_left _ (inv.returned returned))

theorem inv_start (gateway : GatewayConfig) : Inv gateway 0 start :=
  ⟨⟨rfl, by simp [line, start]⟩, nofun⟩

variable {mqtt : MqttConfig} {gateway : GatewayConfig} {qos : QoS} {publisher : Publisher}

/-- What stays of the invariant when nothing is issued. -/
theorem Inv.congr {late : Nat} {publisher publisher' : Publisher} (inv : Inv gateway late publisher)
    (shape : Shape gateway late publisher.line publisher.phase →
      Shape gateway late publisher'.line publisher'.phase)
    (sent : publisher'.sent = publisher.sent)
    (returned : publisher'.eventloop = .returned → publisher.eventloop = .returned) :
    Inv gateway late publisher' :=
  ⟨shape inv.shape, fun now => sent ▸ inv.returned (returned now)⟩

theorem Inv.batch {late : Nat} (inv : Inv gateway late publisher)
    (receiving : publisher.phase = .receiving) (batch : AggregatedBatch) :
    Inv gateway late (publisher.tryIssue (telemetry mqtt gateway qos batch)) := by
  rcases tryIssue_cases publisher (telemetry mqtt gateway qos batch) with
    same | ⟨requests, issued, line⟩
  · rwa [same]
  · obtain ⟨none, absent⟩ := receiving ▸ inv.shape
    have shape : Shape gateway late (publisher.line ++ [telemetry mqtt gateway qos batch])
        publisher.phase := by
      rw [receiving]
      exact ⟨none, by simp [absent, telemetry]⟩
    rw [← line] at shape
    rw [issued] at shape ⊢
    exact ⟨shape, inv.returned⟩

theorem Inv.inputClosed {late : Nat} (inv : Inv gateway late publisher)
    (receiving : publisher.phase = .receiving) :
    Inv gateway late { publisher.issue .publisher (statusMessage gateway offline) with
      phase := .publishingOffline } := by
  obtain ⟨rfl, absent⟩ := receiving ▸ inv.shape
  have line := issue_line .publisher (statusMessage gateway offline) (inv.running absent)
  exact ⟨⟨publisher.line, absent, line⟩, by simpa using inv.returned⟩

theorem Inv.offlineQueued {late : Nat} (inv : Inv gateway late publisher)
    (shutting : publisher.phase = .publishingOffline) :
    Inv gateway late { publisher.issue .publisher .disconnect with phase := .disconnecting } := by
  obtain ⟨before, none, shape⟩ := shutting ▸ inv.shape
  have running := inv.running (shape ▸ disconnect_notMem_offline none)
  have line := issue_line .publisher .disconnect running
  exact ⟨⟨before, [], none, line.trans (by rw [shape])⟩, by simpa using inv.returned⟩

theorem Inv.onlineTask {late : Nat} (inv : Inv gateway late publisher) (onlineTasks : Nat) :
    Inv gateway (if publisher.Late .onlineTask then late + 1 else late)
      { publisher.issue .onlineTask (statusMessage gateway online) with onlineTasks } := by
  refine ⟨?_, by simpa using inv.returned⟩
  change Shape gateway _ (publisher.issue .onlineTask (statusMessage gateway online)).line
    (publisher.issue .onlineTask (statusMessage gateway online)).phase
  have shape := inv.shape
  rw [issue_phase]
  cases phase : publisher.phase with
  | receiving =>
    -- Ahead of "offline": one more message of the time before.
    rw [phase] at shape
    rw [issue_line _ _ (inv.running shape.2), if_neg (by simp [Late, phase])]
    exact ⟨shape.1, by simp [shape.2, statusMessage]⟩
  | publishingOffline =>
    -- Behind "offline", and the disconnect will get in line behind this message.
    rw [phase] at shape
    obtain ⟨before, none, line⟩ := shape
    have running := inv.running (line ▸ disconnect_notMem_offline none)
    rw [issue_line _ _ running, if_pos ⟨phase, rfl⟩]
    exact ⟨before, none, by simp [line, List.replicate_succ']⟩
  | disconnecting | joining | returned =>
    -- Behind the disconnect: it is never sent.
    rw [phase] at shape
    rw [if_neg (by simp [Late, phase])]
    obtain ⟨before, after, none, line⟩ := shape
    rcases issue_line_cases publisher .onlineTask (statusMessage gateway online) with
      issued | same
    · exact ⟨before, after ++ [statusMessage gateway online], none, by simp [issued, line]⟩
    · exact ⟨before, after, none, same.trans line⟩

theorem Inv.requestSent {late : Nat} (inv : Inv gateway late publisher) {caller : Caller}
    {request : Request} {requests : BoundedQueue queueCapacity (Caller × Request)}
    (received : publisher.requests.receive = some ((caller, request), requests))
    (eventloop : Eventloop) (returned : eventloop = .returned → request = .disconnect) :
    Inv gateway late { publisher with
      requests, eventloop, sent := publisher.sent ++ [request] } := by
  have line : publisher.line = publisher.sent ++ [request] ++ requests.line.map Prod.snd := by
    simp [Publisher.line, BoundedQueue.line_receive received]
  refine ⟨?_, fun gone => by simp [returned gone]⟩
  have shape := inv.shape
  rw [line] at shape
  exact shape

/-- Only an "online" changes what lies between "offline" and the disconnect. -/
theorem Inv.step_of_ne {late : Nat} {publisher' : Publisher} {event : PublisherEvent}
    {reports : List StatusEvent} (inv : Inv gateway late publisher)
    (moved : Step mqtt gateway qos publisher (event, reports) publisher')
    (other : event ≠ .onlineTask) : Inv gateway late publisher' := by
  cases event with
  | onlineTask => exact absurd rfl other
  | batch batch =>
    simp only [Step, next] at moved
    split at moved
    next receiving => cases moved; exact inv.batch receiving batch
    next => cases moved
  | inputClosed =>
    simp only [Step, next] at moved
    split at moved
    next receiving => cases moved; exact inv.inputClosed receiving
    next => cases moved
  | offlineQueued =>
    simp only [Step, next] at moved
    split at moved
    next queued => cases moved; exact inv.offlineQueued queued.1
    next => cases moved
  | disconnectQueued =>
    simp only [Step, next] at moved
    split at moved
    next queued => cases moved; exact inv.congr (by rw [queued.1]; exact id) rfl id
    next => cases moved
  | eventloopEnded =>
    simp only [Step, next] at moved
    split at moved
    next ended => cases moved; exact inv.congr (by rw [ended.1]; exact id) rfl id
    next => cases moved
  | connAck =>
    simp only [Step, next] at moved
    split at moved
    · cases moved; exact inv.congr id rfl nofun
    · cases moved
  | connectionError =>
    simp only [Step, next] at moved
    split at moved
    · cases moved; exact inv.congr id rfl nofun
    · cases moved
  | requestSent =>
    simp only [Step, next] at moved
    split at moved
    next connected =>
      split at moved
      next => cases moved
      next caller request requests received =>
        split at moved
        next last => cases moved; exact inv.requestSent received .returned fun _ => last
        next =>
          cases moved
          exact inv.requestSent received publisher.eventloop fun gone => by
            rw [connected] at gone
            cases gone
    next => cases moved

theorem Inv.step {late : Nat} {publisher' : Publisher}
    {event : PublisherEvent × List StatusEvent} (inv : Inv gateway late publisher)
    (moved : Step mqtt gateway qos publisher event publisher') :
    Inv gateway (if publisher.Late event.1 then late + 1 else late) publisher' := by
  obtain ⟨event, reports⟩ := event
  by_cases own : event = .onlineTask
  · subst own
    simp only [Step, next] at moved
    split at moved
    · cases moved
    · cases moved
      exact inv.onlineTask _
  · rw [if_neg fun tardy => own tardy.2]
    exact inv.step_of_ne moved own

/-- Runs in which no "online" comes between "offline" and the disconnect. -/
abbrev PunctualStep (mqtt : MqttConfig) (gateway : GatewayConfig) (qos : QoS)
    (publisher : Publisher) (event : PublisherEvent × List StatusEvent) (publisher' : Publisher) :
    Prop :=
  Step mqtt gateway qos publisher event publisher' ∧ ¬publisher.Late event.1

theorem inv_of_run {events : List (PublisherEvent × List StatusEvent)}
    (run : Run (Step mqtt gateway qos) start events publisher) :
    ∃ late, Inv gateway late publisher ∧
      (late = 0 ↔ Run (PunctualStep mqtt gateway qos) start events publisher) := by
  induction run with
  | refl => exact ⟨0, inv_start gateway, iff_of_true rfl (.refl _)⟩
  | @snoc publisher publisher' events event before moved ih =>
    -- The count never falls, so it is 0 at the end only if no step raised it.
    obtain ⟨late, inv, punctual⟩ := ih
    refine ⟨_, inv.step moved, ?_⟩
    rw [Run.snoc_iff]
    constructor
    · intro none
      by_cases tardy : publisher.Late event.1
      · rw [if_pos tardy] at none
        cases none
      · rw [if_neg tardy] at none
        exact ⟨publisher, punctual.mp none, moved, tardy⟩
    · rintro ⟨other, earlier, _, onTime⟩
      -- Steps leave no choice, so the punctual run passes through the same states.
      have functional : ∀ s e t t', Step mqtt gateway qos s e t →
          Step mqtt gateway qos s e t' → t = t' := fun s e t t' first second =>
        congrArg Prod.fst (Option.some.inj (first.symm.trans second))
      have same := Run.deterministic functional (earlier.mono fun _ _ _ both => both.1) before
      subst same
      rw [if_neg onTime]
      exact punctual.mpr earlier

/-! ### The last message -/

theorem takeWhile_before {before after : List Request} (absent : .disconnect ∉ before) :
    (before ++ .disconnect :: after).takeWhile (· ≠ .disconnect) = before := by
  have kept : ∀ request ∈ before, decide (request ≠ .disconnect) = true := by
    intro request member
    exact decide_eq_true (ne_of_mem_of_not_mem member absent)
  rw [List.takeWhile_append_of_pos kept]
  simp

theorem messagesOn_append (topic : String) (requests requests' : List Request) :
    messagesOn topic (requests ++ requests') =
      messagesOn topic requests ++ messagesOn topic requests' :=
  List.filterMap_append

theorem messagesOn_status (text : String) (requests : List Request) :
    messagesOn (statusTopic gateway.id) (statusMessage gateway text :: requests) =
      .text text :: messagesOn (statusTopic gateway.id) requests := by
  simp [messagesOn, statusMessage]

theorem Inv.lastMessage {late : Nat} (inv : Inv gateway late publisher)
    (sent : .disconnect ∈ publisher.sent) :
    lastMessage (statusTopic gateway.id) publisher.sent =
      some (.text (if late = 0 then offline else online)) := by
  obtain ⟨first, rest, split, absent⟩ := List.eq_append_cons_of_mem sent
  have issued : .disconnect ∈ publisher.line := List.mem_append_left _ sent
  -- Everything before the DISCONNECT has been sent, in the order of the line.
  have whole : ∃ before, first = before ++ statusMessage gateway offline ::
      List.replicate late (statusMessage gateway online) := by
    have shape := inv.shape
    cases phase : publisher.phase with
    | receiving =>
      rw [phase] at shape
      exact absurd issued shape.2
    | publishingOffline =>
      rw [phase] at shape
      obtain ⟨before, none, line⟩ := shape
      exact absurd (line ▸ issued) (disconnect_notMem_offline none)
    | disconnecting | joining | returned =>
      rw [phase] at shape
      obtain ⟨before, after, none, line⟩ := shape
      have ahead := congrArg (List.takeWhile (· ≠ .disconnect)) line
      rw [takeWhile_before (disconnect_notMem_offline none), Publisher.line, split,
        List.append_assoc, List.cons_append, takeWhile_before absent] at ahead
      exact ⟨before, ahead⟩
  obtain ⟨before, rfl⟩ := whole
  rw [ModbusGateway.lastMessage, split, takeWhile_before absent, messagesOn_append,
    messagesOn_status]
  cases late with
  | zero => simp [messagesOn]
  | succ late =>
    have newest : messagesOn (statusTopic gateway.id) [statusMessage gateway online] =
        [.text online] := messagesOn_status online []
    rw [List.replicate_succ', messagesOn_append, newest, ← List.cons_append, ← List.append_assoc,
      List.getLast?_concat]
    rfl

/-- If the DISCONNECT went out, "offline" is the last message before it on the status
topic exactly if no task spawned for a ConnAck issued its "online" after the publisher
issued "offline" and before it issued the disconnect. -/
theorem offline_is_last_iff {events : List (PublisherEvent × List StatusEvent)}
    (run : Run (Step mqtt gateway qos) start events publisher)
    (sent : .disconnect ∈ publisher.sent) :
    lastMessage (statusTopic gateway.id) publisher.sent = some (.text offline) ↔
      Run (PunctualStep mqtt gateway qos) start events publisher := by
  obtain ⟨late, inv, punctual⟩ := inv_of_run run
  rw [← punctual, inv.lastMessage sent]
  by_cases none : late = 0
  · simp [none]
  · simp [none, online, offline]

/-- The task of an early ConnAck has published before the gateway shuts down. -/
theorem offline_is_last_gwRouter1 :
    ∃ publisher, Run (Step exampleConfig.mqtt exampleConfig.gateway .atLeastOnce) start
        [(.connAck, [.mqttConnected]), (.onlineTask, []), (.requestSent, []), (.inputClosed, []),
          (.offlineQueued, []), (.requestSent, []), (.requestSent, [.mqttDisconnected])]
        publisher ∧
      lastMessage (statusTopic exampleConfig.gateway.id) publisher.sent =
        some (.text offline) := by
  have run : Run (PunctualStep exampleConfig.mqtt exampleConfig.gateway .atLeastOnce) start
      [(.connAck, [.mqttConnected]), (.onlineTask, []), (.requestSent, []), (.inputClosed, []),
        (.offlineQueued, []), (.requestSent, []), (.requestSent, [.mqttDisconnected])] _ :=
    .cons ⟨rfl, by decide⟩ (.cons ⟨rfl, by decide⟩ (.cons ⟨rfl, by decide⟩
      (.cons ⟨rfl, by decide⟩ (.cons ⟨rfl, by decide⟩ (.cons ⟨rfl, by decide⟩
      (.single ⟨rfl, by decide⟩))))))
  have taken := run.mono fun _ _ _ both => both.1
  exact ⟨_, taken, (offline_is_last_iff taken (by decide)).mpr run⟩

/-- The ConnAck's task comes to publish while the publisher waits for "offline" to be
queued, and a stopped gateway stays advertised as online. -/
theorem online_is_last_gwRouter1 :
    ∃ publisher, Run (Step exampleConfig.mqtt exampleConfig.gateway .atLeastOnce) start
        [(.connAck, [.mqttConnected]), (.inputClosed, []), (.onlineTask, []),
          (.offlineQueued, []), (.requestSent, []), (.requestSent, []),
          (.requestSent, [.mqttDisconnected])] publisher ∧
      .disconnect ∈ publisher.sent ∧
      lastMessage (statusTopic exampleConfig.gateway.id) publisher.sent =
        some (.text online) :=
  ⟨_, .cons rfl (.cons rfl (.cons rfl (.cons rfl (.cons rfl (.cons rfl (.single rfl)))))),
    by decide, by decide⟩

end Publisher

end ModbusGateway
