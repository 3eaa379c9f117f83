import ModbusGateway.Mqtt.Shutdown

/-!
# When the publisher comes to an end

Without further batches the publisher disconnects and returns if the broker
can be reached: its steps, those of the event loop and of the tasks for ConnAcks
lower a rank until it has. As long as no session is open it never returns.
-/
namespace ModbusGateway

open Foundation

/-- How far `run_publisher` is from returning, with the requests it will issue. -/
def PublisherPhase.rank : PublisherPhase → ℕ
  | .receiving => 6
  | .publishingOffline => 4
  | .disconnecting => 2
  | .joining => 1
  | .returned => 0

namespace Publisher

section

variable (mqtt : MqttConfig) (gateway : GatewayConfig) (qos : QoS)

/-- Every way the publisher can move. -/
inductive Moves : Publisher → PublisherEvent → List StatusEvent → Publisher → Prop where
  | batch (publisher : Publisher) (batch : AggregatedBatch)
      (receiving : publisher.phase = .receiving) :
      Moves publisher (.batch batch) [] (publisher.tryIssue (telemetry mqtt gateway qos batch))
  | inputClosed (publisher : Publisher) (receiving : publisher.phase = .receiving) :
      Moves publisher .inputClosed []
        { publisher.issue .publisher (statusMessage gateway offline) with
          phase := .publishingOffline }
  | offlineQueued (publisher : Publisher) (phase : publisher.phase = .publishingOffline)
      (queued : publisher.awaitsSlot = false) :
      Moves publisher .offlineQueued []
        { publisher.issue .publisher .disconnect with phase := .disconnecting }
  | disconnectQueued (publisher : Publisher) (phase : publisher.phase = .disconnecting)
      (queued : publisher.awaitsSlot = false) :
      Moves publisher .disconnectQueued [] { publisher with phase := .joining }
  | eventloopEnded (publisher : Publisher) (phase : publisher.phase = .joining)
      (ended : publisher.eventloop = .returned) :
      Moves publisher .eventloopEnded [] { publisher with phase := .returned }
  | connAck (publisher : Publisher) (disconnected : publisher.eventloop = .disconnected) :
      Moves publisher .connAck [.mqttConnected]
        { publisher with eventloop := .connected, onlineTasks := publisher.onlineTasks + 1 }
  | connectionError (publisher : Publisher) (running : publisher.eventloop ≠ .returned) :
      Moves publisher .connectionError [.mqttDisconnected]
        { publisher with eventloop := .disconnected }
  | onlineTask (publisher : Publisher) (onlineTasks : Nat)
      (spawned : publisher.onlineTasks = onlineTasks + 1) :
      Moves publisher .onlineTask []
        { publisher.issue .onlineTask (statusMessage gateway online) with onlineTasks }
  | requestSent (publisher : Publisher) (caller : Caller) (request : Request)
      (requests : BoundedQueue queueCapacity (Caller × Request))
      (connected : publisher.eventloop = .connected)
      (oldest : publisher.requests.receive = some ((caller, request), requests))
      (other : request ≠ .disconnect) :
      Moves publisher .requestSent []
        { publisher with requests, sent := publisher.sent ++ [request] }
  | disconnectSent (publisher : Publisher) (caller : Caller)
      (requests : BoundedQueue queueCapacity (Caller × Request))
      (connected : publisher.eventloop = .connected)
      (oldest : publisher.requests.receive = some ((caller, .disconnect), requests)) :
      Moves publisher .requestSent [.mqttDisconnected]
        { publisher with
          requests, eventloop := .returned, sent := publisher.sent ++ [.disconnect] }

end

variable {mqtt : MqttConfig} {gateway : GatewayConfig} {qos : QoS}

theorem step_iff_moves {publisher publisher' : Publisher} {event : PublisherEvent}
    {reports : List StatusEvent} :
    Step mqtt gateway qos publisher (event, reports) publisher' ↔
      Moves mqtt gateway qos publisher event reports publisher' := by
  constructor
  · intro moved
    unfold Step next at moved
    cases event with
    | onlineTask =>
      simp only at moved
      split at moved
      next => cases moved
      next onlineTasks spawned => cases moved; exact .onlineTask publisher onlineTasks spawned
    | requestSent =>
      simp only at moved
      split at moved
      next connected =>
        split at moved
        next => cases moved
        next caller request requests oldest =>
          split at moved
          next last =>
            subst last
            cases moved
            exact .disconnectSent publisher caller requests connected oldest
          next other =>
            cases moved
            exact .requestSent publisher caller request requests connected oldest other
      next => cases moved
    | batch | inputClosed | offlineQueued | disconnectQueued | eventloopEnded | connAck
    | connectionError =>
      simp only [Option.ite_none_right_eq_some] at moved
      obtain ⟨fits, moved⟩ := moved
      cases moved
      constructor <;> simp_all
  · intro moves
    unfold Step next
    cases moves with
    | onlineTask onlineTasks spawned => simp only [spawned]
    | requestSent caller request requests connected oldest other =>
      simp only [connected, oldest, if_neg other, if_true]
    | disconnectSent caller requests connected oldest =>
      simp only [connected, oldest, if_true]
    | batch | inputClosed | offlineQueued | disconnectQueued | eventloopEnded | connAck
    | connectionError =>
      simp_all

theorem Moves.returned {publisher publisher' : Publisher} {event : PublisherEvent}
    {reports : List StatusEvent}
    (moves : Moves mqtt gateway qos publisher event reports publisher')
    (ended : publisher.phase = .returned) : publisher'.phase = .returned := by
  cases moves with
  | batch _ phase | inputClosed phase | offlineQueued phase | disconnectQueued phase
  | eventloopEnded phase => exact nomatch ended.symm.trans phase
  | connAck | connectionError | requestSent | disconnectSent => exact ended
  | onlineTask => simpa using ended

/-! ### Who waits behind a disconnect -/

/-- The requests not yet sent, with their callers. -/
def pending (publisher : Publisher) : List (Caller × Request) := publisher.requests.line

theorem pending_issue_cases (publisher : Publisher) (caller : Caller) (request : Request) :
    (publisher.issue caller request).pending = publisher.pending ++ [(caller, request)] ∨
      publisher.eventloop = .returned ∧
        (publisher.issue caller request).pending = publisher.pending := by
  unfold issue
  split
  next gone => exact .inr ⟨gone, rfl⟩
  next => exact .inl (BoundedQueue.line_send _ _)

theorem pending_tryIssue_cases (publisher : Publisher) (request : Request) :
    (publisher.tryIssue request).pending = publisher.pending ++ [(.publisher, request)] ∨
      (publisher.tryIssue request).pending = publisher.pending := by
  unfold tryIssue
  split
  · exact .inr rfl
  · split
    next requests taken => exact .inl (BoundedQueue.line_trySend taken)
    next => exact .inr rfl

theorem disconnect_mem_line {publisher : Publisher} :
    .disconnect ∈ publisher.line ↔ .disconnect ∈ publisher.sent ∨
      ∃ request ∈ publisher.pending, request.2 = .disconnect := by
  simp [line, pending]

/-- The disconnect is the publisher's last request: only tasks for ConnAcks come after it. -/
structure Ordered (publisher : Publisher) : Prop where
  sent : .disconnect ∈ publisher.sent → publisher.eventloop = .returned
  behind : publisher.pending.Pairwise fun earlier later =>
    earlier.2 = .disconnect → later.1 = .onlineTask
  ended : publisher.eventloop = .returned →
    ∀ request ∈ publisher.pending, request.1 = .onlineTask

theorem ordered_start : Ordered start :=
  ⟨by simp [start], List.Pairwise.nil, nofun⟩

/-- One more request at the end. -/
theorem Ordered.push {publisher publisher' : Publisher} {caller : Caller} {request : Request}
    (ordered : publisher.Ordered)
    (pushed : publisher'.pending = publisher.pending ++ [(caller, request)] ∨
      publisher'.pending = publisher.pending)
    (own : caller = .publisher → .disconnect ∉ publisher.line)
    (eventloop : publisher'.eventloop = publisher.eventloop)
    (sent : publisher'.sent = publisher.sent)
    (running : caller = .publisher → publisher.eventloop ≠ .returned) :
    publisher'.Ordered := by
  refine ⟨fun member => ?_, ?_, fun ended => ?_⟩
  · rw [eventloop]
    exact ordered.sent (sent ▸ member)
  · rcases pushed with pushed | same
    · rw [pushed, List.pairwise_append]
      refine ⟨ordered.behind, List.pairwise_singleton _ _, fun earlier member later last gone => ?_⟩
      rw [List.mem_singleton.mp last]
      -- A request of the publisher cannot come to stand behind its own disconnect.
      cases caller with
      | onlineTask => rfl
      | publisher => exact absurd (disconnect_mem_line.mpr (.inr ⟨earlier, member, gone⟩)) (own rfl)
    · rw [same]
      exact ordered.behind
  · rw [eventloop] at ended
    intro r member
    rcases pushed with pushed | same
    · rw [pushed] at member
      rcases List.mem_append.mp member with member | last
      · exact ordered.ended ended r member
      · rw [List.mem_singleton.mp last]
        cases caller with
        | onlineTask => rfl
        | publisher => exact absurd ended (running rfl)
    · exact ordered.ended ended r (same ▸ member)

/-- No disconnect is on the line before the publisher issues one. -/
theorem Inv.disconnect_notMem {late : Nat} {publisher : Publisher}
    (inv : Inv gateway late publisher)
    (early : publisher.phase = .receiving ∨ publisher.phase = .publishingOffline) :
    .disconnect ∉ publisher.line := by
  have shape := inv.shape
  rcases early with phase | phase
  · rw [phase] at shape
    exact shape.2
  · rw [phase] at shape
    obtain ⟨before, none, line⟩ := shape
    rw [line]
    exact disconnect_notMem_offline none

theorem Ordered.step {late : Nat} {publisher publisher' : Publisher} {event : PublisherEvent}
    {reports : List StatusEvent} (ordered : publisher.Ordered)
    (inv : Inv gateway late publisher)
    (moves : Moves mqtt gateway qos publisher event reports publisher') : publisher'.Ordered := by
  cases moves with
  | batch batch receiving =>
    have absent := inv.disconnect_notMem (.inl receiving)
    refine ordered.push (pending_tryIssue_cases _ _) (fun _ => absent) (by simp) ?_
      fun _ => inv.running absent
    rcases tryIssue_cases publisher (telemetry mqtt gateway qos batch) with same | ⟨_, same, _⟩
    · rw [same]
    · rw [same]
  | inputClosed receiving =>
    have absent := inv.disconnect_notMem (.inl receiving)
    exact ordered.push ((pending_issue_cases publisher _ _).imp_right And.right)
      (fun _ => absent) (by simp) (by simp) fun _ => inv.running absent
  | offlineQueued phase =>
    have absent := inv.disconnect_notMem (.inr phase)
    exact ordered.push ((pending_issue_cases publisher _ _).imp_right And.right)
      (fun _ => absent) (by simp) (by simp) fun _ => inv.running absent
  | onlineTask =>
    exact ordered.push ((pending_issue_cases publisher _ _).imp_right And.right)
      nofun (by simp) (by simp) nofun
  | disconnectQueued | eventloopEnded => exact ⟨ordered.sent, ordered.behind, ordered.ended⟩
  | connAck disconnected =>
    refine ⟨fun member => ?_, ordered.behind, nofun⟩
    have returned := ordered.sent member
    rw [disconnected] at returned
    cases returned
  | connectionError running =>
    exact ⟨fun member => absurd (ordered.sent member) running, ordered.behind, nofun⟩
  | requestSent caller request requests connected oldest other =>
    have line : publisher.pending = (caller, request) :: requests.line :=
      BoundedQueue.line_receive oldest
    have behind := ordered.behind
    rw [line, List.pairwise_cons] at behind
    refine ⟨fun member => ?_, behind.2, fun ended => ?_⟩
    · rcases List.mem_append.mp member with earlier | last
      · exact ordered.sent earlier
      · exact absurd (List.mem_singleton.mp last).symm other
    · rw [show publisher.eventloop = .returned from ended] at connected
      cases connected
  | disconnectSent caller requests connected oldest =>
    have line : publisher.pending = (caller, .disconnect) :: requests.line :=
      BoundedQueue.line_receive oldest
    -- With the disconnect gone, what was behind it is all that is left.
    have behind := ordered.behind
    rw [line, List.pairwise_cons] at behind
    exact ⟨fun _ => rfl, behind.2, fun _ request member => behind.1 request member rfl⟩

/-- Behind the disconnect there is only "online", and the publisher waits for its event loop. -/
structure Joined (gateway : GatewayConfig) (publisher : Publisher) : Prop where
  tasks : ∀ request ∈ publisher.pending, request.1 = .onlineTask →
    request.2 = statusMessage gateway online
  ended : publisher.phase = .returned → publisher.eventloop = .returned

theorem Joined.push {publisher publisher' : Publisher} {caller : Caller} {request : Request}
    (joined : Joined gateway publisher)
    (pushed : publisher'.pending = publisher.pending ++ [(caller, request)] ∨
      publisher'.pending = publisher.pending)
    (own : caller = .onlineTask → request = statusMessage gateway online)
    (ended : publisher'.phase = .returned → publisher'.eventloop = .returned) :
    Joined gateway publisher' := by
  refine ⟨fun r member fromTask => ?_, ended⟩
  rcases pushed with pushed | same
  · rw [pushed] at member
    rcases List.mem_append.mp member with member | last
    · exact joined.tasks r member fromTask
    · rw [List.mem_singleton.mp last] at fromTask ⊢
      exact own fromTask
  · exact joined.tasks r (same ▸ member) fromTask

theorem Joined.step {publisher publisher' : Publisher} {event : PublisherEvent}
    {reports : List StatusEvent} (joined : Joined gateway publisher)
    (moves : Moves mqtt gateway qos publisher event reports publisher') :
    Joined gateway publisher' := by
  have issued (caller : Caller) (request : Request) :=
    (pending_issue_cases publisher caller request).imp_right And.right
  cases moves with
  | batch batch receiving =>
    refine joined.push (pending_tryIssue_cases _ _) nofun fun returned => ?_
    rcases tryIssue_cases publisher (telemetry mqtt gateway qos batch) with same | ⟨_, same, _⟩
    · rw [same, receiving] at returned
      cases returned
    · rw [same] at returned
      rw [show publisher.phase = .returned from returned] at receiving
      cases receiving
  | inputClosed => exact joined.push (issued .publisher _) nofun nofun
  | offlineQueued => exact joined.push (issued .publisher _) nofun nofun
  | disconnectQueued => exact ⟨joined.tasks, nofun⟩
  | eventloopEnded phase ended => exact ⟨joined.tasks, fun _ => ended⟩
  | onlineTask onlineTasks =>
    refine joined.push (issued .onlineTask _) (fun _ => rfl) fun returned => ?_
    simp only [issue_phase, issue_eventloop] at returned ⊢
    exact joined.ended returned
  | connAck disconnected =>
    refine ⟨joined.tasks, fun returned => ?_⟩
    rw [joined.ended returned] at disconnected
    cases disconnected
  | connectionError running =>
    exact ⟨joined.tasks, fun returned => absurd (joined.ended returned) running⟩
  | requestSent _ _ requests connected oldest =>
    refine ⟨fun r member => joined.tasks r ?_, joined.ended⟩
    rw [pending, BoundedQueue.line_receive oldest]
    exact List.mem_cons_of_mem _ member
  | disconnectSent _ requests connected oldest =>
    refine ⟨fun r member => joined.tasks r ?_, fun _ => rfl⟩
    rw [pending, BoundedQueue.line_receive oldest]
    exact List.mem_cons_of_mem _ member

/-- What every run keeps. -/
structure Sound (gateway : GatewayConfig) (publisher : Publisher) : Prop where
  inv : ∃ late, Inv gateway late publisher
  ordered : publisher.Ordered
  joined : Joined gateway publisher

theorem sound_start (gateway : GatewayConfig) : Sound gateway start :=
  ⟨⟨0, inv_start gateway⟩, ordered_start, ⟨nofun, nofun⟩⟩

theorem Sound.step {publisher publisher' : Publisher} {event : PublisherEvent × List StatusEvent}
    (sound : Sound gateway publisher) (moved : Step mqtt gateway qos publisher event publisher') :
    Sound gateway publisher' := by
  obtain ⟨⟨late, inv⟩, ordered, joined⟩ := sound
  have moves := step_iff_moves.mp moved
  exact ⟨⟨_, inv.step moved⟩, ordered.step inv moves, joined.step moves⟩

/-! ### Coming to the end -/

/-- What happens when no batch comes and the broker can be reached. -/
def Cooperative (event : PublisherEvent × List StatusEvent) : Prop :=
  match event.1 with
  | .batch _ | .connectionError => False
  | .inputClosed | .offlineQueued | .disconnectQueued | .eventloopEnded | .connAck | .onlineTask
  | .requestSent => True

/-- A ConnAck spawns a task, and a task or a phase may issue one request. -/
def rank (publisher : Publisher) : ℕ :=
  publisher.phase.rank + (if publisher.eventloop = .disconnected then 3 else 0) +
    2 * publisher.onlineTasks + publisher.pending.length

theorem length_pending_issue (publisher : Publisher) (caller : Caller) (request : Request) :
    (publisher.issue caller request).pending.length ≤ publisher.pending.length + 1 := by
  rcases pending_issue_cases publisher caller request with issued | ⟨_, same⟩
  · rw [issued, List.length_append, List.length_singleton]
  · rw [same]
    exact Nat.le_succ _

@[simp] theorem issue_onlineTasks (publisher : Publisher) (caller : Caller) (request : Request) :
    (publisher.issue caller request).onlineTasks = publisher.onlineTasks := by
  unfold issue
  split <;> rfl

/-- Every cooperative step lowers the rank. -/
theorem Moves.lowers {publisher publisher' : Publisher} {event : PublisherEvent}
    {reports : List StatusEvent} (moves : Moves mqtt gateway qos publisher event reports publisher')
    (cooperative : Cooperative (event, reports)) : publisher'.rank < publisher.rank := by
  cases moves with
  | batch | connectionError => exact cooperative.elim
  -- The phase falls by more than the one request that it issues.
  | inputClosed receiving =>
    have few := length_pending_issue publisher .publisher (statusMessage gateway offline)
    simp only [rank, pending, issue_eventloop, issue_onlineTasks, receiving,
      PublisherPhase.rank] at few ⊢
    omega
  | offlineQueued phase =>
    have few := length_pending_issue publisher .publisher .disconnect
    simp only [rank, pending, issue_eventloop, issue_onlineTasks, phase,
      PublisherPhase.rank] at few ⊢
    omega
  | disconnectQueued phase | eventloopEnded phase =>
    simp only [rank, pending, phase, PublisherPhase.rank]
    omega
  | connAck disconnected =>
    simp only [rank, pending, disconnected, reduceCtorEq, if_true, if_false]
    omega
  | onlineTask onlineTasks spawned =>
    have few := length_pending_issue publisher .onlineTask (statusMessage gateway online)
    simp only [rank, pending, issue_eventloop, issue_phase, spawned] at few ⊢
    omega
  | requestSent caller request requests connected oldest =>
    have line := congrArg List.length (BoundedQueue.line_receive oldest)
    simp only [rank, pending, connected, List.length_cons] at line ⊢
    omega
  | disconnectSent caller requests connected oldest =>
    have line := congrArg List.length (BoundedQueue.line_receive oldest)
    simp only [rank, pending, connected, List.length_cons, reduceCtorEq, if_false] at line ⊢
    omega

/-- With a request on the line the event loop connects or writes it. -/
theorem exists_serving {publisher : Publisher} (running : publisher.eventloop ≠ .returned)
    (queued : publisher.pending ≠ []) :
    ∃ event publisher', Cooperative event ∧
      Step mqtt gateway qos publisher event publisher' := by
  cases eventloop : publisher.eventloop with
  | returned => exact absurd eventloop running
  | disconnected =>
    exact ⟨(.connAck, _), _, trivial, step_iff_moves.mpr (.connAck publisher eventloop)⟩
  | connected =>
    obtain ⟨⟨caller, request⟩, requests, oldest⟩ :=
      BoundedQueue.exists_receive (by decide) queued
    by_cases last : request = .disconnect
    · subst last
      exact ⟨(.requestSent, _), _, trivial,
        step_iff_moves.mpr (.disconnectSent publisher caller requests eventloop oldest)⟩
    · exact ⟨(.requestSent, _), _, trivial,
        step_iff_moves.mpr (.requestSent publisher caller request requests eventloop oldest last)⟩

/-- While the publisher awaits a slot the event loop is there to free one. -/
theorem Ordered.serving {publisher : Publisher} (ordered : publisher.Ordered)
    (awaits : publisher.awaitsSlot = true) :
    publisher.eventloop ≠ .returned ∧ publisher.pending ≠ [] := by
  obtain ⟨request, waits, own⟩ := List.any_eq_true.mp awaits
  have member : request ∈ publisher.pending := List.mem_append_right _ waits
  refine ⟨fun ended => ?_, List.ne_nil_of_mem member⟩
  have other := ordered.ended ended request member
  rw [of_decide_eq_true own] at other
  cases other

/-- Short of its end the publisher can go on without a batch. -/
theorem Sound.moves {publisher : Publisher} (sound : Sound gateway publisher)
    (running : publisher.phase ≠ .returned) :
    ∃ event publisher', Cooperative event ∧
      Step mqtt gateway qos publisher event publisher' := by
  obtain ⟨⟨late, inv⟩, ordered, _⟩ := sound
  cases phase : publisher.phase with
  | returned => exact absurd phase running
  | receiving =>
    exact ⟨(.inputClosed, _), _, trivial, step_iff_moves.mpr (.inputClosed publisher phase)⟩
  | publishingOffline =>
    cases awaits : publisher.awaitsSlot with
    | false =>
      exact ⟨(.offlineQueued, _), _, trivial,
        step_iff_moves.mpr (.offlineQueued publisher phase awaits)⟩
    | true =>
      -- Its own request waits for a slot, which only the event loop can free.
      obtain ⟨loop, queued⟩ := ordered.serving awaits
      exact exists_serving loop queued
  | disconnecting =>
    cases awaits : publisher.awaitsSlot with
    | false =>
      exact ⟨(.disconnectQueued, _), _, trivial,
        step_iff_moves.mpr (.disconnectQueued publisher phase awaits)⟩
    | true =>
      obtain ⟨loop, queued⟩ := ordered.serving awaits
      exact exists_serving loop queued
  | joining =>
    by_cases ended : publisher.eventloop = .returned
    · exact ⟨(.eventloopEnded, _), _, trivial,
        step_iff_moves.mpr (.eventloopEnded publisher phase ended)⟩
    · -- The disconnect was issued and not sent, so it is still on the line.
      have shape := inv.shape
      rw [phase] at shape
      obtain ⟨before, after, _, line⟩ := shape
      have issued : .disconnect ∈ publisher.line := by simp [line]
      rcases disconnect_mem_line.mp issued with sent | ⟨request, member, _⟩
      · exact absurd (ordered.sent sent) ended
      · exact exists_serving ended (List.ne_nil_of_mem member)

/-- Once the publisher has returned, what it did not write is an "online" too late. -/
theorem Sound.unsent_of_returned {publisher : Publisher} (sound : Sound gateway publisher)
    (returned : publisher.phase = .returned) :
    .disconnect ∈ publisher.sent ∧
      ∀ request ∈ publisher.pending, request.2 = statusMessage gateway online := by
  obtain ⟨⟨late, inv⟩, ordered, joined⟩ := sound
  have ended := joined.ended returned
  exact ⟨inv.returned ended, fun request member =>
    joined.tasks request member (ordered.ended ended request member)⟩

/-- Nobody but the event loop writes, and it does so in a session. -/
theorem not_returned_of_unreachable {events : List (PublisherEvent × List StatusEvent)}
    {publisher publisher' : Publisher} (run : Run (Step mqtt gateway qos) publisher events publisher')
    (away : publisher.eventloop = .disconnected) (unreachable : ∀ event ∈ events, event.1 ≠ .connAck)
    (running : publisher.phase ≠ .returned) :
    publisher'.phase ≠ .returned ∧ publisher'.sent = publisher.sent := by
  suffices kept : publisher'.eventloop = .disconnected ∧ publisher'.phase ≠ .returned ∧
      publisher'.sent = publisher.sent from kept.2
  induction run with
  | refl => exact ⟨away, running, rfl⟩
  | @snoc publisher' publisher'' events event _ moved ih =>
    obtain ⟨still, open', sent⟩ := ih fun event member =>
      unreachable event (List.mem_append_left _ member)
    have other := unreachable event (by simp)
    obtain ⟨event, reports⟩ := event
    cases step_iff_moves.mp moved with
    | batch batch receiving =>
      rcases tryIssue_cases publisher' (telemetry mqtt gateway qos batch) with same | ⟨_, same, _⟩
      · rw [same]
        exact ⟨still, open', sent⟩
      · rw [same]
        exact ⟨still, open', sent⟩
    | inputClosed | offlineQueued | onlineTask => simp_all
    | disconnectQueued => exact ⟨still, nofun, sent⟩
    | eventloopEnded phase ended => rw [still] at ended; cases ended
    | connAck => exact absurd rfl other
    | connectionError => exact ⟨rfl, open', sent⟩
    | requestSent _ _ _ connected | disconnectSent _ _ connected =>
      rw [still] at connected
      cases connected

end Publisher

end ModbusGateway
