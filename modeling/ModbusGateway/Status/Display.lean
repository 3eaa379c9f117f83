import Mathlib
import ModbusGateway.Foundation.Pieces
import ModbusGateway.Status.Render

/-!
# Changes of the text

`apply` reports a change exactly when the text differs. A connection that is up
is told from one that is down by the word behind its id; one that stays up by the
digits of its count, or by its list of problems, which gets longer or keeps what
stands around the one that changed.
-/
namespace ModbusGateway

open Foundation

theorem slash_notMem_repr (n : Nat) : '/' ∉ n.repr.toList := by
  rw [Nat.toList_repr]
  intro member
  have digit := Nat.isDigit_of_mem_toDigits (by decide) (by decide) member
  exact absurd digit (by decide)

namespace ConnectionStatus

def okDevices (conn : ConnectionStatus) : Nat :=
  conn.devices.countP fun device => device.health = .ok

end ConnectionStatus

section

variable (formatUtc : OffsetDateTime → TimeFormat → String)

def problemsText (conn : ConnectionStatus) : String :=
  let problems := conn.devices.filterMap (problemText formatUtc)
  let listed := ", ".intercalate problems
  if problems.isEmpty then "" else s!" ({listed})"

def connectionHead (conn : ConnectionStatus) : List Char := s!"connection {conn.id}: ".toList

theorem connectionText_down {conn : ConnectionStatus} (down : conn.up = false) :
    (connectionText formatUtc conn).toList = connectionHead conn ++ "down\n".toList := by
  simp [connectionText, connectionHead, down, toString]

theorem connectionText_up {conn : ConnectionStatus} (up : conn.up = true) :
    (connectionText formatUtc conn).toList = connectionHead conn ++
      ("up, ".toList ++ (conn.okDevices.repr.toList ++
        '/' :: (s!"{conn.devices.length} devices ok".toList ++
          ((problemsText formatUtc conn).toList ++ ['\n'])))) := by
  simp [connectionText, connectionHead, up, problemsText, ConnectionStatus.okDevices, toString]

/-- A connection is told up from down by the letter behind its id. -/
theorem up_eq_of_connectionText {conn conn' : ConnectionStatus} (sameId : conn.id = conn'.id)
    (same : connectionText formatUtc conn = connectionText formatUtc conn') :
    conn.up = conn'.up := by
  have heads : connectionHead conn = connectionHead conn' := by
    rw [connectionHead, connectionHead, sameId]
  replace same := congrArg String.toList same
  cases up : conn.up <;> cases up' : conn'.up
  · rfl
  · rw [connectionText_down formatUtc up, connectionText_up formatUtc up', heads] at same
    simp at same
  · rw [connectionText_up formatUtc up, connectionText_down formatUtc up', heads] at same
    simp at same
  · rfl

/-- While a connection stays up, its text shows the count and the problems. -/
theorem shown_of_connectionText {conn conn' : ConnectionStatus} (up : conn.up = true)
    (up' : conn'.up = true) (sameId : conn.id = conn'.id)
    (sameLength : conn.devices.length = conn'.devices.length)
    (same : connectionText formatUtc conn = connectionText formatUtc conn') :
    conn.okDevices = conn'.okDevices ∧
      problemsText formatUtc conn = problemsText formatUtc conn' := by
  replace same := congrArg String.toList same
  have heads : connectionHead conn = connectionHead conn' := by
    rw [connectionHead, connectionHead, sameId]
  rw [connectionText_up formatUtc up, connectionText_up formatUtc up', heads, sameLength] at same
  have counts := List.append_cancel_left (List.append_cancel_left same)
  -- The count ends at the first slash, and what follows is the same up to the problems.
  obtain ⟨digits, rest⟩ := append_cons_inj (slash_notMem_repr _) (slash_notMem_repr _) counts
  have listed := List.append_cancel_right (List.append_cancel_left rest)
  exact ⟨Nat.repr_inj.mp (String.toList_inj.mp digits), String.toList_inj.mp listed⟩

/-! ### One device -/

theorem problemsText_toList (conn : ConnectionStatus) :
    (problemsText formatUtc conn).toList =
      if conn.devices.filterMap (problemText formatUtc) = [] then []
      else " (".toList ++ (", ".toList.intercalate
        ((conn.devices.filterMap (problemText formatUtc)).map String.toList) ++ [')']) := by
  unfold problemsText
  by_cases none : conn.devices.filterMap (problemText formatUtc) = []
  · simp [none]
  · simp [none, toString]

theorem problemText_ne_empty {device : DeviceStatus} {text : String}
    (shown : problemText formatUtc device = some text) : text.toList ≠ [] := by
  rw [problemText] at shown
  split at shown
  · cases shown
    simp [toString]
  · cases shown
  · cases shown

variable {id : String} {before after : List DeviceStatus} {old new : DeviceStatus}

/-- A problem more makes the list longer. -/
theorem problemsText_ne_of_more {text : String} (hidden : problemText formatUtc old = none)
    (shown : problemText formatUtc new = some text) :
    problemsText formatUtc ⟨id, true, before ++ old :: after⟩ ≠
      problemsText formatUtc ⟨id, true, before ++ new :: after⟩ := by
  intro same
  replace same := congrArg (fun s => s.toList.length) same
  have longer := length_intercalate_lt ", ".toList
    ((before.filterMap (problemText formatUtc)).map String.toList)
    ((after.filterMap (problemText formatUtc)).map String.toList)
    (problemText_ne_empty formatUtc shown)
  simp only [problemsText_toList, List.filterMap_append, List.filterMap_cons, hidden, shown,
    List.map_append, List.map_cons] at same
  rw [if_neg (by simp : before.filterMap _ ++ text :: after.filterMap _ ≠ [])] at same
  split at same
  · simp at same
  · simp only [List.length_append] at same
    omega

/-- A problem that stays is listed where it was. -/
theorem problemText_eq_of_same {text text' : String} (shown : problemText formatUtc old = some text)
    (shown' : problemText formatUtc new = some text')
    (same : problemsText formatUtc ⟨id, true, before ++ old :: after⟩ =
      problemsText formatUtc ⟨id, true, before ++ new :: after⟩) : text = text' := by
  replace same := congrArg String.toList same
  obtain ⟨head, tail, context⟩ := exists_context ", ".toList
    ((before.filterMap (problemText formatUtc)).map String.toList)
    ((after.filterMap (problemText formatUtc)).map String.toList)
  simp only [problemsText_toList, List.filterMap_append, List.filterMap_cons, shown, shown',
    List.map_append, List.map_cons, context] at same
  rw [if_neg (by simp), if_neg (by simp)] at same
  have parts := List.append_cancel_right (List.append_cancel_left same)
  exact String.toList_inj.mp (List.append_cancel_left (List.append_cancel_right parts))

theorem okDevices_iff (same :
    ConnectionStatus.okDevices ⟨id, true, before ++ old :: after⟩ =
      ConnectionStatus.okDevices ⟨id, true, before ++ new :: after⟩) :
    old.health = .ok ↔ new.health = .ok := by
  simp only [ConnectionStatus.okDevices, List.countP_append, List.countP_cons,
    decide_eq_true_eq] at same
  by_cases ok : old.health = .ok <;> by_cases ok' : new.health = .ok <;> simp [ok, ok'] at same ⊢

/-- The text shows each result that differs from the one before it. -/
theorem connectionText_ne_of_health (different : old.health ≠ new.health)
    (result : new.health = .ok ∨ ∃ reason time, new.health = old.health.fail reason time)
    (sameId : new.id = old.id) :
    connectionText formatUtc ⟨id, true, before ++ old :: after⟩ ≠
      connectionText formatUtc ⟨id, true, before ++ new :: after⟩ := by
  intro same
  obtain ⟨counts, listed⟩ := shown_of_connectionText formatUtc (by rfl) (by rfl) (by rfl)
    (by simp) same
  have ok := okDevices_iff counts
  rcases result with now | ⟨reason, time, failed⟩
  · exact different ((ok.mpr now).trans now.symm)
  · cases earlier : old.health with
    | ok =>
      rw [ok.mp earlier, earlier] at failed
      cases failed
    | unknown =>
      rw [earlier, Health.fail] at failed
      exact problemsText_ne_of_more formatUtc (by simp only [problemText, earlier])
        (by simp only [problemText, failed]; rfl) listed
    | problem reason' since =>
      -- The time stays that of the first failure, so the reasons differ.
      rw [earlier, Health.fail] at failed
      have texts := problemText_eq_of_same formatUtc (by simp only [problemText, earlier]; rfl)
        (by simp only [problemText, failed]; rfl) listed
      rw [sameId] at texts
      have reasons : reason' = reason := by simpa [toString] using texts
      rw [earlier, failed, reasons] at different
      exact different rfl

end

/-! ### One connection -/

section

variable (formatUtc : OffsetDateTime → TimeFormat → String) {conn : ConnectionStatus}

theorem connectionText_comeUp (changed : conn.comeUp.2 = true) :
    connectionText formatUtc conn.comeUp.1 ≠ connectionText formatUtc conn := by
  intro same
  have up := up_eq_of_connectionText formatUtc conn.comeUp_id same
  rw [conn.comeUp_up] at up
  rw [ConnectionStatus.comeUp, if_pos up.symm] at changed
  cases changed

theorem connectionText_goDown (changed : conn.goDown.2 = true) :
    connectionText formatUtc conn.goDown.1 ≠ connectionText formatUtc conn := by
  intro same
  have up := up_eq_of_connectionText formatUtc conn.goDown_id same
  rw [conn.goDown_up] at up
  simp [ConnectionStatus.goDown, replace, ← up] at changed

theorem connectionText_setHealth {deviceId : String} {health : Health → Health}
    (result : ∀ old, health old = .ok ∨ ∃ reason time, health old = old.fail reason time)
    (changed : (conn.setHealth deviceId health).2 = true) :
    connectionText formatUtc (conn.setHealth deviceId health).1 ≠
      connectionText formatUtc conn := by
  intro same
  have up := up_eq_of_connectionText formatUtc (conn.setHealth_id deviceId health) same
  unfold ConnectionStatus.setHealth at changed same up
  cases found : conn.device deviceId with
  | none => simp [found] at changed
  | some device =>
    simp only [found, replace, Bool.or_eq_true, bne_iff_ne, decide_eq_true_eq] at changed same up
    have different := changed.resolve_left fun other => other up.symm
    obtain ⟨before, after, devices, exchange⟩ := Keyed.split_of_find found
    rw [exchange] at same
    have shown : connectionText formatUtc ⟨conn.id, true, before ++ device :: after⟩ ≠
        connectionText formatUtc
          ⟨conn.id, true, before ++ ⟨device.id, health device.health⟩ :: after⟩ :=
      connectionText_ne_of_health formatUtc different (result device.health) rfl
    have whole : conn = ⟨conn.id, true, before ++ device :: after⟩ := by
      rw [up, ← devices]
    apply shown
    rw [← whole, same]

/-! ### The whole text -/

def statusHead (gatewayId : String) (now : OffsetDateTime) : List Char :=
  s!"gateway: {gatewayId}\nupdated: {formatUtc now .timestamp}\nmqtt: ".toList

theorem statusText_toList (state : StatusState) (now : OffsetDateTime) :
    (statusText formatUtc state now).toList = statusHead formatUtc state.gatewayId now ++
      ((if state.mqttConnected then "connected" else "disconnected").toList ++
        (s!" ({state.broker})\n".toList ++
          state.connections.flatMap fun conn => (connectionText formatUtc conn).toList)) := by
  simp [statusText, statusHead, toString, List.flatMap_map]

variable (state : StatusState)

theorem statusText_mqttConnected (value : Bool) (changed : state.mqttConnected ≠ value)
    (now : OffsetDateTime) :
    statusText formatUtc { state with mqttConnected := value } now ≠
      statusText formatUtc state now := by
  intro same
  replace same := congrArg String.toList same
  simp only [statusText_toList] at same
  have words := List.append_cancel_left same
  cases value <;> cases was : state.mqttConnected
  · exact changed was
  · simp [was] at words
  · simp [was] at words
  · exact changed was

/-- What is around the text of a connection does not change with it. -/
theorem statusText_updateConnection {connectionId : String}
    {update : ConnectionStatus → ConnectionStatus × Bool}
    (shows : ∀ conn : ConnectionStatus, (update conn).2 = true →
      connectionText formatUtc (update conn).1 ≠ connectionText formatUtc conn)
    (changed : (state.updateConnection connectionId update).2 = true) (now : OffsetDateTime) :
    statusText formatUtc (state.updateConnection connectionId update).1 now ≠
      statusText formatUtc state now := by
  intro same
  unfold StatusState.updateConnection at changed same
  cases found : state.connection connectionId with
  | none => simp [found] at changed
  | some conn =>
    obtain ⟨before, after, connections, exchange⟩ := Keyed.split_of_find found
    simp only [found, exchange] at changed same
    replace same := congrArg String.toList same
    simp only [statusText_toList, connections, List.flatMap_append, List.flatMap_cons] at same
    have texts := List.append_cancel_left (List.append_cancel_left
      (List.append_cancel_left (List.append_cancel_left same)))
    exact shows conn changed (String.toList_inj.mp (List.append_cancel_right texts))

theorem statusText_of_changed (event : StatusEvent) (time : OffsetDateTime)
    (changed : (state.apply event time).2 = true) (now : OffsetDateTime) :
    statusText formatUtc (state.apply event time).1 now ≠ statusText formatUtc state now := by
  cases event with
  | mqttConnected =>
    exact statusText_mqttConnected formatUtc state true (bne_iff_ne.mp changed) now
  | mqttDisconnected =>
    exact statusText_mqttConnected formatUtc state false (bne_iff_ne.mp changed) now
  | connectionUp connectionId =>
    exact statusText_updateConnection formatUtc state
      (fun conn => connectionText_comeUp formatUtc) changed now
  | connectionDown connectionId =>
    exact statusText_updateConnection formatUtc state
      (fun conn => connectionText_goDown formatUtc) changed now
  | deviceOk connectionId deviceId =>
    exact statusText_updateConnection formatUtc state
      (fun conn => connectionText_setHealth formatUtc fun _ => .inl rfl) changed now
  | deviceProblem connectionId deviceId reason =>
    exact statusText_updateConnection formatUtc state
      (fun conn => connectionText_setHealth formatUtc fun _ => .inr ⟨reason, time, rfl⟩) changed now

theorem changed_iff_statusText (event : StatusEvent) (time now : OffsetDateTime) :
    (state.apply event time).2 = true ↔
      statusText formatUtc (state.apply event time).1 now ≠ statusText formatUtc state now := by
  constructor
  · intro changed
    exact statusText_of_changed formatUtc state event time changed now
  · intro different
    by_contra unchanged
    rw [state.apply_unchanged event time (Bool.not_eq_true _ ▸ unchanged)] at different
    exact different rfl

/-- An event is reported as a change exactly when the text differs after it, and otherwise
leaves the state as it was. -/
theorem apply_reports_change (event : StatusEvent) (time now : OffsetDateTime) :
    ((state.apply event time).2 = false ↔ (state.apply event time).1 = state) ∧
      ((state.apply event time).2 = true ↔
        statusText formatUtc (state.apply event time).1 now ≠ statusText formatUtc state now) := by
  have shown := changed_iff_statusText formatUtc state event time now
  refine ⟨⟨state.apply_unchanged event time, ?_⟩, shown⟩
  intro same
  by_contra changed
  exact shown.mp (Bool.not_eq_false _ ▸ changed) (by rw [same])

end

end ModbusGateway
