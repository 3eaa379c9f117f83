import ModbusGateway.Status.History

/-!
# One connection on display

The part of the status that one connection's own events decide: whether it is
up, and the verdict on each of its devices. Events of others and the times of
events drop out, so that what is shown of a connection is a fold over the
sequence of its own events.
-/
namespace ModbusGateway

/-- A result without the time it holds since. -/
inductive Verdict where
  | unknown
  | ok
  | problem (reason : String)
  deriving DecidableEq

def Health.verdict : Health → Verdict
  | .unknown => .unknown
  | .ok => .ok
  | .problem reason _ => .problem reason

@[simp] theorem Health.verdict_ok : Health.ok.verdict = .ok := rfl

@[simp] theorem Health.verdict_fail (health : Health) (reason : String) (now : OffsetDateTime) :
    (health.fail reason now).verdict = .problem reason := by
  cases health <;> rfl

@[ext] structure ConnectionView where
  up : Bool
  -- None for the devices that are not listed.
  verdict : String → Option Verdict

namespace ConnectionView

/-- A result of a listed device; it means that the connection is up. -/
def report (view : ConnectionView) (deviceId : String) (verdict : Verdict) : ConnectionView :=
  if (view.verdict deviceId).isSome then
    ⟨true, fun d => if deviceId = d then some verdict else view.verdict d⟩
  else view

def comeUp (view : ConnectionView) : ConnectionView :=
  if view.up then view else ⟨true, fun d => (view.verdict d).map fun _ => .unknown⟩

/-- What an event does to the view of the connection `c`. -/
def apply (c : String) (view : ConnectionView) : StatusEvent → ConnectionView
  | .connectionUp c' => if c' = c then view.comeUp else view
  | .connectionDown c' => if c' = c then { view with up := false } else view
  | .deviceOk c' d => if c' = c then view.report d .ok else view
  | .deviceProblem c' d reason => if c' = c then view.report d (.problem reason) else view
  | .mqttConnected | .mqttDisconnected => view

end ConnectionView

theorem ConnectionView.report_up {view : ConnectionView} {d : String}
    (listed : (view.verdict d).isSome) (verdict : Verdict) : (view.report d verdict).up = true := by
  rw [report, if_pos listed]

theorem ConnectionView.report_verdict {view : ConnectionView} {d : String}
    (listed : (view.verdict d).isSome) (verdict : Verdict) (d' : String) :
    (view.report d verdict).verdict d' = if d = d' then some verdict else view.verdict d' := by
  rw [report, if_pos listed]

@[simp] theorem ConnectionView.isSome_verdict_apply (c : String) (view : ConnectionView)
    (event : StatusEvent) (d : String) :
    ((view.apply c event).verdict d).isSome = (view.verdict d).isSome := by
  have reported : ∀ d' verdict, ((view.report d' verdict).verdict d).isSome =
      (view.verdict d).isSome := by
    intro d' verdict
    unfold report
    split
    next listed =>
      by_cases same : d' = d
      · subst same
        simp [listed]
      · simp [same]
    next => rfl
  cases event with
  | mqttConnected | mqttDisconnected => rfl
  | connectionUp c' =>
    by_cases own : c' = c <;> by_cases up : view.up <;> simp [apply, comeUp, own, up]
  | connectionDown c' =>
    rw [apply]
    split <;> rfl
  | deviceOk c' d' | deviceProblem c' d' reason =>
    rw [apply]
    split
    · exact reported d' _
    · rfl

theorem ConnectionView.isSome_verdict_foldl (c : String) (view : ConnectionView)
    (events : List StatusEvent) (d : String) :
    ((events.foldl (ConnectionView.apply c) view).verdict d).isSome = (view.verdict d).isSome := by
  induction events generalizing view with
  | nil => rfl
  | cons event events ih => rw [List.foldl_cons, ih, isSome_verdict_apply]

/-- The connection an event is about. -/
def StatusEvent.connection? : StatusEvent → Option String
  | .connectionUp c | .connectionDown c | .deviceOk c _ | .deviceProblem c _ _ => some c
  | .mqttConnected | .mqttDisconnected => none

def StatusEvent.isOf (c : String) (event : StatusEvent) : Bool := event.connection? = some c

theorem ConnectionView.apply_of_other {c : String} {event : StatusEvent}
    (other : event.isOf c = false) (view : ConnectionView) : view.apply c event = view := by
  cases event <;> simp_all [StatusEvent.isOf, StatusEvent.connection?, apply]

/-- What a state shows of a connection. -/
def StatusState.view (state : StatusState) (c : String) : Option ConnectionView :=
  (state.up? c).map fun up => ⟨up, fun d => (state.health? c d).map Health.verdict⟩

theorem StatusState.view_step (state : StatusState) (timed : TimedEvent) (c : String) :
    (state.step timed).view c = (state.view c).map fun view => view.apply c timed.event := by
  rw [view, view, step, up?_apply, Option.map_map, Option.map_map]
  cases shown : state.up? c with
  | none => rfl
  | some up =>
    rw [Option.map_some, Option.map_some]
    congr 1
    simp only [Function.comp_apply, health?_apply, shown]
    cases timed.event with
    | mqttConnected | mqttDisconnected => simp [ConnectionView.apply]
    | connectionDown c' => by_cases own : c' = c <;> simp [ConnectionView.apply, own]
    | connectionUp c' =>
      by_cases own : c' = c <;> cases up <;>
        simp [ConnectionView.apply, ConnectionView.comeUp, own, Function.comp_def, Health.verdict]
    | deviceOk c' d | deviceProblem c' d reason =>
      by_cases own : c' = c
      · subst own
        rw [ConnectionView.apply, if_pos rfl, ConnectionView.report]
        simp only [Option.isSome_map, true_and, decide_true, Bool.true_and]
        cases listed : state.health? c' d with
        | none =>
          simp only [Option.isSome_none, Bool.or_false, Bool.false_eq_true, if_false,
            ConnectionView.mk.injEq, true_and]
          funext d'
          by_cases same : d = d'
          · subst same
            simp [listed]
          · simp [same]
        | some old =>
          simp only [Option.isSome_some, Bool.or_true, if_true, ConnectionView.mk.injEq, true_and]
          funext d'
          by_cases same : d = d'
          · subst same
            simp [listed]
          · simp [same]
      · simp [ConnectionView.apply, own]

variable {state : StatusState} {c : String} {view : ConnectionView}

theorem StatusState.up?_of_view (shown : state.view c = some view) :
    state.up? c = some view.up := by
  obtain ⟨up, found, rfl⟩ := Option.map_eq_some_iff.mp shown
  exact found

theorem StatusState.verdict_of_view (shown : state.view c = some view) (d : String) :
    (state.health? c d).map Health.verdict = view.verdict d := by
  obtain ⟨up, found, rfl⟩ := Option.map_eq_some_iff.mp shown
  rfl

/-- A listed connection is on display, and so are its devices. -/
theorem StatusState.Distinct.exists_view (distinct : state.Distinct) {deviceIds : List String}
    (listed : (c, deviceIds) ∈ state.ids) :
    ∃ view, state.view c = some view ∧ ∀ d ∈ deviceIds, (view.verdict d).isSome := by
  obtain ⟨conn, member, same⟩ := List.mem_map.mp listed
  cases same
  refine ⟨⟨conn.up, fun d => (state.health? conn.id d).map Health.verdict⟩, ?_, fun d inside => ?_⟩
  · rw [view, distinct.up?_of_mem member, Option.map_some]
  · obtain ⟨device, within, rfl⟩ := List.mem_map.mp inside
    have shown := distinct.health?_of_mem member within
    simp [shown]

/-- A connection is shown as its own events leave it, in their order. -/
theorem StatusState.view_after (state : StatusState) (events : List TimedEvent) (c : String) :
    (state.after events).view c = (state.view c).map fun view =>
      ((events.map TimedEvent.event).filter (StatusEvent.isOf c)).foldl (ConnectionView.apply c)
        view := by
  induction events using List.reverseRecOn with
  | nil => simp
  | append_singleton events timed ih =>
    rw [after_snoc, view_step, ih, Option.map_map]
    congr 1
    funext view
    cases own : timed.event.isOf c with
    | true => simp [own]
    | false => simp [own, ConnectionView.apply_of_other own]

end ModbusGateway
