import Mathlib.Tactic.TypeStar

/-!
# Bounded queues with waiting senders

A first-in first-out queue of fixed capacity. A sender that finds it full
waits, and waiting senders move in, in the order they came, as slots free. In
the order of sending, what is queued and what waits is one line; the capacity
decides where on it the queue ends, never who is ahead.
-/
namespace Foundation

structure BoundedQueue (capacity : Nat) (α : Type*) where
  items : List α
  waiting : List α
  bounded : items.length ≤ capacity
  full_of_waiting : waiting ≠ [] → items.length = capacity

namespace BoundedQueue

variable {capacity : Nat} {α : Type*}

def empty : BoundedQueue capacity α := ⟨[], [], Nat.zero_le _, nofun⟩

/-- Everything sent and not received, oldest first. -/
def line (q : BoundedQueue capacity α) : List α := q.items ++ q.waiting

@[simp] theorem line_empty : (empty : BoundedQueue capacity α).line = [] := rfl

theorem waiting_eq_nil (q : BoundedQueue capacity α) (room : q.items.length < capacity) :
    q.waiting = [] := by
  cases waits : q.waiting with
  | nil => rfl
  | cons => exact absurd (q.full_of_waiting (by simp [waits])) (Nat.ne_of_lt room)

/-- Sending with `await`: into the queue, or behind those who wait. -/
def send (q : BoundedQueue capacity α) (a : α) : BoundedQueue capacity α :=
  if room : q.items.length < capacity then
    ⟨q.items ++ [a], [], by simpa using Nat.succ_le_of_lt room, nofun⟩
  else
    ⟨q.items, q.waiting ++ [a], q.bounded, fun _ => Nat.le_antisymm q.bounded (Nat.not_lt.mp room)⟩

/-- Sending without waiting; no result when the queue is full. -/
def trySend (q : BoundedQueue capacity α) (a : α) : Option (BoundedQueue capacity α) :=
  if q.items.length < capacity then some (q.send a) else none

/-- Taking the oldest; the longest waiting sender gets the slot. -/
def receive (q : BoundedQueue capacity α) : Option (α × BoundedQueue capacity α) :=
  match stored : q.items with
  | [] => none
  | a :: items =>
    match waits : q.waiting with
    | [] => some (a, ⟨items, [], by have := q.bounded; simp [stored] at this; omega, nofun⟩)
    | w :: waiting => some (a, ⟨items ++ [w], waiting,
        by have := q.bounded; simpa [stored] using this,
        fun _ => by have := q.full_of_waiting (by simp [waits]); simpa [stored] using this⟩)

theorem line_send (q : BoundedQueue capacity α) (a : α) : (q.send a).line = q.line ++ [a] := by
  unfold send
  split
  -- With room nobody waits, so the end of the queue is the end of the line.
  next room => simp [line, q.waiting_eq_nil room]
  next => simp [line]

theorem line_trySend {q q' : BoundedQueue capacity α} {a : α} (sent : q.trySend a = some q') :
    q'.line = q.line ++ [a] := by
  unfold trySend at sent
  split at sent
  · rw [← Option.some.inj sent, line_send]
  · cases sent

theorem line_receive {q q' : BoundedQueue capacity α} {a : α}
    (received : q.receive = some (a, q')) : q.line = a :: q'.line := by
  unfold receive at received
  split at received
  · cases received
  next stored =>
    split at received
    next waits =>
      cases received
      simp [line, stored, waits]
    next waits =>
      cases received
      simp [line, stored, waits]

/-- Where someone waits the queue is full, so something can be received. -/
theorem exists_receive {q : BoundedQueue capacity α} (slots : 0 < capacity) (sent : q.line ≠ []) :
    ∃ a q', q.receive = some (a, q') := by
  have stored : q.items ≠ [] := by
    intro empty
    have waits : q.waiting ≠ [] := by simpa [line, empty] using sent
    have full := q.full_of_waiting waits
    rw [empty, List.length_nil] at full
    omega
  unfold receive
  split
  next empty => exact absurd empty stored
  next => split <;> exact ⟨_, _, rfl⟩

end BoundedQueue

end Foundation
