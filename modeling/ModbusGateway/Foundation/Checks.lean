import Mathlib.Data.List.Basic
import Mathlib.Tactic.TypeStar

/-!
# Sequences of fallible steps

When a computation in `Except` made of checks succeeds, and when a fallible
function succeeds on a whole list.
-/
namespace Foundation

universe u

variable {ε : Type*} {α β : Type u}

theorem bind_ok_iff (x : Except ε α) (f : α → Except ε β) (r : β) :
    (x >>= f) = .ok r ↔ ∃ a, x = .ok a ∧ f a = .ok r := by
  cases x <;> simp [bind, Except.bind]

theorem ite_error_ok_iff (p : Prop) [Decidable p] (e : ε) (x : Except ε α) (r : α) :
    (if p then .error e else x) = .ok r ↔ ¬p ∧ x = .ok r := by
  by_cases h : p <;> simp [h]

theorem bind_error_iff (x : Except ε α) (f : α → Except ε β) (e : ε) :
    (x >>= f) = .error e ↔ x = .error e ∨ ∃ a, x = .ok a ∧ f a = .error e := by
  cases x <;> simp [bind, Except.bind]

theorem ite_error_error_iff (p : Prop) [Decidable p] (e e' : ε) (x : Except ε α) :
    (if p then .error e else x) = .error e' ↔ (p ∧ e = e') ∨ (¬p ∧ x = .error e') := by
  by_cases h : p <;> simp [h]

/-- A loop of checks that fails does so with the error of one of them. -/
theorem exists_of_forM_error {check : α → Except ε Unit} {xs : List α} {e : ε}
    (failed : xs.forM check = .error e) : ∃ x ∈ xs, check x = .error e := by
  induction xs with
  | nil => cases failed
  | cons x xs ih =>
    have unfolded : (x :: xs).forM check = (check x >>= fun _ => xs.forM check) := rfl
    rw [unfolded, bind_error_iff] at failed
    rcases failed with first | ⟨_, _, rest⟩
    · exact ⟨x, List.mem_cons_self, first⟩
    · obtain ⟨x', member, later⟩ := ih rest
      exact ⟨x', List.mem_cons_of_mem x member, later⟩

/-- A loop with a state that fails does so at one element, having passed those before it. -/
theorem exists_of_foldlM_error {σ : Type u} {step : σ → α → Except ε σ} {xs : List α} {s : σ}
    {e : ε} (failed : xs.foldlM step s = .error e) :
    ∃ before x after s', xs = before ++ x :: after ∧ before.foldlM step s = .ok s' ∧
      step s' x = .error e := by
  induction xs generalizing s with
  | nil => cases failed
  | cons x xs ih =>
    rw [List.foldlM_cons, bind_error_iff] at failed
    rcases failed with first | ⟨s', passed, rest⟩
    · exact ⟨[], x, xs, s, rfl, rfl, first⟩
    · obtain ⟨before, x', after, s'', rfl, earlier, later⟩ := ih rest
      refine ⟨x :: before, x', after, s'', rfl, ?_, later⟩
      rw [List.foldlM_cons, bind_ok_iff]
      exact ⟨s', passed, earlier⟩

/-- A loop of checks passes when every one of them does. -/
theorem forM_ok_iff (check : α → Except ε Unit) (xs : List α) :
    xs.forM check = .ok () ↔ ∀ x ∈ xs, check x = .ok () := by
  induction xs with
  | nil => simp [List.forM, pure, Except.pure]
  | cons x xs ih =>
    have unfolded : (x :: xs).forM check = (check x >>= fun _ => xs.forM check) := rfl
    rw [unfolded, bind_ok_iff]
    simp only [ih, List.mem_cons, forall_eq_or_imp]
    constructor
    · rintro ⟨_, first, rest⟩
      exact ⟨first, rest⟩
    · rintro ⟨first, rest⟩
      exact ⟨(), first, rest⟩

theorem mapM_eq_some_iff (f : α → Option β) (xs : List α) (ys : List β) :
    xs.mapM f = some ys ↔ xs.map f = ys.map some := by
  induction xs generalizing ys with
  | nil => cases ys <;> simp
  | cons x xs ih =>
    cases ys with
    | nil => simp [List.mapM_cons, Option.bind_eq_some_iff]
    | cons y ys =>
      simp only [List.mapM_cons, Option.bind_eq_bind, Option.bind_eq_some_iff, pure,
        Option.some.injEq, List.cons.injEq, List.map_cons, ← ih]
      constructor
      · rintro ⟨_, first, _, rest, rfl, rfl⟩
        exact ⟨first, rest⟩
      · rintro ⟨first, rest⟩
        exact ⟨y, first, ys, rest, rfl, rfl⟩

/-- A function that succeeds on every element succeeds on the list. -/
theorem exists_mapM_eq_some_iff (f : α → Option β) (xs : List α) :
    (∃ ys, xs.mapM f = some ys) ↔ ∀ x ∈ xs, (f x).isSome := by
  constructor
  · rintro ⟨ys, mapped⟩ x member
    have found : f x ∈ ys.map some := (mapM_eq_some_iff f xs ys).mp mapped ▸ List.mem_map_of_mem member
    obtain ⟨y, _, same⟩ := List.mem_map.mp found
    rw [← same]
    rfl
  · intro each
    induction xs with
    | nil => exact ⟨[], rfl⟩
    | cons x xs ih =>
      obtain ⟨y, first⟩ := Option.isSome_iff_exists.mp (each x (by simp))
      obtain ⟨ys, rest⟩ := ih fun x' member => each x' (List.mem_cons_of_mem x member)
      exact ⟨y :: ys, by simp [List.mapM_cons, first, rest]⟩

end Foundation
