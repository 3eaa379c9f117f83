import Mathlib.Data.List.Induction
import Mathlib.Tactic.TypeStar

/-!
# Runs of labelled transition systems

Finite runs, with the events on them in order, and the two rules by which a
property of single steps becomes a property of whole runs: one for the state
alone and one that relates the state to the history that led to it.
-/
namespace Foundation

variable {σ ε : Type*} {step : σ → ε → σ → Prop}

/-- `Run step s es t`: the events `es`, in order, lead from `s` to `t`. -/
inductive Run (step : σ → ε → σ → Prop) : σ → List ε → σ → Prop where
  | refl (s : σ) : Run step s [] s
  | snoc {s t u : σ} {es : List ε} {e : ε} :
      Run step s es t → step t e u → Run step s (es ++ [e]) u

namespace Run

theorem single {s t : σ} {e : ε} (moved : step s e t) : Run step s [e] t :=
  .snoc (.refl s) moved

theorem append {s t u : σ} {es fs : List ε} (first : Run step s es t)
    (second : Run step t fs u) : Run step s (es ++ fs) u := by
  induction second with
  | refl => simpa using first
  | snoc _ moved ih => rw [← List.append_assoc]; exact .snoc ih moved

theorem cons {s t u : σ} {e : ε} {es : List ε} (moved : step s e t)
    (rest : Run step t es u) : Run step s (e :: es) u :=
  (single moved).append rest

theorem nil_iff {s t : σ} : Run step s [] t ↔ s = t := by
  constructor
  · intro run
    generalize shape : ([] : List ε) = es at run
    cases run with
    | refl => rfl
    | snoc => simp at shape
  · rintro rfl
    exact .refl s

theorem snoc_iff {s u : σ} {es : List ε} {e : ε} :
    Run step s (es ++ [e]) u ↔ ∃ t, Run step s es t ∧ step t e u := by
  constructor
  · intro run
    generalize shape : es ++ [e] = all at run
    cases run with
    | refl => simp at shape
    | snoc before moved =>
      obtain ⟨rfl, same⟩ := List.append_inj' shape rfl
      cases same
      exact ⟨_, before, moved⟩
  · rintro ⟨t, before, moved⟩
    exact .snoc before moved

/-- A run can be cut anywhere. -/
theorem append_iff {s u : σ} {es fs : List ε} :
    Run step s (es ++ fs) u ↔ ∃ t, Run step s es t ∧ Run step t fs u := by
  constructor
  · intro run
    -- Runs grow at the end, so the second part is taken apart from there.
    induction fs using List.reverseRecOn generalizing u with
    | nil => exact ⟨u, by simpa using run, .refl u⟩
    | append_singleton fs f ih =>
      rw [← List.append_assoc, snoc_iff] at run
      obtain ⟨v, before, moved⟩ := run
      obtain ⟨t, first, second⟩ := ih before
      exact ⟨t, first, .snoc second moved⟩
  · rintro ⟨t, first, second⟩
    exact first.append second

theorem cons_iff {s u : σ} {e : ε} {es : List ε} :
    Run step s (e :: es) u ↔ ∃ t, step s e t ∧ Run step t es u := by
  have split : Run step s ([e] ++ es) u ↔ ∃ t, Run step s [e] t ∧ Run step t es u := append_iff
  rw [← List.singleton_append, split]
  constructor
  · rintro ⟨t, first, rest⟩
    rw [← List.nil_append [e], snoc_iff] at first
    obtain ⟨v, start, moved⟩ := first
    exact ⟨t, nil_iff.mp start ▸ moved, rest⟩
  · rintro ⟨t, moved, rest⟩
    exact ⟨t, single moved, rest⟩

/-- The step taken at an event of a run. -/
theorem step_at {s u : σ} {before after : List ε} {e : ε}
    (run : Run step s (before ++ e :: after) u) :
    ∃ t t', Run step s before t ∧ step t e t' ∧ Run step t' after u := by
  obtain ⟨t, first, rest⟩ := append_iff.mp run
  obtain ⟨t', moved, second⟩ := cons_iff.mp rest
  exact ⟨t, t', first, moved, second⟩

/-- Steps that satisfy more make runs that do. -/
theorem mono {step' : σ → ε → σ → Prop} (weaker : ∀ s e t, step s e t → step' s e t) {s t : σ}
    {es : List ε} (run : Run step s es t) : Run step' s es t := by
  induction run with
  | refl => exact .refl s
  | snoc _ moved ih => exact .snoc ih (weaker _ _ _ moved)

/-- Steps that leave no choice make runs that leave none. -/
theorem deterministic (functional : ∀ s e t t', step s e t → step s e t' → t = t') {s t t' : σ}
    {es : List ε} (first : Run step s es t) (second : Run step s es t') : t = t' := by
  induction first generalizing t' with
  | refl => exact nil_iff.mp second
  | snoc _ moved ih =>
    obtain ⟨u, before, moved'⟩ := snoc_iff.mp second
    cases ih before
    exact functional _ _ _ _ moved moved'

/-- History rule: a relation between the events so far and the state that holds
before any event and survives every step holds after every run. -/
theorem history (P : List ε → σ → Prop) {s t : σ} {es : List ε} (initial : P [] s)
    (preserved : ∀ es t e u, P es t → step t e u → P (es ++ [e]) u)
    (run : Run step s es t) : P es t := by
  induction run with
  | refl => exact initial
  | snoc _ moved ih => exact preserved _ _ _ _ ih moved

/-- Invariant rule. -/
theorem invariant (P : σ → Prop) {s t : σ} {es : List ε} (initial : P s)
    (preserved : ∀ t e u, P t → step t e u → P u) (run : Run step s es t) : P t :=
  history (fun _ => P) initial (fun _ t e u held moved => preserved t e u held moved) run

end Run

end Foundation
