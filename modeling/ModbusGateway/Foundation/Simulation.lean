import ModbusGateway.Foundation.Runs

/-!
# Simulation and progress

Two ways to get from steps to runs that involve more than one system or more
than one state. A simulation relates two systems where a step of the first is
one step of the second or none; it carries whole runs over. Progress is the
other direction in time: some events lower a rank, and short of a goal one of
them is possible, so they lead there, however they are chosen.
-/
namespace Foundation

variable {σ τ ε δ : Type*}

theorem filterMap_snoc (view : ε → Option δ) (es : List ε) (e : ε) :
    (es ++ [e]).filterMap view = es.filterMap view ++ (view e).toList := by
  rw [List.filterMap_append]
  cases shown : view e <;> simp [shown]

/-- Each step of the first system is answered by the second with the event that `view`
gives, or with nothing, and `R` holds again. -/
def Simulation (step : σ → ε → σ → Prop) (step' : τ → δ → τ → Prop) (view : ε → Option δ)
    (R : σ → τ → Prop) : Prop :=
  ∀ s e s' t, R s t → step s e s' → ∃ t', Run step' t (view e).toList t' ∧ R s' t'

theorem Simulation.run {step : σ → ε → σ → Prop} {step' : τ → δ → τ → Prop}
    {view : ε → Option δ} {R : σ → τ → Prop} (simulates : Simulation step step' view R)
    {s s' : σ} {t : τ} {es : List ε} (related : R s t) (run : Run step s es s') :
    ∃ t', Run step' t (es.filterMap view) t' ∧ R s' t' := by
  induction run with
  | refl => exact ⟨t, .refl t, related⟩
  | @snoc _ _ es e _ moved ih =>
    obtain ⟨t', answered, related'⟩ := ih
    obtain ⟨t'', answer, related''⟩ := simulates _ _ _ _ related' moved
    refine ⟨t'', ?_, related''⟩
    rw [filterMap_snoc]
    exact answered.append answer

/-- In the states of `Inv`, `Internal` events keep `Inv` and lower the rank, and short of
`Goal` one of them is possible. -/
structure Progress (step : σ → ε → σ → Prop) (Internal : ε → Prop) (Inv Goal : σ → Prop)
    (rank : σ → ℕ) : Prop where
  kept : ∀ s e s', Inv s → Internal e → step s e s' → Inv s'
  lowers : ∀ s e s', Inv s → Internal e → step s e s' → rank s' < rank s
  moves : ∀ s, Inv s → ¬Goal s → ∃ e s', Internal e ∧ step s e s'

namespace Progress

variable {step : σ → ε → σ → Prop} {Internal : ε → Prop} {Inv Goal : σ → Prop} {rank : σ → ℕ}

/-- Internal events cannot go on for longer than the rank. -/
theorem length_le (progress : Progress step Internal Inv Goal rank) {s t : σ} {es : List ε}
    (inv : Inv s) (run : Run step s es t) (internal : ∀ e ∈ es, Internal e) :
    Inv t ∧ es.length + rank t ≤ rank s := by
  induction run with
  | refl => exact ⟨inv, by simp⟩
  | @snoc t u es e _ moved ih =>
    obtain ⟨inv', bound⟩ := ih fun e member => internal e (List.mem_append_left _ member)
    have last := internal e (by simp)
    have lower := progress.lowers t e u inv' last moved
    exact ⟨progress.kept t e u inv' last moved, by rw [List.length_append]; simp; omega⟩

/-- However far they have gone, internal events can go on to the goal. -/
theorem reaches (progress : Progress step Internal Inv Goal rank) {s : σ} (inv : Inv s) :
    ∃ es t, Run step s es t ∧ (∀ e ∈ es, Internal e) ∧ Inv t ∧ Goal t := by
  induction bound : rank s using Nat.strongRecOn generalizing s with
  | ind n ih =>
    by_cases there : Goal s
    · exact ⟨[], s, .refl s, by simp, inv, there⟩
    · obtain ⟨e, s', internal, moved⟩ := progress.moves s inv there
      have lower := progress.lowers s e s' inv internal moved
      obtain ⟨es, t, run, others, inv', goal⟩ :=
        ih (rank s') (bound ▸ lower) (progress.kept s e s' inv internal moved) rfl
      refine ⟨e :: es, t, Run.cons moved run, ?_, inv', goal⟩
      intro f member
      rcases List.mem_cons.mp member with rfl | member
      · exact internal
      · exact others f member

end Progress

end Foundation
