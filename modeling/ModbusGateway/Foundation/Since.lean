import Mathlib.Data.List.Induction
import Mathlib.Tactic.TypeStar

/-!
# Since the latest event of a kind

A history cut after its latest event of some kind, or at its start if there is
none. Whether an event is of the kind may depend on the events before it. Every
history has one such cut, and one more event moves it in one of two ways.
-/
namespace Foundation

variable {ε : Type*}

/-- `after` is what came since the latest event that `opens`. -/
structure Since (opens : List ε → ε → Prop) (events before after : List ε) : Prop where
  split : events = before ++ after
  opened : before = [] ∨ ∃ earlier event, before = earlier ++ [event] ∧ opens earlier event
  none_later : ∀ pre event, pre ++ [event] <+: after → ¬opens (before ++ pre) event

namespace Since

variable {opens : List ε → ε → Prop} {events before after : List ε} {event : ε}

theorem nil : Since opens [] [] [] where
  split := rfl
  opened := .inl rfl
  none_later := by simp

/-- An event of the kind moves the cut behind itself. -/
theorem restart (opening : opens events event) :
    Since opens (events ++ [event]) (events ++ [event]) [] where
  split := (List.append_nil _).symm
  opened := .inr ⟨events, event, rfl, opening⟩
  none_later := by simp

/-- Any other event is one more since the cut. -/
theorem extend (since : Since opens events before after) (other : ¬opens events event) :
    Since opens (events ++ [event]) before (after ++ [event]) where
  split := by rw [since.split, List.append_assoc]
  opened := since.opened
  none_later := by
    intro pre later within
    rcases List.prefix_concat_iff.mp within with last | earlier
    · obtain ⟨rfl, same⟩ := List.append_inj' last rfl
      cases same
      rwa [← since.split]
    · exact since.none_later pre later earlier

/-- Nothing since the cut is of the kind. -/
theorem exists_not_opens (since : Since opens events before after) (member : event ∈ after) :
    ∃ pre, pre ++ [event] <+: after ∧ ¬opens (before ++ pre) event := by
  obtain ⟨pre, post, rfl⟩ := List.append_of_mem member
  have within : pre ++ [event] <+: pre ++ event :: post := ⟨post, by simp⟩
  exact ⟨pre, within, since.none_later pre event within⟩

theorem exists_since (opens : List ε → ε → Prop) (events : List ε) :
    ∃ before after, Since opens events before after := by
  induction events using List.reverseRecOn with
  | nil => exact ⟨[], [], nil⟩
  | append_singleton events event ih =>
    obtain ⟨before, after, since⟩ := ih
    by_cases opening : opens events event
    · exact ⟨_, _, restart opening⟩
    · exact ⟨_, _, since.extend opening⟩

/-- The cut after a history with one more event, from that before it. -/
theorem snoc_cases (since : Since opens (events ++ [event]) before after) :
    (opens events event ∧ before = events ++ [event] ∧ after = []) ∨
      ∃ rest, ¬opens events event ∧ after = rest ++ [event] ∧ Since opens events before rest := by
  rcases List.eq_nil_or_concat after with rfl | ⟨rest, last, shape⟩
  · have whole : before = events ++ [event] := by rw [since.split, List.append_nil]
    rcases since.opened with empty | ⟨earlier, opening, shape, opened⟩
    · simp [whole] at empty
    · obtain ⟨rfl, same⟩ := List.append_inj' (whole.symm.trans shape) rfl
      cases same
      exact .inl ⟨opened, whole, rfl⟩
  · rw [List.concat_eq_append] at shape
    subst shape
    obtain ⟨rfl, same⟩ := List.append_inj'
      (since.split.trans (List.append_assoc before rest [last]).symm) rfl
    cases same
    have other := since.none_later rest _ (List.prefix_refl _)
    refine .inr ⟨rest, other, rfl, rfl, since.opened, fun pre later within => ?_⟩
    exact since.none_later pre later (within.trans (List.prefix_append _ _))

theorem unique {before' after' : List ε} (since : Since opens events before after)
    (since' : Since opens events before' after') : before = before' ∧ after = after' := by
  induction events using List.reverseRecOn generalizing before after before' after' with
  | nil =>
    obtain ⟨rfl, rfl⟩ := List.append_eq_nil_iff.mp since.split.symm
    obtain ⟨rfl, rfl⟩ := List.append_eq_nil_iff.mp since'.split.symm
    exact ⟨rfl, rfl⟩
  | append_singleton events event ih =>
    rcases since.snoc_cases with ⟨opening, rfl, rfl⟩ | ⟨rest, other, rfl, earlier⟩
    · rcases since'.snoc_cases with ⟨_, rfl, rfl⟩ | ⟨_, other, _⟩
      · exact ⟨rfl, rfl⟩
      · exact absurd opening other
    · rcases since'.snoc_cases with ⟨opening, _⟩ | ⟨rest', _, rfl, earlier'⟩
      · exact absurd opening other
      · obtain ⟨same, rfl⟩ := ih earlier earlier'
        exact ⟨same, rfl⟩

end Since

end Foundation
