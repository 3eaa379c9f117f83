import Mathlib.Data.List.Chain
import Mathlib.Order.CompletePartialOrder
import Mathlib.Order.Interval.Set.Disjoint

/-!
# Non-empty half-open spans of a linear order

Sorted by their start, spans are pairwise disjoint as soon as neighbours do not
overlap: `before` is transitive because a span is never empty.
-/
namespace Foundation

/-- The half-open span `[start, stop)`. -/
structure Span (α : Type*) [LT α] where
  start : α
  stop : α
  nonempty : start < stop

namespace Span

variable {α : Type*} [LinearOrder α]

/-- The points of a span. -/
def points (a : Span α) : Set α := Set.Ico a.start a.stop

/-- `a` ends where `b` starts, or earlier. -/
def before (a b : Span α) : Prop := a.stop ≤ b.start

instance : Trans (@before α _) (@before α _) (@before α _) where
  trans {_ b _} ab bc := ab.trans (b.nonempty.le.trans bc)

theorem disjoint_iff (a b : Span α) :
    Disjoint a.points b.points ↔ a.before b ∨ b.before a := by
  have ha := a.nonempty
  have hb := b.nonempty
  simp only [points, before, Set.Ico_disjoint_Ico, min_le_iff, le_max_iff]
  -- Of the four ways for the ends to lie, two would make a span empty.
  constructor
  · rintro ((h | h) | h | h)
    · exact absurd h (not_le.mpr ha)
    · exact .inr h
    · exact .inl h
    · exact absurd h (not_le.mpr hb)
  · rintro (h | h)
    · exact .inr (.inl h)
    · exact .inl (.inr h)

/-- Pairwise disjointness does not depend on the order of the spans. -/
theorem pairwise_disjoint_perm {l l' : List (Span α)} (perm : l.Perm l') :
    l.Pairwise (fun a b => Disjoint a.points b.points) ↔
      l'.Pairwise (fun a b => Disjoint a.points b.points) :=
  perm.pairwise_iff fun apart => apart.symm

/-- Among spans sorted by start, it is enough to compare neighbours. -/
theorem pairwise_disjoint_iff_isChain (l : List (Span α))
    (sorted : l.Pairwise fun a b => a.start ≤ b.start) :
    l.Pairwise (fun a b => Disjoint a.points b.points) ↔ l.IsChain before := by
  rw [List.isChain_iff_pairwise]
  constructor
  · intro apart
    refine (sorted.and apart).imp fun {a b} both => ?_
    -- The later start cannot also come first: the span before it is not empty.
    rcases (disjoint_iff a b).mp both.2 with h | h
    · exact h
    · exact absurd (h.trans both.1) (not_le.mpr b.nonempty)
  · intro ordered
    exact ordered.imp fun {a b} h => (disjoint_iff a b).mpr (.inl h)

end Span

end Foundation
