import Mathlib.Data.List.Basic
import Mathlib.Logic.ExistsUnique

/-!
# Laying segments out in a vector

Segments of cells placed at fixed positions of a vector, with a filler in the
cells that no segment covers. Segments that do not meet have exactly one image.
-/
namespace Foundation

/-- Consecutive cells from a position on. -/
structure Segment (α : Type*) where
  start : Nat
  cells : List α

namespace Segment

variable {α : Type*}

/-- What the segment puts at a position. -/
def cell? (s : Segment α) (i : Nat) : Option α :=
  if s.start ≤ i then s.cells[i - s.start]? else none

theorem cell?_start_add (s : Segment α) (i : Nat) : s.cell? (s.start + i) = s.cells[i]? := by
  simp [cell?]

theorem cell?_isSome_iff (s : Segment α) (i : Nat) :
    (s.cell? i).isSome ↔ s.start ≤ i ∧ i < s.start + s.cells.length := by
  by_cases below : s.start ≤ i
  · simp only [cell?, below, if_true, true_and, isSome_getElem?]
    omega
  · simp [cell?, below]

/-- Two segments have no position in common. -/
def Apart (s t : Segment α) : Prop := ∀ i, s.cell? i = none ∨ t.cell? i = none

theorem Apart.symm {s t : Segment α} (apart : s.Apart t) : t.Apart s :=
  fun i => (apart i).symm

/-- `image` has `n` cells, those of the segments at their positions and the filler elsewhere. -/
structure IsImage (segments : List (Segment α)) (filler : Nat → α) (n : Nat)
    (image : List α) : Prop where
  length_eq : image.length = n
  cells_eq : ∀ s ∈ segments, ∀ i c, s.cell? i = some c → image[i]? = some c
  filler_eq : ∀ i < n, (∀ s ∈ segments, s.cell? i = none) → image[i]? = some (filler i)

/-- The image, cell by cell. -/
def image (segments : List (Segment α)) (filler : Nat → α) (n : Nat) : List α :=
  (List.range n).map fun i => (segments.findSome? (cell? · i)).getD (filler i)

private theorem findSome?_cell (segments : List (Segment α)) (i : Nat)
    (apart : segments.Pairwise Apart) (s : Segment α) (member : s ∈ segments) (c : α)
    (covers : s.cell? i = some c) : segments.findSome? (cell? · i) = some c := by
  induction segments with
  | nil => simp at member
  | cons t segments ih =>
    obtain ⟨first, rest⟩ := List.pairwise_cons.mp apart
    rcases List.mem_cons.mp member with rfl | member
    · simp [covers]
    · -- An earlier segment keeps away from every position that `s` covers.
      have skipped : t.cell? i = none := by
        rcases first s member i with none | none
        · exact none
        · simp [none] at covers
      simp only [List.findSome?_cons, skipped]
      exact ih rest member

theorem isImage_image (segments : List (Segment α)) (filler : Nat → α) (n : Nat)
    (apart : segments.Pairwise Apart)
    (inside : ∀ s ∈ segments, s.start + s.cells.length ≤ n) :
    IsImage segments filler n (image segments filler n) where
  length_eq := by simp [image]
  cells_eq := by
    intro s member i c covers
    have range := (s.cell?_isSome_iff i).mp (by simp [covers])
    have bound : i < n := Nat.lt_of_lt_of_le range.2 (inside s member)
    have found := findSome?_cell segments i apart s member c covers
    simp [image, List.getElem?_map, List.getElem?_range bound, found]
  filler_eq := by
    intro i bound uncovered
    have missed : segments.findSome? (cell? · i) = none := by
      simpa [List.findSome?_eq_none_iff] using uncovered
    simp [image, List.getElem?_map, List.getElem?_range bound, missed]

theorem IsImage.unique {segments : List (Segment α)} {filler : Nat → α} {n : Nat}
    {first second : List α} (one : IsImage segments filler n first)
    (other : IsImage segments filler n second) : first = second := by
  apply List.ext_getElem?
  intro i
  -- A position is covered by some segment, left to the filler, or past the end.
  by_cases bound : i < n
  · by_cases covered : ∃ s ∈ segments, ∃ c, s.cell? i = some c
    · obtain ⟨s, member, c, covers⟩ := covered
      rw [one.cells_eq s member i c covers, other.cells_eq s member i c covers]
    · have uncovered : ∀ s ∈ segments, s.cell? i = none := by
        intro s member
        by_contra present
        obtain ⟨c, covers⟩ := Option.ne_none_iff_exists'.mp present
        exact covered ⟨s, member, c, covers⟩
      rw [one.filler_eq i bound uncovered, other.filler_eq i bound uncovered]
  · rw [List.getElem?_eq_none (by have := one.length_eq; omega),
      List.getElem?_eq_none (by have := other.length_eq; omega)]

theorem existsUnique_isImage (segments : List (Segment α)) (filler : Nat → α) (n : Nat)
    (apart : segments.Pairwise Apart)
    (inside : ∀ s ∈ segments, s.start + s.cells.length ≤ n) :
    ∃! words, IsImage segments filler n words :=
  ⟨_, isImage_image segments filler n apart inside, fun _ other =>
    other.unique (isImage_image segments filler n apart inside)⟩

end Segment

end Foundation
