import Mathlib.Data.List.Lookmap

/-!
# Lists of records read as tables

A key finds the first record that has it, and an update changes that record
where it stands. Updates that keep the keys are then described by what each key
finds afterwards, whether or not keys repeat.
-/
namespace Foundation

universe u v

namespace Keyed

variable {α : Type u} {κ : Type v} [DecidableEq κ] (key : α → κ)

/-- The first record with a key. -/
def find (k : κ) (xs : List α) : Option α := xs.find? fun x => key x = k

/-- Updating the first record with a key. -/
def modify (k : κ) (f : α → α) (xs : List α) : List α :=
  xs.lookmap fun x => if key x = k then some (f x) else none

variable {key}

@[simp] theorem find_nil (k : κ) : find key k [] = none := rfl

theorem find_cons (k : κ) (x : α) (xs : List α) :
    find key k (x :: xs) = if key x = k then some x else find key k xs := by
  by_cases own : key x = k <;> simp [find, own]

theorem modify_cons (k : κ) (f : α → α) (x : α) (xs : List α) :
    modify key k f (x :: xs) = if key x = k then f x :: xs else x :: modify key k f xs := by
  by_cases own : key x = k <;> simp [modify, own]

theorem mem_of_find {k : κ} {xs : List α} {x : α} (found : find key k xs = some x) :
    x ∈ xs ∧ key x = k :=
  ⟨List.mem_of_find?_eq_some found, by simpa using List.find?_some found⟩

/-- An update exchanges the record a key finds and leaves those around it. -/
theorem split_of_find {k : κ} {xs : List α} {x : α} (found : find key k xs = some x) :
    ∃ before after, xs = before ++ x :: after ∧
      ∀ f, modify key k f xs = before ++ f x :: after := by
  induction xs with
  | nil => cases found
  | cons first xs ih =>
    rw [find_cons] at found
    by_cases own : key first = k
    · rw [if_pos own] at found
      cases found
      exact ⟨[], xs, rfl, fun f => by rw [modify_cons, if_pos own, List.nil_append]⟩
    · rw [if_neg own] at found
      obtain ⟨before, after, rfl, exchange⟩ := ih found
      refine ⟨first :: before, after, rfl, fun f => ?_⟩
      rw [modify_cons, if_neg own, exchange f, List.cons_append]

/-- Where keys do not repeat, a record is what its key finds. -/
theorem find_of_mem {xs : List α} (distinct : (xs.map key).Nodup) {x : α} (member : x ∈ xs) :
    find key (key x) xs = some x := by
  induction xs with
  | nil => simp at member
  | cons first xs ih =>
    rw [List.map_cons, List.nodup_cons] at distinct
    rw [find_cons]
    rcases List.mem_cons.mp member with rfl | later
    · rw [if_pos rfl]
    · have other : key first ≠ key x := fun same =>
        distinct.1 (same ▸ List.mem_map_of_mem later)
      rw [if_neg other]
      exact ih distinct.2 later

/-- An update that keeps what `g` reads of every record keeps it in the whole list. -/
theorem map_modify {β : Type*} (g : α → β) (k : κ) {f : α → α} (kept : ∀ x, g (f x) = g x)
    (xs : List α) : (modify key k f xs).map g = xs.map g := by
  apply List.lookmap_map_eq
  intro x y changed
  split at changed
  · cases changed
    exact (kept x).symm
  · cases changed

theorem find_modify (k k' : κ) {f : α → α} (kept : ∀ x, key (f x) = key x) (xs : List α) :
    find key k' (modify key k f xs) =
      if k = k' then (find key k' xs).map f else find key k' xs := by
  induction xs with
  | nil => simp [modify]
  | cons x xs ih =>
    rw [modify_cons]
    by_cases own : key x = k
    · by_cases same : k = k' <;> simp [find_cons, own, kept, same]
    · rw [if_neg own, find_cons, find_cons]
      by_cases asked : key x = k'
      · have other : k ≠ k' := fun same => own (asked.trans same.symm)
        rw [if_pos asked, if_pos asked, if_neg other]
      · rw [if_neg asked, if_neg asked, ih]

/-- An update that leaves the record it finds as it was changes nothing. -/
theorem modify_of_fixed {k : κ} {f : α → α} {xs : List α}
    (fixed : ∀ x, find key k xs = some x → f x = x) : modify key k f xs = xs := by
  induction xs with
  | nil => rfl
  | cons x xs ih =>
    rw [modify_cons]
    by_cases own : key x = k
    · rw [if_pos own, fixed x (by rw [find_cons, if_pos own])]
    · rw [if_neg own, ih fun y found => fixed y (by rw [find_cons, if_neg own, found])]

end Keyed

end Foundation
