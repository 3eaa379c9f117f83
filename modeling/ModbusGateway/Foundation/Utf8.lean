import Mathlib.Data.String.Basic

/-!
# Texts indexed by bytes

Characters of a text take one to four bytes in UTF-8. An index that falls inside
a character is no boundary, and a slice that ends at one does not exist. Texts
are lists of characters here; `String.utf8Len` counts their bytes.
-/
namespace Foundation

namespace Utf8

open String

/-- The part of a text before a byte index; none where the index is no boundary. -/
def sliceTo : List Char → Nat → Option (List Char)
  | _, 0 => some []
  | [], _ + 1 => none
  | c :: text, i + 1 =>
    if c.utf8Size ≤ i + 1 then (sliceTo text (i + 1 - c.utf8Size)).map (c :: ·) else none

def isCharBoundary (text : List Char) (i : Nat) : Bool := (sliceTo text i).isSome

/-- Counting down from an index to a boundary; none where that would pass zero. -/
def floorCharBoundary (text : List Char) : Nat → Option Nat
  | 0 => if isCharBoundary text 0 then some 0 else none
  | i + 1 => if isCharBoundary text (i + 1) then some (i + 1) else floorCharBoundary text i

/-- The byte index of the last occurrence of a character. -/
def rfind (char : Char) : List Char → Option Nat
  | [] => none
  | c :: text =>
    match rfind char text with
    | some i => some (i + c.utf8Size)
    | none => if c = char then some 0 else none

theorem sliceTo_eq_some_iff {text head : List Char} {i : Nat} :
    sliceTo text i = some head ↔ head <+: text ∧ utf8Len head = i := by
  fun_induction sliceTo text i generalizing head with
  | case1 text =>
    rw [utf8Len_eq_zero, Option.some.injEq]
    constructor
    · rintro rfl
      exact ⟨List.nil_prefix, rfl⟩
    · rintro ⟨_, rfl⟩
      rfl
  | case2 i =>
    simp only [reduceCtorEq, List.prefix_nil, false_iff, not_and]
    rintro rfl
    simp
  | case3 c text i fits ih =>
    cases head with
    | nil => simp
    | cons first head =>
      have rest : utf8Len head + c.utf8Size = i + 1 ↔ utf8Len head = i + 1 - c.utf8Size := by
        omega
      simp only [Option.map_eq_some_iff, List.cons.injEq, List.cons_prefix_cons, utf8Len_cons]
      constructor
      · rintro ⟨_, slice, rfl, rfl⟩
        obtain ⟨within, size⟩ := ih.mp slice
        exact ⟨⟨rfl, within⟩, rest.mpr size⟩
      · rintro ⟨⟨rfl, within⟩, size⟩
        exact ⟨head, ih.mpr ⟨within, rest.mp size⟩, rfl, rfl⟩
  | case4 c text i large =>
    simp only [reduceCtorEq, false_iff, not_and]
    intro within size
    cases head with
    | nil => simp at size
    | cons first head =>
      obtain ⟨rfl, _⟩ := List.cons_prefix_cons.mp within
      rw [utf8Len_cons] at size
      omega

/-- Every text has a boundary at its start, so counting down finds one. -/
theorem exists_floorCharBoundary (text : List Char) (i : Nat) :
    ∃ j head, floorCharBoundary text i = some j ∧ sliceTo text j = some head := by
  induction i with
  | zero => exact ⟨0, [], by simp [floorCharBoundary, isCharBoundary, sliceTo], by simp [sliceTo]⟩
  | succ i ih =>
    cases slice : sliceTo text (i + 1) with
    | some head => exact ⟨i + 1, head, by simp [floorCharBoundary, isCharBoundary, slice], slice⟩
    | none =>
      obtain ⟨j, head, found, slice'⟩ := ih
      exact ⟨j, head, by simp [floorCharBoundary, isCharBoundary, slice, found], slice'⟩

/-- No boundary up to the index is passed over. -/
theorem greatest_floorCharBoundary {text : List Char} {i j : Nat}
    (found : floorCharBoundary text i = some j) :
    j ≤ i ∧ ∀ head, head <+: text → utf8Len head ≤ i → utf8Len head ≤ j := by
  induction i with
  | zero =>
    obtain ⟨_, start⟩ := Option.ite_none_right_eq_some.mp found
    cases start
    exact ⟨le_rfl, fun head _ fits => fits⟩
  | succ i ih =>
    rw [floorCharBoundary] at found
    split at found
    next =>
      cases found
      exact ⟨le_rfl, fun head _ fits => fits⟩
    next inside =>
      obtain ⟨least, greatest⟩ := ih found
      refine ⟨by omega, ?_⟩
      intro head within fits
      apply greatest head within
      -- A prefix of exactly `i + 1` bytes would have made that a boundary.
      have other : utf8Len head ≠ i + 1 := by
        intro size
        have slice := sliceTo_eq_some_iff.mpr ⟨within, size⟩
        exact inside (by rw [isCharBoundary, slice]; rfl)
      omega

theorem notMem_of_rfind {char : Char} {text : List Char} (missing : rfind char text = none) :
    char ∉ text := by
  induction text with
  | nil => exact List.not_mem_nil
  | cons c text ih =>
    rw [rfind] at missing
    cases later : rfind char text with
    | some j => simp [later] at missing
    | none =>
      simp only [later, ite_eq_right_iff, reduceCtorEq, imp_false] at missing
      exact List.not_mem_cons_of_ne_of_not_mem (Ne.symm missing) (ih later)

/-- What `rfind` finds stands behind the part of the text before it, and not once more. -/
theorem split_of_rfind {char : Char} {text : List Char} {i : Nat}
    (found : rfind char text = some i) :
    ∃ before after, text = before ++ char :: after ∧ utf8Len before = i ∧ char ∉ after := by
  induction text generalizing i with
  | nil => cases found
  | cons c text ih =>
    rw [rfind] at found
    cases later : rfind char text with
    | some j =>
      simp only [later, Option.some.injEq] at found
      obtain ⟨before, after, rfl, size, last⟩ := ih later
      exact ⟨c :: before, after, rfl, by rw [utf8Len_cons, size, found], last⟩
    | none =>
      simp only [later] at found
      split at found
      next same =>
        cases found
        exact ⟨[], text, by rw [same, List.nil_append], rfl, notMem_of_rfind later⟩
      next => cases found

/-! ### Longest prefixes -/

/-- A prefix with a property, of which every other such prefix is a prefix. -/
structure Longest (property : List Char → Prop) (text head : List Char) : Prop where
  within : head <+: text
  holds : property head
  greatest : ∀ {other}, other <+: text → property other → other <+: head

theorem prefix_of_utf8Len_le {text head other : List Char} (within : head <+: text)
    (within' : other <+: text) (size : utf8Len other ≤ utf8Len head) : other <+: head := by
  rcases List.prefix_or_prefix_of_prefix within' within with shorter | ⟨rest, rfl⟩
  · exact shorter
  · have nothing : rest = [] := by
      rw [utf8Len_append] at size
      exact utf8Len_eq_zero.mp (by omega)
    exact ⟨[], by simp [nothing]⟩

/-- The longest prefix of the longest prefix, where the first property holds of every part. -/
theorem Longest.trans {first second : List Char → Prop} {text whole head : List Char}
    (outer : Longest first text whole) (inner : Longest second whole head)
    (shorter : ∀ {head whole : List Char}, head <+: whole → first whole → first head) :
    Longest (fun head => first head ∧ second head) text head where
  within := inner.within.trans outer.within
  holds := ⟨shorter inner.within outer.holds, inner.holds⟩
  greatest := by
    rintro other within ⟨one, two⟩
    exact inner.greatest (outer.greatest within one) two

/-- Counting down finds the longest prefix that fits. -/
theorem longest_of_floorCharBoundary {text head : List Char} {i j : Nat}
    (found : floorCharBoundary text i = some j) (slice : sliceTo text j = some head) :
    Longest (fun head => utf8Len head ≤ i) text head := by
  obtain ⟨least, greatest⟩ := greatest_floorCharBoundary found
  obtain ⟨within, size⟩ := sliceTo_eq_some_iff.mp slice
  constructor
  · exact within
  · show utf8Len head ≤ i
    omega
  · intro other within' fits
    have bound := greatest other within' fits
    exact prefix_of_utf8Len_le within within' (by omega)

/-- The part up to the last occurrence of a character is the longest that ends in it. -/
theorem longest_of_split {char : Char} {before after : List Char} (last : char ∉ after) :
    Longest (fun head => ∃ line, head = line ++ [char]) (before ++ char :: after)
      (before ++ [char]) := by
  constructor
  · exact ⟨after, by simp⟩
  · exact ⟨before, rfl⟩
  · rintro _ ⟨rest, split⟩ ⟨line, rfl⟩
    rw [List.append_assoc, List.singleton_append] at split
    rcases List.append_eq_append_iff.mp split with ⟨more, rfl, behind⟩ | ⟨more, rfl, behind⟩
    · cases more with
      | nil => exact ⟨[], by simp⟩
      | cons c more =>
        rw [List.cons_append, List.cons.injEq] at behind
        exact ⟨more ++ [char], by simp [behind.1]⟩
    · cases more with
      | nil => exact ⟨[], by simp⟩
      | cons c more =>
        -- The text would have the character once more behind its last occurrence.
        rw [List.cons_append, List.cons.injEq] at behind
        exact absurd (behind.2 ▸ by simp) last

end Utf8

end Foundation
