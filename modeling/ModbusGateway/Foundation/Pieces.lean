import Mathlib.Data.List.Infix

/-!
# A text cut at the occurrences of a pattern

One pass from the left over occurrences that do not overlap cuts a text into
pieces. Putting the same separator between them gives the text back where the
separator is the pattern; with two pieces or more the joined text tells which
separator was used.
-/
namespace Foundation

universe u

variable {α : Type u}

/-- The pieces around the occurrences of a pattern; the number counts the elements of an
occurrence that are still to be passed over. -/
def pieces [BEq α] (pattern : List α) : Nat → List α → List (List α)
  | _, [] => [[]]
  | skip + 1, _ :: rest => pieces pattern skip rest
  | 0, c :: rest =>
    if pattern.isPrefixOf (c :: rest) then [] :: pieces pattern (pattern.length - 1) rest
    else (pieces pattern 0 rest).modifyHead (c :: ·)

theorem pieces_ne_nil [BEq α] (pattern : List α) (skip : Nat) (text : List α) :
    pieces pattern skip text ≠ [] := by
  fun_induction pieces pattern skip text with
  | case1 => exact List.cons_ne_nil _ _
  | case2 _ _ _ ih => exact ih
  | case3 => exact List.cons_ne_nil _ _
  | case4 c rest _ ih =>
    cases shape : pieces pattern 0 rest with
    | nil => exact absurd shape ih
    | cons => exact List.cons_ne_nil _ _

/-- A pattern that occurs cuts the text. -/
theorem two_le_length_pieces [BEq α] [LawfulBEq α] {pattern text : List α}
    (nonempty : pattern ≠ []) (occurs : pattern <:+: text) :
    2 ≤ (pieces pattern 0 text).length := by
  induction text with
  | nil => exact absurd (List.infix_nil.mp occurs) nonempty
  | cons c rest ih =>
    rw [pieces]
    split
    next =>
      have more := List.length_pos_of_ne_nil (pieces_ne_nil pattern (pattern.length - 1) rest)
      rw [List.length_cons]
      omega
    next elsewhere =>
      rw [List.length_modifyHead]
      rcases List.infix_cons_iff.mp occurs with here | later
      · exact absurd (List.isPrefixOf_iff_prefix.mpr here) elsewhere
      · exact ih later

theorem intercalate_modifyHead_cons (separator : List α) (c : α) {parts : List (List α)}
    (nonempty : parts ≠ []) :
    separator.intercalate (parts.modifyHead (c :: ·)) = c :: separator.intercalate parts := by
  match parts with
  | [] => exact absurd rfl nonempty
  | [part] => simp
  | part :: next :: rest => simp [List.intercalate_cons_cons]

/-- Each cut adds the length of the separator once. -/
theorem length_intercalate (separator : List α) {parts : List (List α)} (nonempty : parts ≠ []) :
    (separator.intercalate parts).length =
      parts.flatten.length + (parts.length - 1) * separator.length := by
  induction parts with
  | nil => exact absurd rfl nonempty
  | cons part rest ih =>
    cases rest with
    | nil => simp
    | cons next rest =>
      have shorter := ih (List.cons_ne_nil _ _)
      rw [List.intercalate_cons_cons, List.length_append, List.length_append, shorter]
      simp only [List.flatten_cons, List.length_append, List.length_cons, Nat.add_sub_cancel,
        Nat.succ_mul]
      omega

/-- What stands around one of the parts does not depend on it. -/
theorem exists_context (separator : List α) (before after : List (List α)) :
    ∃ head tail, ∀ part,
      separator.intercalate (before ++ part :: after) = head ++ part ++ tail := by
  induction before with
  | nil =>
    cases after with
    | nil => exact ⟨[], [], fun part => by simp⟩
    | cons next after =>
      refine ⟨[], separator ++ separator.intercalate (next :: after), fun part => ?_⟩
      rw [List.nil_append, List.intercalate_cons_cons, List.nil_append, List.append_assoc]
  | cons first before ih =>
    obtain ⟨head, tail, context⟩ := ih
    refine ⟨first ++ separator ++ head, tail, fun part => ?_⟩
    have more : before ++ part :: after ≠ [] := by simp
    rw [List.cons_append, List.intercalate_cons_of_ne_nil more, context part]
    simp only [List.append_assoc]

/-- One more part makes the text longer. -/
theorem length_intercalate_lt (separator : List α) (before after : List (List α))
    {part : List α} (nonempty : part ≠ []) :
    (separator.intercalate (before ++ after)).length <
      (separator.intercalate (before ++ part :: after)).length := by
  have longer := List.length_pos_of_ne_nil nonempty
  rw [length_intercalate separator (by simp : before ++ part :: after ≠ [])]
  by_cases empty : before ++ after = []
  · obtain ⟨rfl, rfl⟩ := List.append_eq_nil_iff.mp empty
    simpa using longer
  · rw [length_intercalate separator empty]
    have separators : (before ++ after).length - 1 ≤ (before ++ part :: after).length - 1 := by
      simp
    have bound := Nat.mul_le_mul_right separator.length separators
    simp only [List.flatten_append, List.flatten_cons, List.length_append] at bound ⊢
    omega

/-- The first occurrence of an element divides a text in one way. -/
theorem append_cons_inj {marker : α} {head head' tail tail' : List α} (first : marker ∉ head)
    (first' : marker ∉ head') (same : head ++ marker :: tail = head' ++ marker :: tail') :
    head = head' ∧ tail = tail' := by
  induction head generalizing head' with
  | nil =>
    cases head' with
    | nil => exact ⟨rfl, List.tail_eq_of_cons_eq same⟩
    | cons c head' =>
      have start := List.head_eq_of_cons_eq same
      exact absurd (start ▸ List.mem_cons_self) first'
  | cons c head ih =>
    cases head' with
    | nil =>
      have start := List.head_eq_of_cons_eq same
      exact absurd (start ▸ List.mem_cons_self) first
    | cons c' head' =>
      rw [List.cons_append, List.cons_append, List.cons.injEq] at same
      obtain ⟨heads, tails⟩ := ih (List.not_mem_of_not_mem_cons first)
        (List.not_mem_of_not_mem_cons first') same.2
      exact ⟨by rw [same.1, heads], tails⟩

/-- The same parts joined to the same text had the same separator. -/
theorem intercalate_left_injective {parts : List (List α)} (several : 2 ≤ parts.length)
    {separator separator' : List α}
    (same : separator.intercalate parts = separator'.intercalate parts) :
    separator = separator' := by
  have nonempty : parts ≠ [] := by
    rintro rfl
    simp at several
  have lengths : separator.length = separator'.length := by
    have total := congrArg List.length same
    rw [length_intercalate separator nonempty, length_intercalate separator' nonempty] at total
    exact Nat.eq_of_mul_eq_mul_left (by omega) (Nat.add_left_cancel total)
  -- The separators stand at the same place, behind the first part.
  match parts, several with
  | part :: next :: rest, _ =>
    rw [List.intercalate_cons_cons, List.intercalate_cons_cons, List.append_assoc,
      List.append_assoc] at same
    exact List.append_inj_left (List.append_cancel_left same) lengths

end Foundation
