import Mathlib.Data.List.AList
import Mathlib.Data.List.Induction
import Mathlib.Data.List.MinMax

/-!
# Hash maps as association lists

A hash map is an association list read up to the order of its entries: one
iteration visits the entries in the order of some permutation of them. Besides
Mathlib's operations this file has updating in place, and gathering values
under keys by pushing onto the list an entry holds.
-/
namespace Foundation

universe u v

/-- The entries of a hash map in the order one iteration yields them. -/
abbrev HashMap (κ : Type u) (ν : Type v) := AList (fun _ : κ => ν)

namespace HashMap

variable {κ : Type u} {ν : Type v}

/-- Mutating every value in place. -/
def update (f : κ → ν → ν) (m : HashMap κ ν) : HashMap κ ν :=
  ⟨m.entries.map fun e => ⟨e.1, f e.1 e.2⟩, m.nodupKeys.map₂ f⟩

@[simp] theorem entries_update (f : κ → ν → ν) (m : HashMap κ ν) :
    (update f m).entries = m.entries.map fun e => ⟨e.1, f e.1 e.2⟩ := rfl

variable [DecidableEq κ]

/-- Mutating the value of one key, if it is present. -/
def modify (k : κ) (f : ν → ν) (m : HashMap κ ν) : HashMap κ ν :=
  update (fun k' v => if k' = k then f v else v) m

theorem modify_of_notMem (k : κ) (f : ν → ν) (m : HashMap κ ν) (absent : k ∉ m) :
    modify k f m = m := by
  apply AList.ext
  simp only [modify, entries_update]
  conv_rhs => rw [← List.map_id m.entries]
  apply List.map_congr_left
  intro e member
  have other : e.1 ≠ k := by
    rintro rfl
    exact absent (List.mem_keys_of_mem member)
  simp [other]

/-- Appending to the list under a key, starting one where there is none. -/
def push (m : HashMap κ (List ν)) (k : κ) (v : ν) : HashMap κ (List ν) :=
  m.insert k ((m.lookup k).getD [] ++ [v])

/-- Every pair inserted in turn, a later one in place of an earlier one. -/
def collect (kvs : List (κ × ν)) : HashMap κ ν :=
  kvs.foldl (fun m kv => m.insert kv.1 kv.2) ∅

theorem collect_snoc (kvs : List (κ × ν)) (kv : κ × ν) :
    collect (kvs ++ [kv]) = (collect kvs).insert kv.1 kv.2 := by
  simp [collect]

theorem mem_collect {kvs : List (κ × ν)} {k : κ} :
    k ∈ collect kvs ↔ k ∈ kvs.map Prod.fst := by
  induction kvs using List.reverseRecOn with
  | nil => simp [collect]
  | append_singleton kvs kv ih =>
    rw [collect_snoc, AList.mem_insert, ih]
    simp [or_comm]

/-- What is collected was among the pairs. -/
theorem mem_of_mem_collect {kvs : List (κ × ν)} {e : (_ : κ) × ν}
    (member : e ∈ (collect kvs).entries) : (e.1, e.2) ∈ kvs := by
  induction kvs using List.reverseRecOn with
  | nil => simp [collect] at member
  | append_singleton kvs kv ih =>
    rw [collect_snoc, AList.entries_insert] at member
    rcases List.mem_cons.mp member with rfl | earlier
    · exact List.mem_append_right _ List.mem_cons_self
    · exact List.mem_append_left _ (ih ((List.kerase_sublist _ _).subset earlier))

/-- Pairs with different keys are all kept. -/
theorem collect_perm (kvs : List (κ × ν)) (different : (kvs.map Prod.fst).Nodup) :
    (collect kvs).entries.Perm (kvs.map fun kv => ⟨kv.1, kv.2⟩) := by
  induction kvs using List.reverseRecOn with
  | nil => simp [collect]
  | append_singleton kvs kv ih =>
    rw [List.map_append, List.map_singleton] at different
    obtain ⟨earlier, _, apart⟩ := List.nodup_append.mp different
    have absent : kv.1 ∉ collect kvs := fun present =>
      apart _ (mem_collect.mp present) _ List.mem_cons_self rfl
    rw [collect_snoc, AList.entries_insert_of_notMem absent, List.map_append, List.map_singleton]
    exact ((ih earlier).cons _).trans (List.perm_append_singleton _ _).symm

/-- There is one entry for each pair exactly when no two pairs share a key. -/
theorem length_collect_iff (kvs : List (κ × ν)) :
    (collect kvs).entries.length = kvs.length ↔ (kvs.map Prod.fst).Nodup := by
  constructor
  · intro full
    have kept : (collect kvs).keys ⊆ kvs.map Prod.fst := fun k present =>
      mem_collect.mp (AList.mem_keys.mpr present)
    -- The keys are among those of the pairs and as many, so they are all of them.
    have same : (collect kvs).keys.Perm (kvs.map Prod.fst) := by
      apply (List.subperm_of_subset (collect kvs).keys_nodup kept).perm_of_length_le
      rw [List.length_map, ← full, AList.keys, List.keys, List.length_map]
    exact same.nodup_iff.mp (collect kvs).keys_nodup
  · intro different
    rw [(collect_perm kvs different).length_eq, List.length_map]

/-- One more under a key. -/
def bump (m : HashMap κ Nat) (k : κ) : HashMap κ Nat :=
  m.insert k ((m.lookup k).getD 0 + 1)

/-- How often each key occurs. -/
def tally (ks : List κ) : HashMap κ Nat :=
  ks.foldl bump ∅

theorem lookup_tally (ks : List κ) (k : κ) :
    (tally ks).lookup k = if k ∈ ks then some (ks.count k) else none := by
  induction ks using List.reverseRecOn with
  | nil => simp [tally]
  | append_singleton ks last ih =>
    have step : tally (ks ++ [last]) = bump (tally ks) last := by simp [tally]
    rw [step, bump]
    by_cases same : k = last
    · subst same
      by_cases earlier : k ∈ ks
      · simp [ih, earlier, List.count_append]
      · simp [ih, earlier, List.count_append, List.count_eq_zero_of_not_mem earlier]
    · rw [AList.lookup_insert_ne same, ih]
      simp [same, List.count_append, Ne.symm same]

theorem count_of_mem_tally {ks : List κ} {e : (_ : κ) × Nat} (member : e ∈ (tally ks).entries) :
    e.2 = ks.count e.1 := by
  have found := AList.mem_lookup_iff.mpr member
  rw [lookup_tally] at found
  split at found
  · exact (Option.some.inj found).symm
  · cases found

theorem count_add_count_le (ks : List κ) {a b : κ} (different : a ≠ b) :
    ks.count a + ks.count b ≤ ks.length := by
  induction ks with
  | nil => simp
  | cons k ks ih =>
    simp only [List.count_cons, List.length_cons, beq_iff_eq]
    split_ifs with first second
    · exact absurd (first.symm.trans second) different
    all_goals omega

/-- In every order of iteration the greatest count is that of a strict majority. -/
theorem argmax_of_majority {ks : List κ} {counts : List ((_ : κ) × Nat)}
    (perm : counts.Perm (tally ks).entries) {k : κ} (most : ks.length < 2 * ks.count k) :
    counts.argmax (fun e => (e.2 : Nat)) = some ⟨k, ks.count k⟩ := by
  have member : k ∈ ks := List.count_pos_iff.mp (by omega)
  have own : ⟨k, ks.count k⟩ ∈ counts := by
    have found := lookup_tally ks k
    rw [if_pos member] at found
    exact perm.mem_iff.mpr (AList.mem_lookup_iff.mp found)
  cases greatest : counts.argmax fun e => (e.2 : Nat) with
  | none => simp [List.argmax_eq_none.mp greatest] at own
  | some e =>
    have least := List.le_of_mem_argmax own greatest
    have counted := count_of_mem_tally (perm.mem_iff.mp (List.argmax_mem greatest))
    -- Another key has at most the other half, so the majority is strictly ahead of it.
    by_cases same : e.1 = k
    · subst same
      rw [← counted]
    · have apart := count_add_count_le ks same
      dsimp only at least
      omega

/-- All values gathered under their keys. -/
def gather (kvs : List (κ × ν)) : HashMap κ (List ν) :=
  kvs.foldl (fun m kv => push m kv.1 kv.2) ∅

/-- The pairs a gathered map holds. -/
def ungather (m : HashMap κ (List ν)) : List (κ × ν) :=
  m.entries.flatMap fun e => e.2.map fun v => (e.1, v)

theorem ungather_push (m : HashMap κ (List ν)) (k : κ) (v : ν) :
    (ungather (push m k v)).Perm (ungather m ++ [(k, v)]) := by
  simp only [ungather, push, AList.entries_insert, List.flatMap_cons]
  by_cases present : k ∈ m.entries.keys
  · -- The entry is taken out of the middle and put back in front with one value more.
    obtain ⟨vs, before, after, _, shape, erased⟩ := List.exists_of_kerase present
    have found : m.lookup k = some vs :=
      AList.mem_lookup_iff.mpr (by simp [shape])
    rw [found, erased, shape]
    simp only [Option.getD_some, List.map_append, List.map_cons, List.map_nil,
      List.flatMap_append, List.flatMap_cons]
    classical
    refine List.perm_iff_count.mpr fun kv => ?_
    simp only [List.count_append]
    omega
  · -- A new entry with one value.
    have missing : m.lookup k = none := AList.lookup_eq_none.mpr present
    rw [missing, List.kerase_of_notMem_keys present]
    simpa [ungather] using (List.perm_append_singleton (k, v) (ungather m)).symm

/-- Gathering loses and invents nothing. -/
theorem ungather_gather (kvs : List (κ × ν)) : (ungather (gather kvs)).Perm kvs := by
  induction kvs using List.reverseRecOn with
  | nil => simp [gather, ungather]
  | append_singleton kvs kv ih =>
    simp only [gather, List.foldl_append, List.foldl_cons, List.foldl_nil] at ih ⊢
    exact (ungather_push _ kv.1 kv.2).trans (ih.append_right [kv])

/-- No key is left with nothing under it. -/
theorem gather_nonempty (kvs : List (κ × ν)) :
    ∀ e ∈ (gather kvs).entries, e.2 ≠ [] := by
  induction kvs using List.reverseRecOn with
  | nil => simp [gather]
  | append_singleton kvs kv ih =>
    intro e member
    simp only [gather, List.foldl_append, List.foldl_cons, List.foldl_nil, push,
      AList.entries_insert, List.mem_cons] at ih member
    rcases member with rfl | member
    · simp
    · exact ih e ((List.kerase_sublist _ _).subset member)

end HashMap

end Foundation
