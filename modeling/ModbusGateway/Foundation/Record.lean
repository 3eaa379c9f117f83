import Mathlib.Data.List.Nodup
import Mathlib.Tactic.TypeStar

/-!
# Records read from tables

A table is a list of entries. A record is read from it field by field, each by
its key, with a default or without; keys that no field claims are passed over. A
flattened part of a record reads from the entries that the other fields leave.
-/
namespace Foundation

universe u

variable {κ ν α : Type*} [DecidableEq κ]

/-- The values under a key. -/
def valuesAt (entries : List (κ × ν)) (key : κ) : List ν :=
  (entries.filter fun entry => entry.1 = key).map Prod.snd

/-- Reads the field of a key. A key that is there twice has no value. -/
def readField (decode : ν → Option α) (absent : Option α) (entries : List (κ × ν)) (key : κ) :
    Option α :=
  match valuesAt entries key with
  | [] => absent
  | [value] => decode value
  | _ => none

def required (decode : ν → Option α) (entries : List (κ × ν)) (key : κ) : Option α :=
  readField decode none entries key

def withDefault (decode : ν → Option α) (absent : α) (entries : List (κ × ν)) (key : κ) :
    Option α :=
  readField decode (some absent) entries key

/-- What the fields of these keys leave. -/
def unclaimed (keys : List κ) (entries : List (κ × ν)) : List (κ × ν) :=
  entries.filter fun entry => entry.1 ∉ keys

def HasKey (entries : List (κ × ν)) (key : κ) : Prop := key ∈ entries.map Prod.fst

instance (entries : List (κ × ν)) (key : κ) : Decidable (HasKey entries key) :=
  inferInstanceAs (Decidable (key ∈ entries.map Prod.fst))

/-- What is there under a key can be read. -/
def Typed (decode : ν → Option α) (entries : List (κ × ν)) (key : κ) : Prop :=
  ∀ value, (key, value) ∈ entries → (decode value).isSome

variable {entries : List (κ × ν)} {key : κ} {decode : ν → Option α}

theorem valuesAt_of_not_hasKey (missing : ¬ HasKey entries key) : valuesAt entries key = [] := by
  rw [valuesAt, List.map_eq_nil_iff, List.filter_eq_nil_iff]
  intro entry member same
  exact missing (of_decide_eq_true same ▸ List.mem_map_of_mem member)

/-- In a table without repetition a key has one value. -/
theorem valuesAt_of_mem {value : ν} (distinct : (entries.map Prod.fst).Nodup)
    (member : (key, value) ∈ entries) : valuesAt entries key = [value] := by
  induction entries with
  | nil => cases member
  | cons entry entries ih =>
    rw [List.map_cons, List.nodup_cons] at distinct
    rcases List.mem_cons.mp member with rfl | later
    · have rest : valuesAt entries key = [] := valuesAt_of_not_hasKey distinct.1
      rw [valuesAt, List.filter_cons_of_pos (by simp), List.map_cons]
      exact congrArg (value :: ·) rest
    · have other : entry.1 ≠ key := by
        intro same
        rw [same] at distinct
        exact distinct.1 (List.mem_map_of_mem later)
      rw [valuesAt, List.filter_cons_of_neg (by simpa using other)]
      exact ih distinct.2 later

omit [DecidableEq κ] in
theorem value_unique {value value' : ν} (distinct : (entries.map Prod.fst).Nodup)
    (member : (key, value) ∈ entries) (member' : (key, value') ∈ entries) : value = value' :=
  congrArg Prod.snd (List.inj_on_of_nodup_map distinct member member' rfl)

theorem readField_of_mem {value : ν} (absent : Option α)
    (distinct : (entries.map Prod.fst).Nodup) (member : (key, value) ∈ entries) :
    readField decode absent entries key = decode value := by
  rw [readField, valuesAt_of_mem distinct member]

omit [DecidableEq κ] in
theorem exists_mem_of_hasKey (has : HasKey entries key) : ∃ value, (key, value) ∈ entries := by
  obtain ⟨⟨_, value⟩, member, rfl⟩ := List.mem_map.mp has
  exact ⟨value, member⟩

/-- A required field can be read where its key is there. -/
theorem required_isSome_iff (distinct : (entries.map Prod.fst).Nodup)
    (typed : Typed decode entries key) :
    (required decode entries key).isSome ↔ HasKey entries key := by
  by_cases has : HasKey entries key
  · obtain ⟨value, member⟩ := exists_mem_of_hasKey has
    rw [required, readField_of_mem none distinct member]
    exact iff_of_true (typed value member) has
  · rw [required, readField, valuesAt_of_not_hasKey has]
    exact iff_of_false Bool.false_ne_true has

/-- A field with a default can always be read. -/
theorem withDefault_isSome (absent : α) (distinct : (entries.map Prod.fst).Nodup)
    (typed : Typed decode entries key) : (withDefault decode absent entries key).isSome := by
  by_cases has : HasKey entries key
  · obtain ⟨value, member⟩ := exists_mem_of_hasKey has
    rw [withDefault, readField_of_mem (some absent) distinct member]
    exact typed value member
  · rw [withDefault, readField, valuesAt_of_not_hasKey has]
    rfl

theorem valuesAt_unclaimed {keys : List κ} (other : key ∉ keys) :
    valuesAt (unclaimed keys entries) key = valuesAt entries key := by
  rw [valuesAt, unclaimed, List.filter_filter, valuesAt]
  congr 1
  apply List.filter_congr
  intro entry member
  by_cases same : entry.1 = key
  · simp [same, other]
  · simp [same]

/-- A flattened part finds what is not claimed by the other fields. -/
theorem required_unclaimed {keys : List κ} (other : key ∉ keys) :
    required decode (unclaimed keys entries) key = required decode entries key := by
  rw [required, readField, valuesAt_unclaimed other, required, readField]

theorem withDefault_unclaimed {keys : List κ} (absent : α) (other : key ∉ keys) :
    withDefault decode absent (unclaimed keys entries) key = withDefault decode absent entries key := by
  rw [withDefault, readField, valuesAt_unclaimed other, withDefault, readField]

/-- A record can be read where its first field and the rest of it can. -/
theorem isSome_bind_iff {α β : Type u} {x : Option α} {f : α → Option β} {p : Prop}
    (rest : ∀ a, (f a).isSome ↔ p) : (x >>= f).isSome ↔ x.isSome ∧ p := by
  cases x with
  | none => simp
  | some a => simpa using rest a

end Foundation
