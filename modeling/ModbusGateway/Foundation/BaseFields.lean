import Mathlib.Tactic.TypeStar

/-!
# Lists of records with base fields

A record may set base values for itself and all records after it, until another
one sets them again. Resolving such a list turns every record into an entry that
stands on its own: the name behind the base name, the base time, and the
record's own unit or else the base unit.
-/
namespace Foundation

namespace BaseFields

variable {ν τ υ α : Type*}

/-- The base values in force; a missing one has not been set so far. -/
structure Base (ν τ υ : Type*) where
  name : Option ν
  time : Option τ
  unit : Option υ

def Base.unset : Base ν τ υ := ⟨none, none, none⟩

structure Record (ν τ υ α : Type*) where
  baseName : Option ν
  baseTime : Option τ
  baseUnit : Option υ
  name : Option ν
  unit : Option υ
  value : α

structure Entry (ν τ υ α : Type*) where
  name : Option ν
  time : Option τ
  unit : Option υ
  value : α

/-- The base values from a record on. -/
def Base.override (base : Base ν τ υ) (record : Record ν τ υ α) : Base ν τ υ where
  name := record.baseName <|> base.name
  time := record.baseTime <|> base.time
  unit := record.baseUnit <|> base.unit

/-- What a record says under the base values in force at it. -/
def Record.entry [Append ν] (base : Base ν τ υ) (record : Record ν τ υ α) : Entry ν τ υ α where
  name := Option.merge (· ++ ·) base.name record.name
  time := base.time
  unit := record.unit <|> base.unit
  value := record.value

def resolve [Append ν] (base : Base ν τ υ) : List (Record ν τ υ α) → List (Entry ν τ υ α)
  | [] => []
  | record :: records =>
    record.entry (base.override record) :: resolve (base.override record) records

/-- A record that sets no base value. -/
structure Record.Plain (record : Record ν τ υ α) : Prop where
  baseName : record.baseName = none
  baseTime : record.baseTime = none
  baseUnit : record.baseUnit = none

theorem Base.override_of_plain (base : Base ν τ υ) {record : Record ν τ υ α}
    (plain : record.Plain) : base.override record = base := by
  simp [override, plain.baseName, plain.baseTime, plain.baseUnit]

variable [Append ν]

/-- Plain records all resolve under the base values before them. -/
theorem resolve_of_plain (base : Base ν τ υ) {records : List (Record ν τ υ α)}
    (plain : ∀ record ∈ records, record.Plain) :
    resolve base records = records.map (Record.entry base) := by
  induction records with
  | nil => rfl
  | cons record records ih =>
    have same := base.override_of_plain (plain record List.mem_cons_self)
    rw [resolve, same, ih fun other member => plain other (List.mem_cons_of_mem _ member)]
    rfl

/-- Base values set by the first record alone are those of every record. -/
theorem resolve_cons_of_plain (base : Base ν τ υ) (record : Record ν τ υ α)
    {records : List (Record ν τ υ α)} (plain : ∀ record ∈ records, record.Plain) :
    resolve base (record :: records) =
      (record :: records).map (Record.entry (base.override record)) := by
  rw [resolve, resolve_of_plain _ plain]
  rfl

end BaseFields

end Foundation
