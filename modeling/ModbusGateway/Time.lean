import Mathlib.Algebra.Group.Nat.Defs
import Mathlib.Tactic.TypeStar

/-!
# Durations and instants

`Duration` counts whole nanoseconds and carries the bound that `u64` seconds
put on it, and `Instant` is a point on the monotonic clock, which has a latest
one. An operation that would leave the range panics in the source; here it has
no result.
-/
namespace ModbusGateway

structure Duration where
  nanos : Nat
  bounded : nanos < 2 ^ 64 * 10 ^ 9
  deriving DecidableEq

namespace Duration

/-- The whole seconds. -/
def asSecs (d : Duration) : UInt64 := UInt64.ofNat (d.nanos / 10 ^ 9)

theorem toNat_asSecs (d : Duration) : d.asSecs.toNat = d.nanos / 10 ^ 9 := by
  have := d.bounded
  rw [asSecs, UInt64.toNat_ofNat_of_lt']
  simp only [UInt64.size]
  omega

def fromSecs (secs : UInt64) : Duration :=
  ⟨secs.toNat * 10 ^ 9, by have := secs.toNat_lt; omega⟩

def fromMillis (millis : UInt64) : Duration :=
  ⟨millis.toNat * 10 ^ 6, by have := millis.toNat_lt; omega⟩

@[simp] theorem nanos_fromSecs (secs : UInt64) :
    (fromSecs secs).nanos = secs.toNat * 10 ^ 9 := rfl

@[simp] theorem asSecs_fromSecs (secs : UInt64) : (fromSecs secs).asSecs = secs := by
  apply UInt64.toNat_inj.mp
  rw [toNat_asSecs, nanos_fromSecs]
  omega

/-- Subtraction, undefined below zero. -/
def sub? (a b : Duration) : Option Duration :=
  if b.nanos ≤ a.nanos then some ⟨a.nanos - b.nanos, by have := a.bounded; omega⟩ else none

/-- Multiplication, undefined past the `u64` seconds. -/
def mul? (a : Duration) (k : Nat) : Option Duration :=
  if fits : a.nanos * k < 2 ^ 64 * 10 ^ 9 then some ⟨a.nanos * k, fits⟩ else none

def min (a b : Duration) : Duration := if a.nanos ≤ b.nanos then a else b

end Duration

/-- A reading of the monotonic clock, in nanoseconds. -/
structure Instant where
  nanos : Nat
  deriving DecidableEq

namespace Instant

/-- The last one that has a representation: the seconds are an `i64`. -/
def latest : Instant := ⟨2 ^ 63 * 10 ^ 9 - 1⟩

/-- Where addition leads on a clock without end. -/
def add (t : Instant) (d : Duration) : Instant := ⟨t.nanos + d.nanos⟩

@[simp] theorem nanos_add (t : Instant) (d : Duration) :
    (t.add d).nanos = t.nanos + d.nanos := rfl

/-- Adding up to the latest instant the clock can represent. -/
def add? (latest : Instant) (t : Instant) (d : Duration) : Option Instant :=
  if (t.add d).nanos ≤ latest.nanos then some (t.add d) else none

theorem add?_eq_some {latest t : Instant} {d : Duration}
    (fits : t.nanos + d.nanos ≤ latest.nanos) : add? latest t d = some (t.add d) :=
  if_pos fits

theorem add?_eq_some_iff {latest t t' : Instant} {d : Duration} :
    add? latest t d = some t' ↔ t.nanos + d.nanos ≤ latest.nanos ∧ t.add d = t' := by
  rw [add?, Option.ite_none_right_eq_some, Option.some.injEq, nanos_add]

theorem nanos_of_add? {latest t t' : Instant} {d : Duration}
    (sum : add? latest t d = some t') : t'.nanos = t.nanos + d.nanos := by
  obtain ⟨_, rfl⟩ := add?_eq_some_iff.mp sum
  rfl

/-- Where a sum has a representation, every smaller one has. -/
theorem isSome_add?_of_le {latest t t' : Instant} {d : Duration} (earlier : t.nanos ≤ t'.nanos)
    (room : (add? latest t' d).isSome) : (add? latest t d).isSome := by
  obtain ⟨sum, found⟩ := Option.isSome_iff_exists.mp room
  have fits := (add?_eq_some_iff.mp found).1
  rw [add?_eq_some (by omega), Option.isSome_some]

end Instant

end ModbusGateway
