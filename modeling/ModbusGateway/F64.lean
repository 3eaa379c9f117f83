import Mathlib.Algebra.Order.Field.Basic
import Mathlib.Algebra.Order.Field.Rat
import Mathlib.Algebra.Order.Group.Unbundled.Abs
import Mathlib.Algebra.Order.Ring.Cast
import Mathlib.Data.Int.Cast.Lemmas
import Mathlib.Data.List.Basic
import Mathlib.Data.List.Induction

/-!
# The gateway's floating-point numbers

`f64` is a finite number or one of the IEEE 754 markers. Within the range of the
format results are exact: neither rounding nor the sign of zero is modelled. A
result beyond the range is an infinity, and the markers propagate as IEEE 754
prescribes.
-/
namespace ModbusGateway

inductive F64 where
  | finite (q : ℚ)
  | inf (negative : Bool)
  | nan
  deriving DecidableEq

namespace F64

/-- `f64::INFINITY` and `f64::NEG_INFINITY`. -/
def infinity : F64 := .inf false
def negInfinity : F64 := .inf true

/-- Half a unit in the last place beyond `f64::MAX`: what gets this far is rounded to an
infinity. -/
def overflow : ℚ := (2 ^ 1024 - 2 ^ 970 : ℕ)

/-- The result of an operation whose exact value is `q`. -/
def ofRat (q : ℚ) : F64 := if |q| < overflow then finite q else inf (decide (q < 0))

/-- `as f64` on an integer; no integer type of the source reaches the end of the range. -/
def ofInt (z : ℤ) : F64 := .finite z

def isFinite : F64 → Bool
  | finite _ => true
  | _ => false

def add : F64 → F64 → F64
  | finite a, finite b => ofRat (a + b)
  | inf s, inf t => if s = t then inf s else nan
  | inf s, finite _ => inf s
  | finite _, inf t => inf t
  | nan, _ => nan
  | _, nan => nan

def mul : F64 → F64 → F64
  | finite a, finite b => ofRat (a * b)
  | inf s, inf t => inf (s != t)
  | inf s, finite b => if b = 0 then nan else inf (s != decide (b < 0))
  | finite a, inf t => if a = 0 then nan else inf (decide (a < 0) != t)
  | nan, _ => nan
  | _, nan => nan

def div : F64 → F64 → F64
  | finite a, finite b =>
    -- By a zero without a sign, read as positive.
    if b = 0 then (if a = 0 then nan else inf (decide (a < 0))) else ofRat (a / b)
  | inf s, finite b => inf (s != decide (b < 0))
  | finite _, inf _ => finite 0
  | inf _, inf _ => nan
  | nan, _ => nan
  | _, nan => nan

def abs : F64 → F64
  | finite a => finite |a|
  | inf _ => inf false
  | nan => nan

/-- The IEEE order; false as soon as a NaN takes part. -/
def less : F64 → F64 → Bool
  | finite a, finite b => decide (a < b)
  | inf s, inf t => s && !t
  | inf s, finite _ => s
  | finite _, inf t => !t
  | nan, _ => false
  | _, nan => false

/-- `f64::min` and `f64::max` return the other argument when one is NaN. -/
def min : F64 → F64 → F64
  | nan, b => b
  | a, nan => a
  | a, b => if less b a then b else a

def max : F64 → F64 → F64
  | nan, b => b
  | a, nan => a
  | a, b => if less a b then b else a

/-- `f32::from_bits(bits) as f64`: sign, eight exponent bits, 23 fraction bits. -/
def ofF32Bits (bits : UInt32) : F64 :=
  let negative := decide (2 ^ 31 ≤ bits.toNat)
  let exponent := bits.toNat / 2 ^ 23 % 2 ^ 8
  let fraction := bits.toNat % 2 ^ 23
  let sign : ℚ := if negative then -1 else 1
  if exponent = 255 then
    if fraction = 0 then inf negative else nan
  else if exponent = 0 then
    -- Subnormal: no implicit leading bit.
    finite (sign * (fraction : ℕ) / 2 ^ 149)
  else
    finite (sign * (2 ^ 23 + fraction : ℕ) * 2 ^ exponent / 2 ^ 150)

instance : Zero F64 := ⟨finite 0⟩
instance : Add F64 := ⟨add⟩
instance : Mul F64 := ⟨mul⟩
instance : Div F64 := ⟨div⟩

theorem zero_def : (0 : F64) = finite 0 := rfl
theorem add_def (a b : F64) : a + b = add a b := rfl
theorem mul_def (a b : F64) : a * b = mul a b := rfl
theorem div_def (a b : F64) : a / b = div a b := rfl

/-- The sum of a list, taken from the left. -/
def sum (values : List F64) : F64 := values.foldl (· + ·) 0

@[simp] theorem sum_nil : sum [] = 0 := rfl

@[simp] theorem sum_snoc (values : List F64) (value : F64) :
    sum (values ++ [value]) = sum values + value := by
  simp [sum]

/-! ### Where finiteness is lost -/

theorem overflow_pos : 0 < overflow := by decide +kernel

theorem ofRat_of_lt {q : ℚ} (inRange : |q| < overflow) : ofRat q = finite q := if_pos inRange

theorem ofRat_eq_finite_iff {q r : ℚ} : ofRat q = finite r ↔ q = r ∧ |q| < overflow := by
  unfold ofRat
  split_ifs with inRange <;> simp [inRange]

theorem isFinite_iff {a : F64} : a.isFinite = true ↔ ∃ q, a = finite q := by
  cases a <;> simp [isFinite]

/-- A product is a number when its factors are and it is within the range. -/
theorem mul_eq_finite_iff {a b : F64} {r : ℚ} :
    a * b = finite r ↔ ∃ p q, a = finite p ∧ b = finite q ∧ p * q = r ∧ |p * q| < overflow := by
  rcases a with a | a | _ <;> rcases b with b | b | _ <;>
    simp only [mul_def, mul, ofRat_eq_finite_iff, reduceCtorEq, false_and, exists_false,
      finite.injEq, exists_and_left, exists_eq_left', and_false]
  · by_cases zero : a = 0 <;> simp [zero]
  · by_cases zero : b = 0 <;> simp [zero]

theorem add_eq_finite_iff {a b : F64} {r : ℚ} :
    a + b = finite r ↔ ∃ p q, a = finite p ∧ b = finite q ∧ p + q = r ∧ |p + q| < overflow := by
  rcases a with a | a | _ <;> rcases b with b | b | _ <;>
    simp only [add_def, add, ofRat_eq_finite_iff, reduceCtorEq, false_and, exists_false,
      finite.injEq, exists_and_left, exists_eq_left', and_false]
  by_cases same : a = b <;> simp [same]

@[simp] theorem isFinite_abs (a : F64) : a.abs.isFinite = a.isFinite := by
  cases a <;> rfl

@[simp] theorem isFinite_ofInt (z : ℤ) : (ofInt z).isFinite = true := rfl

/-- Dividing by a count stays within the range. -/
theorem finite_div_ofInt {q : ℚ} (inRange : |q| < overflow) {z : ℤ} (nonzero : z ≠ 0) :
    finite q / ofInt z = finite (q / z) := by
  have divisor : (z : ℚ) ≠ 0 := Int.cast_ne_zero.mpr nonzero
  have one_le : 1 ≤ |(z : ℚ)| := by
    rw [← Int.cast_abs]
    exact_mod_cast Int.one_le_abs nonzero
  have smaller : |q / z| < overflow := by
    rw [abs_div]
    exact (div_le_self (abs_nonneg q) one_le).trans_lt inRange
  simp only [div_def, div, ofInt, if_neg divisor, ofRat_of_lt smaller]

theorem isFinite_div_ofInt_of_not {a : F64} (notFinite : a.isFinite = false) (z : ℤ) :
    (a / ofInt z).isFinite = false := by
  cases a with
  | finite => cases notFinite
  | inf | nan => rfl

/-! ### Sums of numbers -/

/-- All sums on the way to that of `numbers` are within the range. -/
def InRange (numbers : List ℚ) : Prop :=
  ∀ k ≤ numbers.length, |(numbers.take k).sum| < overflow

instance (numbers : List ℚ) : Decidable (InRange numbers) :=
  inferInstanceAs (Decidable (∀ k ≤ numbers.length, _))

theorem inRange_snoc (numbers : List ℚ) (number : ℚ) :
    InRange (numbers ++ [number]) ↔
      InRange numbers ∧ |(numbers ++ [number]).sum| < overflow := by
  constructor
  · intro inRange
    constructor
    · intro k within
      have earlier := inRange k (within.trans (by simp))
      rwa [List.take_append_of_le_length within] at earlier
    · have whole := inRange _ (le_refl _)
      rwa [List.take_length] at whole
  · rintro ⟨inRange, last⟩ k within
    by_cases earlier : k ≤ numbers.length
    · rw [List.take_append_of_le_length earlier]
      exact inRange k earlier
    · rw [List.take_of_length_le (by simp at within ⊢; omega)]
      exact last

theorem exists_map_finite {values : List F64} (all : ∀ value ∈ values, value.isFinite = true) :
    ∃ numbers : List ℚ, values = numbers.map finite := by
  induction values with
  | nil => exact ⟨[], rfl⟩
  | cons value values ih =>
    obtain ⟨number, rfl⟩ := isFinite_iff.mp (all value List.mem_cons_self)
    obtain ⟨numbers, rfl⟩ := ih fun value member => all value (List.mem_cons_of_mem _ member)
    exact ⟨number :: numbers, rfl⟩

/-- A sum is a number when its terms are and no sum on the way leaves the range. -/
theorem sum_eq_finite_iff {values : List F64} {r : ℚ} :
    sum values = finite r ↔
      ∃ numbers, values = numbers.map finite ∧ InRange numbers ∧ numbers.sum = r := by
  induction values using List.reverseRecOn generalizing r with
  | nil =>
    have empty : InRange [] := fun k _ => by simpa using overflow_pos
    simp [zero_def, empty]
  | append_singleton values value ih =>
    rw [sum_snoc, add_eq_finite_iff]
    constructor
    · rintro ⟨p, q, before, rfl, rfl, inRange⟩
      obtain ⟨numbers, rfl, earlier, rfl⟩ := ih.mp before
      have total : (numbers ++ [q]).sum = numbers.sum + q := by simp
      exact ⟨numbers ++ [q], by simp, (inRange_snoc _ _).mpr ⟨earlier, total ▸ inRange⟩, total⟩
    · rintro ⟨numbers, same, inRange, rfl⟩
      rcases numbers.eq_nil_or_concat' with rfl | ⟨numbers, q, rfl⟩
      · simp at same
      rw [List.map_append, List.map_singleton] at same
      obtain ⟨rfl, last⟩ := List.append_inj' same rfl
      obtain ⟨earlier, whole⟩ := (inRange_snoc _ _).mp inRange
      have total : (numbers ++ [q]).sum = numbers.sum + q := by simp
      exact ⟨numbers.sum, q, ih.mpr ⟨numbers, rfl, earlier, rfl⟩, List.singleton_inj.mp last,
        total.symm, total ▸ whole⟩

theorem InRange.sum_lt {numbers : List ℚ} (inRange : InRange numbers) :
    |numbers.sum| < overflow := by
  simpa using inRange _ (le_refl _)

/-- Exactly the 32-bit patterns with all exponent bits set are no number. -/
theorem isFinite_ofF32Bits (bits : UInt32) :
    (ofF32Bits bits).isFinite = decide (bits.toNat / 2 ^ 23 % 2 ^ 8 ≠ 255) := by
  simp only [ofF32Bits]
  split_ifs <;> simp_all [isFinite]

end F64

end ModbusGateway
