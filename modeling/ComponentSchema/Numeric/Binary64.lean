/-!
Finite IEEE 754 binary64 numbers, held exactly.

A number is `± significand · 2 ^ unit / 2 ^ 1074`. All arithmetic happens in `Nat` on that form, so
the value of a number is a term that a proof can compute with. Powers are `Nat.pow` itself, so that
they mean the same beside any algebra.
-/

set_option autoImplicit false

namespace ComponentSchema

/-- A finite binary64 number. Zero keeps its sign; above the subnormal range the leading bit is
set. -/
structure Binary64 where
  negative : Bool
  significand : Nat
  unit : Nat
  significand_lt : significand < Nat.pow 2 53
  leading_bit : Nat.pow 2 52 ≤ significand ∨ unit = 0
  unit_le : unit ≤ 2045
  deriving DecidableEq

namespace Binary64

/-- The magnitude in units of `2 ^ -1074`, the least positive number. -/
def scaled (x : Binary64) : Nat :=
  x.significand * Nat.pow 2 x.unit

def one : Nat := Nat.pow 2 1074

def zero (negative : Bool) : Binary64 :=
  ⟨negative, 0, 0, by decide, .inr rfl, by decide⟩

instance : Inhabited Binary64 := ⟨zero false⟩

def neg (x : Binary64) : Binary64 :=
  { x with negative := !x.negative }

def isZero (x : Binary64) : Bool :=
  x.significand == 0

/-- The quotient rounded to the nearest natural number, a half to the even neighbour. -/
def nearestEven (num den : Nat) : Nat :=
  let quotient := num / den
  let twice := 2 * (num % den)
  if twice < den then quotient
  else if den < twice then quotient + 1
  else quotient + quotient % 2

def ofParts? (negative : Bool) (significand unit : Nat) : Option Binary64 :=
  if h : significand < Nat.pow 2 53 ∧ (Nat.pow 2 52 ≤ significand ∨ unit = 0) ∧ unit ≤ 2045 then
    some ⟨negative, significand, unit, h.1, h.2.1, h.2.2⟩
  else
    none

/-- The number nearest to `± num / den`, ties to even; `none` when it would be infinite. -/
def ofRatio? (negative : Bool) (num den : Nat) : Option Binary64 :=
  let units := num * one
  let whole := units / den
  let unit := if whole < Nat.pow 2 53 then 0 else whole.log2 - 52
  let rounded := nearestEven units (den * Nat.pow 2 unit)
  if rounded = Nat.pow 2 53 then ofParts? negative (Nat.pow 2 52) (unit + 1)
  else ofParts? negative rounded unit

def ofNat? (n : Nat) : Option Binary64 :=
  ofRatio? false n 1

def mul? (x y : Binary64) : Option Binary64 :=
  ofRatio? (x.negative != y.negative) (x.scaled * y.scaled) (one * one)

def div? (x y : Binary64) : Option Binary64 :=
  ofRatio? (x.negative != y.negative) x.scaled y.scaled

def powerOfTen? (k : Nat) : Option Binary64 :=
  ofRatio? false (Nat.pow 10 k) 1

/-- The number nearest to `± digits · 10 ^ exponent`; `none` when it would be infinite. Far outside
the range the answer is known from the number of digits alone, so no large power is computed. -/
def ofDecimal? (negative : Bool) (digits : Nat) (exponent : Int) : Option Binary64 :=
  let magnitude := (Nat.toDigits 10 digits).length + exponent
  if digits = 0 ∨ magnitude < -400 then some (zero negative)
  else if 400 < magnitude then none
  else if 0 ≤ exponent then ofRatio? negative (digits * Nat.pow 10 exponent.toNat) 1
  else ofRatio? negative digits (Nat.pow 10 (-exponent).toNat)

def isWhole (x : Binary64) : Bool :=
  if 1074 ≤ x.unit then true else x.significand % Nat.pow 2 (1074 - x.unit) == 0

@[simp] theorem scaled_neg (x : Binary64) : x.neg.scaled = x.scaled := rfl

@[simp] theorem isWhole_neg (x : Binary64) : x.neg.isWhole = x.isWhole := rfl

theorem scaled_zero (negative : Bool) : (zero negative).scaled = 0 := by
  simp [scaled, zero]

theorem one_pos : 0 < one := by
  unfold one
  generalize 1074 = bias
  exact Nat.two_pow_pos bias

theorem isWhole_iff (x : Binary64) : x.isWhole = true ↔ one ∣ x.scaled := by
  unfold isWhole one scaled
  generalize 1074 = bias
  simp only [Nat.pow_eq]
  by_cases large : bias ≤ x.unit
  · rw [if_pos large]
    exact iff_of_true rfl (Nat.dvd_mul_left_of_dvd (Nat.pow_dvd_pow 2 large) _)
  · have split : 2 ^ bias = 2 ^ (bias - x.unit) * 2 ^ x.unit := by
      rw [← Nat.pow_add, Nat.sub_add_cancel (Nat.le_of_not_le large)]
    rw [if_neg large, beq_iff_eq, ← Nat.dvd_iff_mod_eq_zero, split,
      Nat.mul_dvd_mul_iff_right (Nat.two_pow_pos x.unit)]

end Binary64

end ComponentSchema
