import Mathlib.Algebra.Order.Field.Rat
import Mathlib.Tactic.FieldSimp
import Mathlib.Tactic.Ring
import ComponentSchema.Json.Number

/-! The exact value of a number, whatever its representation, and the safe integers among them. -/

set_option autoImplicit false

namespace ComponentSchema.Json.Number

def value : Number → ℚ
  | .unsigned n => n.toNat
  | .signed n => n.toInt
  | .float x => (if x.negative then -1 else 1) * (x.scaled / Binary64.one)

/-- A whole number of magnitude at most `2 ^ 53 - 1`. -/
def SafeInteger (n : Number) : Prop :=
  ∃ k : ℤ, n.value = k ∧ -(2 ^ 53 - 1) ≤ k ∧ k ≤ 2 ^ 53 - 1

theorem maxSafeInteger_eq : maxSafeInteger = 2 ^ 53 - 1 := rfl

theorem isSafeFloat_iff (x : Binary64) :
    isSafeFloat x = true ↔ ∃ q : ℕ, x.scaled = q * Binary64.one ∧ q ≤ 2 ^ 53 - 1 := by
  rw [isSafeFloat, Bool.and_eq_true, Binary64.isWhole_iff, decide_eq_true_iff]
  constructor
  · rintro ⟨⟨q, split⟩, bound⟩
    rw [Nat.mul_comm] at split
    rw [split] at bound
    have small : q ≤ maxSafeInteger := Nat.le_of_mul_le_mul_right bound Binary64.one_pos
    exact ⟨q, split, small⟩
  · rintro ⟨q, split, bound⟩
    rw [split]
    exact ⟨Nat.dvd_mul_left _ _, Nat.mul_le_mul_right _ bound⟩

theorem value_float_eq_iff {x : Binary64} {k : ℤ} :
    value (.float x) = k ↔ (if x.negative then -1 else 1) * (x.scaled : ℤ) = k * Binary64.one := by
  have positive := Binary64.one_pos
  rw [value]
  generalize Binary64.one = unit at positive ⊢
  rw [mul_div_assoc', div_eq_iff (Nat.cast_ne_zero.2 positive.ne')]
  split <;> norm_cast

theorem isSafeInteger_iff (n : Number) : n.isSafeInteger = true ↔ n.SafeInteger := by
  cases n with
  | unsigned n =>
    rw [isSafeInteger, decide_eq_true_iff]
    simp only [maxSafeInteger_eq, SafeInteger, value]
    constructor
    · intro bound
      exact ⟨n.toNat, by norm_cast, by omega, by omega⟩
    · rintro ⟨k, same, low, high⟩
      have same : (n.toNat : ℤ) = k := by exact_mod_cast same
      omega
  | signed n =>
    rw [isSafeInteger, decide_eq_true_iff]
    simp only [maxSafeInteger_eq, SafeInteger, value]
    constructor
    · intro bound
      exact ⟨n.toInt, rfl, by omega, by omega⟩
    · rintro ⟨k, same, low, high⟩
      have same : n.toInt = k := by exact_mod_cast same
      omega
  | float x =>
    rw [isSafeInteger, isSafeFloat_iff]
    simp only [SafeInteger, value_float_eq_iff]
    generalize Binary64.one = unit
    constructor
    · rintro ⟨q, whole, bound⟩
      refine ⟨(if x.negative then -1 else 1) * q, ?_, ?_⟩
      · rw [whole]
        push_cast
        ring
      · split <;> omega
    · rintro ⟨k, same, low, high⟩
      refine ⟨k.natAbs, ?_, by omega⟩
      have magnitude := congrArg Int.natAbs same
      rw [Int.natAbs_mul, Int.natAbs_mul, Int.natAbs_natCast, Int.natAbs_natCast] at magnitude
      have unit : (if x.negative then (-1 : ℤ) else 1).natAbs = 1 := by split <;> rfl
      rwa [unit, Nat.one_mul] at magnitude

end ComponentSchema.Json.Number
