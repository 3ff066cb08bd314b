import ComponentSchema.Checking
import ComponentSchema.Proofs.ExactValue

/-! Integer leaves decide by the exact value of a number. A cascade of conversions to machine
representations, each compared with the limit in its own representation, decides the same. -/

set_option autoImplicit false

namespace ComponentSchema

def Binary64.ofInt? (k : Int) : Option Binary64 :=
  ofRatio? (k < 0) k.natAbs 1

namespace Json.Number

def toInt64? : Number → Option Int64
  | .unsigned n => if n.toNat < 2 ^ 63 then some n.toInt64 else none
  | .signed n => some n
  | .float _ => none

def toUInt64? : Number → Option UInt64
  | .unsigned n => some n
  | .signed n => if 0 ≤ n then some n.toUInt64 else none
  | .float _ => none

/-- The number as a float, rounded where it has to be. -/
def toBinary64? : Number → Option Binary64
  | .unsigned n => Binary64.ofInt? n.toNat
  | .signed n => Binary64.ofInt? n.toInt
  | .float x => some x

def limit : Int64 := ((1 : Int64) <<< 53) - 1

/-- Whether the number is a safe integer in the first representation that holds it. -/
def isSafeConverted (n : Number) : Bool :=
  match n.toInt64? with
  | some i => -limit ≤ i && i ≤ limit
  | none =>
    match n.toUInt64? with
    | some u => u ≤ limit.toUInt64
    | none =>
      n.toBinary64?.any fun x =>
        x.isWhole && (Binary64.ofInt? limit.toInt).any fun bound => x.scaled ≤ bound.scaled

theorem toInt_limit : limit.toInt = 2 ^ 53 - 1 := by decide +kernel

theorem toNat_toUInt64_limit : limit.toUInt64.toNat = 2 ^ 53 - 1 := by decide +kernel

def floatLimit : Binary64 :=
  ⟨false, maxSafeInteger, 1074, by decide, by decide, by decide⟩

theorem ofInt?_limit : Binary64.ofInt? limit.toInt = some floatLimit := by
  decide +kernel

theorem scaled_floatLimit : floatLimit.scaled = maxSafeInteger * Binary64.one := by
  decide +kernel

theorem toInt_toInt64 {n : UInt64} (small : n.toNat < 2 ^ 63) : n.toInt64.toInt = n.toNat := by
  rw [← Int64.toInt_toBitVec, UInt64.toBitVec_toInt64, BitVec.toInt_eq_toNat_of_lt]
  · rfl
  · change 2 * n.toNat < 2 ^ 64
    omega

theorem between_limits_eq {i : Int64} :
    (-limit ≤ i && i ≤ limit) = decide (i.toInt.natAbs ≤ maxSafeInteger) := by
  have low : (-limit).toInt = -(2 ^ 53 - 1) := by decide +kernel
  rw [Bool.eq_iff_iff, Bool.and_eq_true, decide_eq_true_iff, decide_eq_true_iff, decide_eq_true_iff,
    Int64.le_iff_toInt_le, Int64.le_iff_toInt_le, low, toInt_limit, maxSafeInteger_eq]
  omega

theorem isSafeConverted_eq (n : Number) : n.isSafeConverted = n.isSafeInteger := by
  cases n with
  | unsigned n =>
    by_cases small : n.toNat < 2 ^ 63
    · simp only [isSafeConverted, toInt64?, if_pos small, between_limits_eq, toInt_toInt64 small,
        Int.natAbs_natCast, isSafeInteger]
    · simp only [isSafeConverted, toInt64?, if_neg small, toUInt64?, isSafeInteger]
      rw [decide_eq_decide, UInt64.le_iff_toNat_le, toNat_toUInt64_limit, maxSafeInteger_eq]
  | signed n => exact between_limits_eq
  | float x =>
    simp only [isSafeConverted, toInt64?, toUInt64?, toBinary64?, ofInt?_limit, Option.any_some,
      scaled_floatLimit, isSafeInteger, isSafeFloat]

end Json.Number

open Json (Number)

theorem integer_accepts_iff {n : Number} :
    LeafKind.integer.accepts (.number n) = true ↔ n.SafeInteger :=
  n.isSafeInteger_iff

/-- An integer leaf accepts a number exactly if its value is a whole number of magnitude at most
`2 ^ 53 - 1`, so representations of one value are treated alike, and no conversion to a machine
representation changes the verdict. -/
theorem integer_decided_by_value (n : Number) :
    (LeafKind.integer.accepts (.number n) = true ↔
      ∃ k : ℤ, n.value = k ∧ -(2 ^ 53 - 1) ≤ k ∧ k ≤ 2 ^ 53 - 1) ∧
    (∀ m : Number, m.value = n.value →
      LeafKind.integer.accepts (.number m) = LeafKind.integer.accepts (.number n)) ∧
    n.isSafeConverted = LeafKind.integer.accepts (.number n) := by
  refine ⟨integer_accepts_iff, ?_, n.isSafeConverted_eq⟩
  intro m same
  rw [Bool.eq_iff_iff, integer_accepts_iff, integer_accepts_iff, Number.SafeInteger, same]
  exact Iff.rfl

def floatThree : Binary64 :=
  ⟨false, 3 * 2 ^ 51, 1023, by decide, by decide, by decide⟩

theorem integer_decided_by_value_three :
    (Number.float floatThree).value = (Number.unsigned 3).value ∧
    LeafKind.integer.accepts (.number (.float floatThree)) =
      LeafKind.integer.accepts (.number (.unsigned 3)) ∧
    (Number.float (.zero true)).value = (Number.unsigned 0).value ∧
    LeafKind.integer.accepts (.number (.float (.zero true))) =
      LeafKind.integer.accepts (.number (.unsigned 0)) := by
  have three : (Number.float floatThree).value = (Number.unsigned 3).value :=
    Number.value_float_eq_iff (k := 3).2 (by decide +kernel)
  have zero : (Number.float (.zero true)).value = (Number.unsigned 0).value :=
    Number.value_float_eq_iff (k := 0).2 (by decide +kernel)
  exact ⟨three, (integer_decided_by_value _).2.1 _ three, zero,
    (integer_decided_by_value _).2.1 _ zero⟩

end ComponentSchema
