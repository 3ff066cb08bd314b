import ComponentSchema.Numeric.Decimal

/-!
JSON numbers, kept in the representation they were read in.

Two numbers may hold the same value in different representations, such as `3` and `3.0`.
`Number.isSafeInteger` treats such numbers alike.
-/

set_option autoImplicit false

namespace ComponentSchema.Json

/-- A 64-bit integer without or with a sign, or a finite binary64 number. -/
inductive Number where
  | unsigned (n : UInt64)
  | signed (n : Int64)
  | float (x : Binary64)
  deriving DecidableEq, Inhabited

namespace Number

def ofNat (n : Nat) : Number :=
  .unsigned (UInt64.ofNat n)

/-- Integers in plain decimal; floats by their shortest decimal, always with a point or a power. -/
def text : Number → String
  | .unsigned n => toString n.toNat
  | .signed n => toString n.toInt
  | .float x => Decimal.write .json x

/-- The greatest integer below which every integer is a binary64 number of its own, `2 ^ 53 - 1`. -/
def maxSafeInteger : Nat := Nat.pow 2 53 - 1

def isSafeFloat (x : Binary64) : Bool :=
  x.isWhole && x.scaled ≤ maxSafeInteger * Binary64.one

def isSafeInteger : Number → Bool
  | .unsigned n => n.toNat ≤ maxSafeInteger
  | .signed n => n.toInt.natAbs ≤ maxSafeInteger
  | .float x => isSafeFloat x

end Number

end ComponentSchema.Json
