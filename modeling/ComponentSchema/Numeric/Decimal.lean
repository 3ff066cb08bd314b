import ComponentSchema.Numeric.Binary64

/-!
The shortest decimal of a binary64 number, and how decimals are laid out as text.

Of the decimals that read back as the number, `Decimal.shortest` takes one with the fewest digits,
and of those the nearest. `Decimal.Layout` says where positional notation ends.
-/

set_option autoImplicit false

namespace ComponentSchema

structure Decimal where
  digits : Nat
  exponent : Int
  deriving DecidableEq, Inhabited

namespace Decimal

def digitsOf (n : Nat) : List Char :=
  Nat.toDigits 10 n

def trimmed : (limit : Nat) → Decimal → Decimal
  | 0, d => d
  | limit + 1, d =>
    if d.digits ≠ 0 ∧ d.digits % 10 = 0 then trimmed limit ⟨d.digits / 10, d.exponent + 1⟩ else d

/-- The power of ten of the leading digit of `num / den`, for a quotient of at least
`10 ^ -limit`. -/
def leadingPower (limit num den : Nat) : Int :=
  if den ≤ num then (digitsOf (num / den)).length - 1
  else
    match (List.range limit).find? fun k => den ≤ num * Nat.pow 10 (k + 1) with
    | some k => -((k : Int) + 1)
    | none => -(limit : Int)

structure Neighbourhood where
  low : Nat
  centre : Nat
  high : Nat
  closed : Bool

/-- The numbers nearer to `x` than to any other binary64 number, in units of `2 ^ -1076`. The gap
below a power of two is half the gap above it; an even significand wins the ends. -/
def Neighbourhood.of (x : Binary64) : Neighbourhood :=
  let step := Nat.pow 2 x.unit
  let below := if x.significand = Nat.pow 2 52 ∧ 0 < x.unit then step else 2 * step
  { low := 4 * x.scaled - below
    centre := 4 * x.scaled
    high := 4 * x.scaled + 2 * step
    closed := x.significand % 2 == 0 }

def Neighbourhood.holds (n : Neighbourhood) (num den : Nat) : Bool :=
  if n.closed then n.low * den ≤ num && num ≤ n.high * den
  else n.low * den < num && num < n.high * den

/-- The decimal with the given last place that reads back as the number, if either neighbour of the
number on that grid does: the nearer one, the even one of two equally near. -/
def onGrid (n : Neighbourhood) (place : Int) : Option Decimal :=
  let quarters := 4 * Binary64.one
  -- one grid step is `num / den` quarter units
  let num := if 0 ≤ place then quarters * Nat.pow 10 place.toNat else quarters
  let den := if 0 ≤ place then 1 else Nat.pow 10 (-place).toNat
  let floor := n.centre * den / num
  let lower := n.holds (floor * num) den
  let upper := n.holds ((floor + 1) * num) den
  let twice := 2 * (n.centre * den - floor * num)
  let up := num < twice || (twice == num && floor % 2 == 1)
  match lower, upper with
  | true, true => some ⟨if up then floor + 1 else floor, place⟩
  | true, false => some ⟨floor, place⟩
  | false, true => some ⟨floor + 1, place⟩
  | false, false => none

/-- The shortest decimal that reads back as the magnitude of `x`; seventeen digits always do. -/
def shortest (x : Binary64) : Decimal :=
  if x.isZero then ⟨0, 0⟩
  else
    let n := Neighbourhood.of x
    let lead := leadingPower 400 x.scaled Binary64.one
    match (List.range 17).findSome? fun (k : Nat) => onGrid n (lead - k) with
    | some d => trimmed 20 d
    | none => ⟨0, 0⟩

structure Layout where
  least : Option Int
  greatest : Option Int

/-- JSON text is positional from `10 ^ -5` up to, but not including, `10 ^ 16`. -/
def Layout.json : Layout := ⟨some (-5), some 15⟩

def Layout.positional : Layout := ⟨none, none⟩

def Layout.isPositional (layout : Layout) (power : Int) : Bool :=
  layout.least.all (· ≤ power) && layout.greatest.all (power ≤ ·)

def positional (digits : List Char) (exponent : Int) : List Char :=
  if 0 ≤ exponent then
    digits ++ List.replicate exponent.toNat '0' ++ ['.', '0']
  else
    let places := (-exponent).toNat
    if places < digits.length then
      digits.take (digits.length - places) ++ '.' :: digits.drop (digits.length - places)
    else
      '0' :: '.' :: (List.replicate (places - digits.length) '0' ++ digits)

def scientific (digits : List Char) (power : Int) : List Char :=
  let mantissa :=
    match digits with
    | first :: second :: rest => first :: '.' :: second :: rest
    | short => short
  mantissa ++ 'e' :: (if power < 0 then '-' else '+') :: digitsOf power.natAbs

def write (layout : Layout) (x : Binary64) : String :=
  let d := shortest x
  let digits := digitsOf d.digits
  let power := d.exponent + digits.length - 1
  let body :=
    if layout.isPositional power then positional digits d.exponent else scientific digits power
  String.ofList (if x.negative then '-' :: body else body)

end Decimal

end ComponentSchema
