import ComponentSchema.Numeric.Decimal
import ComponentSchema.Form
import ComponentSchema.Yaml.Token

/-!
What the text of a scalar stands for.

A plain scalar without a tag is nothing, a truth value, an integer, a float or a text, in this order
of preference. A tag of the core schema asks for one of them.
-/

set_option autoImplicit false

namespace ComponentSchema.Yaml

/-- What a scalar stands for. A float that is not finite keeps its sign or is no number. -/
inductive Scalar where
  | null
  | boolean (b : Bool)
  | integer (n : Int)
  | float (x : Binary64)
  | infinite (negative : Bool)
  | notANumber
  | text (s : String)
  deriving DecidableEq

namespace Scalar

def isNull (s : String) : Bool :=
  ["null", "Null", "NULL", "~"].contains s

def boolean? (s : String) : Option Bool :=
  if ["true", "True", "TRUE"].contains s then some true
  else if ["false", "False", "FALSE"].contains s then some false
  else none

/-- Whether the text is an integer with zeros in front, which is read as a text. -/
def isPaddedInteger (s : String) : Bool :=
  let digits := match s.toList with
    | '-' :: rest => rest
    | '+' :: rest => rest
    | digits => digits
  1 < digits.length && digits.head? = some '0' && digits.all Char.isDigit

def digitValue? (base : Nat) (c : Char) : Option Nat :=
  let value? : Option Nat :=
    if c.isDigit then some (c.toNat - '0'.toNat)
    else if 'a' ≤ c ∧ c ≤ 'z' then some (c.toNat - 'a'.toNat + 10)
    else if 'A' ≤ c ∧ c ≤ 'Z' then some (c.toNat - 'A'.toNat + 10)
    else none
  value?.filter (· < base)

def natural? (base : Nat) (digits : List Char) : Option Nat :=
  if digits.isEmpty then none
  else digits.foldlM (fun n c => (n * base + ·) <$> digitValue? base c) 0

/-- The magnitude of an integer without sign: hexadecimal, octal or binary after a mark of the base,
and otherwise decimal. -/
def magnitude? : List Char → Option Nat
  | '0' :: 'x' :: digits => natural? 16 digits
  | '0' :: 'o' :: digits => natural? 8 digits
  | '0' :: 'b' :: digits => natural? 2 digits
  | digits => natural? 10 digits

/-- The integers that are read as such: those of 128 bits, with or without a sign. -/
def isWide (n : Int) : Bool :=
  -(Nat.pow 2 127 : Int) ≤ n && n < Nat.pow 2 128

def integer? (s : String) : Option Int :=
  let value? : Option Int :=
    match s.toList with
    | '+' :: digits => (magnitude? digits).map Int.ofNat
    | '-' :: digits => (magnitude? digits).map fun n => -(n : Int)
    | digits => (magnitude? digits).map Int.ofNat
  if isPaddedInteger s then none else value?.filter isWide

/-- The greatest exponent that is computed with; the text of a greater one still is a float. -/
def maxExponent : Nat := Nat.pow 10 9

/-- A decimal with an optional point and exponent; at least one digit stands before or after the
point. The number nearest to it, unless that is infinite. -/
def decimal? (negative : Bool) (chars : List Char) : Option Binary64 := do
  let whole := chars.takeWhile Char.isDigit
  let (fraction, rest) :=
    match chars.dropWhile Char.isDigit with
    | '.' :: rest => (rest.takeWhile Char.isDigit, rest.dropWhile Char.isDigit)
    | rest => ([], rest)
  let digits ← natural? 10 (whole ++ fraction)
  let power : Int ←
    match rest with
    | [] => some 0
    | c :: rest =>
      if c = 'e' ∨ c = 'E' then
        match rest with
        | '-' :: power => (natural? 10 power).map fun n => -(min n maxExponent : Nat)
        | '+' :: power => (natural? 10 power).map fun n => (min n maxExponent : Nat)
        | power => (natural? 10 power).map fun n => (min n maxExponent : Nat)
      else none
  Binary64.ofDecimal? negative digits (power - fraction.length)

def float? (s : String) : Option Scalar :=
  if [".inf", ".Inf", ".INF", "+.inf", "+.Inf", "+.INF"].contains s then some (.infinite false)
  else if ["-.inf", "-.Inf", "-.INF"].contains s then some (.infinite true)
  else if [".nan", ".NaN", ".NAN"].contains s then some .notANumber
  else
    match s.toList with
    | '+' :: chars => (decimal? false chars).map .float
    | '-' :: chars => (decimal? true chars).map .float
    | chars => (decimal? false chars).map .float

def ofPlain (s : String) : Scalar :=
  if s.isEmpty || isNull s then .null
  else
    match boolean? s, integer? s with
    | some b, _ => .boolean b
    | none, some n => .integer n
    | none, none => if isPaddedInteger s then .text s else (float? s).getD (.text s)

def coreTag (name : String) : String := "tag:yaml.org,2002:" ++ name

/-- What a scalar stands for. A tag that asks for what the text is not is a mismatch; a tag of no
meaning here makes the scalar a text. -/
def resolve (s : String) (style : ScalarStyle) (tag : Option String) : Except Mismatch Scalar :=
  match tag with
  | none => .ok (if style = .plain then ofPlain s else .text s)
  | some tag =>
    if tag = coreTag "bool" then
      match boolean? s with
      | some b => .ok (.boolean b)
      | none => .error (.wrongText s .flag)
    else if tag = coreTag "int" then
      match integer? s with
      | some n => .ok (.integer n)
      | none => .error (.wrongText s .integer)
    else if tag = coreTag "float" then
      match float? s with
      | some x => .ok x
      | none => .error (.wrongText s .float)
    else if tag = coreTag "null" then
      if isNull s then .ok .null else .error (.wrongText s .null)
    else if tag.startsWith "!" && style = .plain then .ok (ofPlain s)
    else .ok (.text s)

def fits (n : Int) : Bool :=
  -(Nat.pow 2 63 : Int) ≤ n && n < Nat.pow 2 64

def found : Scalar → Found
  | .null => .blank
  | .boolean b => .boolean b
  | .integer n => if fits n then .integer (toString n) else .wide (toString n)
  | .float x => .float (Decimal.write .positional x)
  | .infinite negative => .float (if negative then "-inf" else "inf")
  | .notANumber => .float "NaN"
  | .text s => .text s

end Scalar

end ComponentSchema.Yaml
