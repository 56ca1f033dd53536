/-!
# Binary floating point numbers

Numbers with a fraction are kept in the 64 bit binary format: a significand below `2^53` times a
power of two, an infinity, or not a number. A decimal is read by rounding its exact value to the
nearest such number, a tie going to the even significand.
-/

namespace LspHost

/-- A number of the 64 bit binary format. -/
inductive Binary64 where
  /-- `significand * 2 ^ exponent`, negated if `negative`; zero has a sign of its own -/
  | finite (negative : Bool) (significand : Nat) (exponent : Int)
  /-- an infinity -/
  | infinite (negative : Bool)
  /-- no number -/
  | nan
  deriving DecidableEq, Repr

namespace Binary64

/-- The least exponent. -/
def minExponent : Int := -1074

/-- The greatest exponent. -/
def maxExponent : Int := 971

/-- The least significand of a number whose exponent is not the least one; twice as much is too
great. -/
def leastNormal : Nat := Nat.pow 2 52

/-- Zero of either sign. -/
def zero (negative : Bool) : Binary64 := .finite negative 0 minExponent

/-- The quotient of two numbers rounded to the nearest integer, a tie going to the even one. -/
def roundQuotient (num den : Nat) : Nat :=
  let quotient := num / den
  let rest := num % den
  if 2 * rest < den then quotient
  else if den < 2 * rest then quotient + 1
  else quotient + quotient % 2

/-- `num / den` divided by `2 ^ exponent`, as a fraction. -/
def overPower (num den : Nat) (exponent : Int) : Nat × Nat :=
  (num * Nat.pow 2 (-exponent).toNat, den * Nat.pow 2 exponent.toNat)

/-- The number nearest to the fraction `num / den`, which is taken as zero if `den` is. -/
def ofRatio (negative : Bool) (num den : Nat) : Binary64 :=
  if num = 0 then zero negative
  else
    let guess : Int := (Nat.log2 num : Int) - (Nat.log2 den : Int) - 52
    let (n, d) := overPower num den guess
    let exponent := max minExponent (if n < d * leastNormal then guess - 1 else guess)
    let (n, d) := overPower num den exponent
    let significand := roundQuotient n d
    let (significand, exponent) :=
      if significand = 2 * leastNormal then (leastNormal, exponent + 1)
      else (significand, exponent)
    if maxExponent < exponent then .infinite negative
    else .finite negative significand exponent

/-- The number nearest to `digits * 10 ^ exponent`. -/
def ofDecimal (negative : Bool) (digits : Nat) (exponent : Int) : Binary64 :=
  let magnitude : Int := (Nat.toDigits 10 digits).length + exponent
  if digits = 0 ∨ magnitude < -400 then zero negative
  else if 400 < magnitude then .infinite negative
  else ofRatio negative (digits * Nat.pow 10 exponent.toNat) (Nat.pow 10 (-exponent).toNat)

/-- A finite number as a multiple of the least positive one. -/
def units? : Binary64 → Option Int
  | .finite negative significand exponent =>
    let size : Int := significand * Nat.pow 2 (exponent - minExponent).toNat
    some (if negative then -size else size)
  | _ => none

/-- An integer as a multiple of the least positive number. -/
def unitsOfInt (n : Int) : Int := n * Nat.pow 2 (-minExponent).toNat

/-- Whether two numbers are equal as numbers: the zeros are, and not-a-number equals nothing. -/
def same : Binary64 → Binary64 → Bool
  | .nan, _ | _, .nan => false
  | .infinite a, .infinite b => a == b
  | .infinite _, .finite .. | .finite .., .infinite _ => false
  | a@(.finite ..), b@(.finite ..) => a.units? == b.units?

/-- Whether a number equals an integer. -/
def sameInt (a : Binary64) (n : Int) : Bool :=
  a.units? == some (unitsOfInt n)

/-- Whether a number is a zero. -/
def isZero : Binary64 → Bool
  | .finite _ significand _ => significand == 0
  | _ => false

end Binary64

end LspHost
