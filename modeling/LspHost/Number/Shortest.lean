import LspHost.Number.Binary64

/-!
# Shortest decimals

A floating point number is written with the fewest digits that read back as the same number and, of
those, the digits nearest to it. For each count of digits only the two neighbours of the number on
the decimal grid of that count can be the answer, so both are tried in exact arithmetic.
-/

namespace LspHost.Binary64

/-- A positive decimal `0.d₁d₂… * 10 ^ point`. -/
structure Decimal where
  /-- the digits, the first and the last not zero -/
  digits : List Char
  /-- the position of the decimal point relative to the first digit -/
  point : Int
  deriving DecidableEq, Repr

namespace Decimal

/-- The decimal `digits * 10 ^ exponent`. -/
def ofNat (digits : Nat) (exponent : Int) : Decimal :=
  let all := Nat.toDigits 10 digits
  { digits := (all.reverse.dropWhile (· == '0')).reverse
    point := all.length + exponent }

/-- `digits * 10 ^ exponent` as a fraction. -/
def ratio (digits : Nat) (exponent : Int) : Nat × Nat :=
  (digits * Nat.pow 10 exponent.toNat, Nat.pow 10 (-exponent).toNat)

end Decimal

/-- The exponent `k` for which the fraction lies from `10 ^ (k - 1)` up to `10 ^ k`. -/
def decimalExponent (num den : Nat) : Int :=
  -- 30103 / 100000 is the logarithm of 2; the guess is too small by less than four
  let guess : Int := ((Nat.log2 num : Int) - (Nat.log2 den : Int)) * 30103 / 100000 - 1
  let below (k : Int) : Bool := num * Nat.pow 10 (-k).toNat < den * Nat.pow 10 k.toNat
  match (List.range 4).find? fun (step : Nat) => below (guess + step) with
  | some step => guess + step
  | none => guess + 4

/-- The nearer of the two neighbours of `num / den` on the grid of multiples of `10 ^ exponent` that
`reads` accepts. -/
def nearestOn (reads : Nat → Bool) (num den : Nat) (exponent : Int) : Option Nat :=
  let n := num * Nat.pow 10 (-exponent).toNat
  let d := den * Nat.pow 10 exponent.toNat
  let low := n / d
  let rest := n % d
  match reads low, reads (low + 1) with
  | true, true =>
    -- of two equally near neighbours the even one counts
    some (if 2 * rest < d then low else if d < 2 * rest then low + 1 else low + low % 2)
  | true, false => some low
  | false, true => some (low + 1)
  | false, false => none

/-- The shortest decimal of the positive number `significand * 2 ^ exponent`. -/
def shortest (significand : Nat) (exponent : Int) : Decimal :=
  let num := significand * Nat.pow 2 exponent.toNat
  let den := Nat.pow 2 (-exponent).toNat
  let top := decimalExponent num den
  let onGrid (count : Nat) : Option Decimal :=
    let grid := top - count
    let reads (digits : Nat) : Bool :=
      let (n, d) := Decimal.ratio digits grid
      ofRatio false n d == .finite false significand exponent
    (nearestOn reads num den grid).map (Decimal.ofNat · grid)
  ((List.range 17).findSome? fun count => onGrid (count + 1)).getD ⟨['0'], 1⟩

/-- Zeros to fill up with. -/
def zeros (count : Int) : List Char := List.replicate count.toNat '0'

/-- A decimal in positional notation, with at least one digit on either side of the point. -/
def Decimal.positional (d : Decimal) : List Char :=
  if d.point ≤ 0 then '0' :: '.' :: zeros (-d.point) ++ d.digits
  else
    let whole := d.digits.take d.point.toNat ++ zeros (d.point - d.digits.length)
    let fraction := d.digits.drop d.point.toNat
    whole ++ '.' :: (if fraction.isEmpty then ['0'] else fraction)

/-- A decimal in scientific notation, with at least two digits in the exponent. -/
def Decimal.scientific (d : Decimal) : List Char :=
  let exponent := d.point - 1
  let size := Nat.toDigits 10 exponent.natAbs
  let fraction := d.digits.drop 1
  d.digits.take 1 ++ (if fraction.isEmpty then [] else '.' :: fraction) ++
    'e' :: (if exponent < 0 then '-' else '+') :: List.replicate (2 - size.length) '0' ++ size

/-- A decimal as it is written: positional from `10 ^ -4` up to `10 ^ 16`. -/
def Decimal.text (d : Decimal) : List Char :=
  if -4 < d.point ∧ d.point ≤ 16 then d.positional else d.scientific

/-- How the numbers that are not finite are written. -/
structure Spelling where
  /-- the positive infinity -/
  infinity : String
  /-- not a number -/
  nan : String

/-- The text of a number. -/
def textWith (spelling : Spelling) : Binary64 → String
  | .nan => spelling.nan
  | .infinite negative => if negative then "-" ++ spelling.infinity else spelling.infinity
  | .finite negative significand exponent =>
    let size := if significand = 0 then "0.0".toList else (shortest significand exponent).text
    String.ofList (if negative then '-' :: size else size)

/-- The text of a number in messages. -/
def text : Binary64 → String := textWith { infinity := "inf", nan := "nan" }

example : (ofDecimal false 1 (-1)).text = "0.1" := by decide +kernel

example : (ofDecimal true 5 (-324)).text = "-5e-324" := by decide +kernel

example : (ofDecimal false 1 16).text = "1e+16" := by decide +kernel

example : (ofDecimal false 123456789 (-13)).text = "1.23456789e-05" := by decide +kernel

end LspHost.Binary64
