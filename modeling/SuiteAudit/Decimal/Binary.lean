/-!
# Decimals — the nearest binary number, and the shortest decimal for it

A binary number is `significand · 2 ^ exponent` with 53 bits for the significand
and a least exponent, so not every decimal is one. `Binary.nearest?` finds the
one nearest to a fraction, with ties to the even significand. `Binary.shortest`
goes the other way: of the decimals that have this number as their nearest one it
takes those with the fewest digits, and of these the one nearest to the number.
All of it is exact arithmetic on natural numbers.
-/

namespace SuiteAudit.Decimal

/-- A number that is not negative: `significand · 2 ^ exponent`. -/
structure Binary where
  significand : Nat
  exponent : Int
deriving Repr, DecidableEq, Inhabited

namespace Binary

/-- The number of bits of a significand. -/
def precision : Nat := 53

/-- The least exponent. -/
def leastExponent : Int := -1074

/-- The greatest exponent. -/
def greatestExponent : Int := 971

/-- The significands are less than this. -/
def significandLimit : Nat := Nat.pow 2 precision

/-- Above the least exponent, the significands are no less than this. -/
def leastSignificand : Nat := Nat.pow 2 (precision - 1)

/-- A power of a base as a fraction. -/
def power (base : Nat) (e : Int) : Nat × Nat :=
  if 0 ≤ e then (base.pow e.toNat, 1) else (1, base.pow (-e).toNat)

/-- A quotient rounded to the nearest integer, ties to even. -/
def roundQuotient (num den : Nat) : Nat :=
  let quotient := num / den
  let rest := 2 * (num % den)
  if den < rest || (rest == den && quotient % 2 == 1) then quotient + 1 else quotient

/-- The exponent at which a positive fraction has a significand of full length, or the least one. -/
def exponentFor (num den : Nat) : Int :=
  let low := (Nat.log2 num : Int) - Nat.log2 den - precision
  let (a, b) := power 2 (low + 1)
  let exponent := if leastSignificand * (a * den) ≤ num * b then low + 1 else low
  max exponent leastExponent

/-- The number nearest to a fraction, unless that is too great. -/
def nearest? (num den : Nat) : Option Binary :=
  if num = 0 then some ⟨0, leastExponent⟩
  else
    let exponent := exponentFor num den
    let (a, b) := power 2 exponent
    let significand := roundQuotient (num * b) (den * a)
    let number : Binary :=
      if significand = significandLimit then ⟨leastSignificand, exponent + 1⟩
      else ⟨significand, exponent⟩
    if number.exponent ≤ greatestExponent then some number else none

/-- The decimal digits of an integer, and the power of ten that they are multiplied by. -/
abbrev Digits := Nat × Int

/-- The multiple of `10 ^ k` that has this number as its nearest one, if there is one: of the two
multiples around the number, the nearer one, and of two as near the upper one. All values are in
units of a quarter of the last place. -/
def onGrid? (number : Binary) (k : Int) : Option Nat :=
  let m := number.significand
  let low := if m = leastSignificand && leastExponent < number.exponent then 4 * m - 1
    else 4 * m - 2
  let high := 4 * m + 2
  let (a, b) := power 2 (number.exponent - 2)
  let (c, d) := power 10 k
  -- a multiple `n` of the grid is `n * step / unit` quarters
  let step := c * b
  let unit := d * a
  let inside (n : Nat) : Bool :=
    if m % 2 == 0 then low * unit ≤ n * step && n * step ≤ high * unit
    else low * unit < n * step && n * step < high * unit
  let below := 4 * m * unit / step
  let distanceBelow := 4 * m * unit - below * step
  let distanceAbove := (below + 1) * step - 4 * m * unit
  match inside below, inside (below + 1) with
  | true, true => some (if distanceAbove ≤ distanceBelow then below + 1 else below)
  | true, false => some below
  | false, true => some (below + 1)
  | false, false => none

/-- The grids of decimals, from coarse to fine. -/
def gridFrom (number : Binary) (steps : Nat) (k : Int) : Digits :=
  match steps with
  | 0 => (0, 0)
  | steps + 1 =>
    match onGrid? number k with
    | some n => (n, k)
    | none => gridFrom number steps (k - 1)

/-- The exponent of the coarsest grid that a number can be on. -/
def coarsest : Int := 310

/-- How many grids there are down to the finest one that is ever needed. -/
def gridCount : Nat := 660

/-- The shortest decimal for a number. -/
def shortest (number : Binary) : Digits :=
  if number.significand = 0 then (0, 0) else gridFrom number gridCount coarsest

end Binary

/-- The value of a run of decimal digits. -/
def digitsValue (digits : List Char) : Nat :=
  digits.foldl (fun n c => 10 * n + (c.toNat - '0'.toNat)) 0

/-- Digits times a power of ten, written without an exponent and with at least one digit on either
side of the point. -/
def positional (digits : Nat) (exponent : Int) : String :=
  if 0 ≤ exponent then
    toString digits ++ String.ofList (List.replicate exponent.toNat '0') ++ ".0"
  else
    let places := (-exponent).toNat
    let text := Nat.toDigits 10 digits
    let padded := List.replicate (places + 1 - text.length) '0' ++ text
    let whole := padded.length - places
    String.ofList (padded.take whole ++ '.' :: padded.drop whole)

end SuiteAudit.Decimal
