import SuiteAudit.Decimal.Binary
/-!
# Decimals — numbers as they are written

A number is written as digits with an optional point among them and an optional
exponent behind them. Its value is the nearest binary number; a number that is
too great for one has no value.
-/

namespace SuiteAudit.Decimal

/-- A number as it is written: the digits, and the power of ten that they are multiplied by. -/
structure Literal where
  digits : List Char
  exponent : Int
deriving Repr, DecidableEq, Inhabited

/-- Reads an exponent: nothing, or the letter `e`, an optional sign, and digits up to the end. -/
def readExponent? (cs : List Char) : Option Int :=
  match cs with
  | [] => some 0
  | c :: cs =>
    if c == 'e' || c == 'E' then
      match cs with
      | '-' :: cs => (digits? cs).map fun n => -(n : Int)
      | '+' :: cs => (digits? cs).map fun n => (n : Int)
      | cs => (digits? cs).map fun n => (n : Int)
    else none
where
  /-- A number made of one or more digits and nothing else. -/
  digits? (cs : List Char) : Option Nat :=
    if !cs.isEmpty && cs.all Char.isDigit then some (digitsValue cs) else none

/-- Reads a number without sign. -/
def readLiteral? (cs : List Char) : Option Literal :=
  let whole := cs.takeWhile Char.isDigit
  let rest := cs.dropWhile Char.isDigit
  let (places, rest) := match rest with
    | '.' :: rest => (rest.takeWhile Char.isDigit, rest.dropWhile Char.isDigit)
    | rest => ([], rest)
  if whole.isEmpty && places.isEmpty then none
  else (readExponent? rest).map fun e => ⟨whole ++ places, e - places.length⟩

/-- The power of ten beyond which every number is too great. -/
def tooGreat : Int := 310

/-- The power of ten below which every number is nearest to zero. -/
def tooSmall : Int := -330

/-- The value of a number: the nearest binary number, if it is not too great. -/
def Literal.value? (literal : Literal) : Option Binary :=
  let n := digitsValue literal.digits
  let magnitude := (Nat.toDigits 10 n).length + literal.exponent
  if n = 0 || magnitude < tooSmall then Binary.nearest? 0 1
  else if tooGreat < magnitude then none
  else
    let (a, b) := Binary.power 10 literal.exponent
    Binary.nearest? (n * a) b

end SuiteAudit.Decimal
