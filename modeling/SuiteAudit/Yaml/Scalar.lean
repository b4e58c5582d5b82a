import SuiteAudit.Decimal.Literal
import SuiteAudit.Text.Visible
/-!
# YAML — what a scalar stands for

A plain scalar may stand for nothing, a truth value, an integer or a decimal
number; everything else is text. A standard tag asks for one of these kinds. All
of this matters only in messages, since a scalar can always be taken as its text.
-/

namespace SuiteAudit.Yaml

open Text

/-- A decimal number, or one of the values that are no number. -/
inductive Float64 where
  | finite (negative : Bool) (value : Decimal.Binary)
  | infinite (negative : Bool)
  | notNumber
deriving Repr, DecidableEq, Inhabited

/-- What a scalar stands for. -/
inductive Scalar where
  | nothing
  | truth (value : Bool)
  | integer (value : Int)
  | decimal (value : Float64)
  | text (value : List Char)
deriving Repr, DecidableEq, Inhabited

/-- A leading plus sign is taken off. -/
def dropPlus (cs : List Char) : List Char :=
  match cs with
  | '+' :: rest => rest
  | _ => cs

/-- Whether a text starts with a sign. -/
def isSigned (cs : List Char) : Bool :=
  cs.head?.any fun c => c == '+' || c == '-'

/-- The value of digits of a base, if a text is made of one or more of them. -/
def digitsOfBase? (base : Nat) (cs : List Char) : Option Nat :=
  if cs.isEmpty then none
  else
    cs.foldl (fun value c =>
      match value, digit? c with
      | some n, some d => if d < base then some (base * n + d) else none
      | _, _ => none) (some 0)
where
  /-- The value of a digit of any base up to sixteen. -/
  digit? (c : Char) : Option Nat :=
    if c.isDigit then some (c.toNat - '0'.toNat)
    else if 'a' ≤ c && c ≤ 'f' then some (c.toNat - 'a'.toNat + 10)
    else if 'A' ≤ c && c ≤ 'F' then some (c.toNat - 'A'.toNat + 10)
    else none

/-- Digits behind a zero are text and no number. -/
def hasIdleZero (cs : List Char) : Bool :=
  match if isSigned cs then cs.drop 1 else cs with
  | '0' :: rest => !rest.isEmpty && rest.all Char.isDigit
  | _ => false

/-- The value of digits behind the mark of their base. -/
def markedDigits? (cs : List Char) : Option Nat :=
  match cs with
  | '0' :: 'x' :: rest => digitsOfBase? 16 rest
  | '0' :: 'o' :: rest => digitsOfBase? 8 rest
  | '0' :: 'b' :: rest => digitsOfBase? 2 rest
  | _ => none

/-- The value of an integer that is written without a minus sign. -/
def natural? (cs : List Char) : Option Nat :=
  (markedDigits? (dropPlus cs)).or
    (if hasIdleZero cs then none else digitsOfBase? 10 (dropPlus cs))

/-- The value behind the minus sign of an integer. -/
def negated? (cs : List Char) : Option Nat :=
  match cs with
  | '-' :: rest =>
    (markedDigits? rest).or (if hasIdleZero cs then none else digitsOfBase? 10 rest)
  | _ => none

/-- The integers of 128 bits, signed or not, are the ones that are read. -/
def integer? (cs : List Char) : Option Int :=
  match natural? cs with
  | some n => if n < Nat.pow 2 128 then some n else none
  | none =>
    match negated? cs with
    | some n => if n ≤ Nat.pow 2 127 then some (-(n : Int)) else none
    | none => none

/-- The truth value that a text is a name of. -/
def truth? (cs : List Char) : Option Bool :=
  if ["true", "True", "TRUE"].contains (String.ofList cs) then some true
  else if ["false", "False", "FALSE"].contains (String.ofList cs) then some false
  else none

/-- Whether a text is a name of nothing. -/
def namesNothing (cs : List Char) : Bool :=
  ["null", "Null", "NULL", "~"].contains (String.ofList cs)

/-- Whether a text is a name of infinity. -/
def namesInfinity (cs : List Char) : Bool :=
  [".inf", ".Inf", ".INF"].contains (String.ofList cs)

/-- Whether a text is a name of what is no number. -/
def namesNoNumber (cs : List Char) : Bool :=
  [".nan", ".NaN", ".NAN"].contains (String.ofList cs)

/-- The decimal number that a text is written for. -/
def decimal? (cs : List Char) : Option Float64 :=
  if namesInfinity (dropPlus cs) then some (.infinite false)
  else if cs.head? == some '-' && namesInfinity (cs.drop 1) then some (.infinite true)
  else if namesNoNumber cs then some .notNumber
  else
    let negative := cs.head? == some '-'
    let digits := if isSigned cs then cs.drop 1 else cs
    (Decimal.readLiteral? digits).bind fun literal =>
    literal.value?.map fun value => .finite negative value

namespace Scalar

/-- What a plain scalar without a standard tag stands for. -/
def ofPlain (cs : List Char) : Scalar :=
  if cs.isEmpty || namesNothing cs then .nothing
  else
    match truth? cs, integer? cs with
    | some value, _ => .truth value
    | none, some value => .integer value
    | none, none =>
      match if hasIdleZero cs then none else decimal? cs with
      | some value => .decimal value
      | none => .text cs

/-- A standard tag. -/
def standardTag (name : String) : List Char :=
  "tag:yaml.org,2002:".toList ++ name.toList

/-- What a scalar stands for, or the kind that its tag asks for in vain. -/
def resolve (tag : Option (List Char)) (cs : List Char) (plain : Bool) : Except String Scalar :=
  match tag with
  | none => .ok (if plain then ofPlain cs else .text cs)
  | some tag =>
    if tag = standardTag "bool" then wanted "a boolean" ((truth? cs).map .truth)
    else if tag = standardTag "int" then wanted "an integer" ((integer? cs).map .integer)
    else if tag = standardTag "float" then wanted "a float" ((decimal? cs).map .decimal)
    else if tag = standardTag "null" then
      wanted "null" (if namesNothing cs then some .nothing else none)
    else if tag.head? == some '!' && plain then .ok (ofPlain cs)
    else .ok (.text cs)
where
  /-- The scalar of the kind asked for, or that kind. -/
  wanted (kind : String) (scalar : Option Scalar) : Except String Scalar :=
    scalar.elim (.error kind) .ok

/-- An integer, with the width that it needs when that is more than 64 bits. -/
def integerText (value : Int) : String :=
  "integer `" ++ toString value ++ "`" ++
    if (Nat.pow 2 64 : Int) ≤ value then " as u128"
    else if value < -(Nat.pow 2 63 : Int) then " as i128"
    else ""

/-- A decimal number in positional notation. -/
def decimalText : Float64 → String
  | .finite negative value =>
    (if negative then "-" else "") ++ Decimal.positional value.shortest.1 value.shortest.2
  | .infinite negative => if negative then "-inf" else "inf"
  | .notNumber => "NaN"

/-- A scalar as messages name it. -/
def describe : Scalar → String
  | nothing => "unit value"
  | truth value => "boolean `" ++ toString value ++ "`"
  | integer value => integerText value
  | decimal value => "floating point `" ++ decimalText value ++ "`"
  | text value => "string " ++ quote value

end Scalar

end SuiteAudit.Yaml
