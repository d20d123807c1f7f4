import FieldRules.Binary64.Basic

/-!
# Numerals

A numeral is the decimal spelling of a number: a sign, digits, a point with digits, an exponent.
`Numeral.ofText?` takes a text apart without judging it; which parts may be empty is for each use to
decide. `Numeral.value?` is the binary64 number nearest to what the numeral spells.
-/

namespace FieldRules

/-- The parts of a decimal spelling. An absent part is `none`, an empty one `some []`. -/
structure Numeral where
  sign : Option Char
  whole : List Char
  fraction : Option (List Char)
  exponent : Option (Option Char × List Char)
  deriving DecidableEq, Repr

namespace Numeral

def isSign (c : Char) : Bool := c == '+' || c == '-'

def splitSign : List Char → Option Char × List Char
  | [] => (none, [])
  | c :: t => if isSign c then (some c, t) else (none, c :: t)

def splitFraction : List Char → Option (List Char) × List Char
  | '.' :: t => (some (t.takeWhile Char.isDigit), t.dropWhile Char.isDigit)
  | t => (none, t)

def readExponent? : List Char → Option (Option (Option Char × List Char))
  | [] => some none
  | c :: t =>
    let (sign, digits) := splitSign t
    if (c == 'e' || c == 'E') && !digits.isEmpty && digits.all Char.isDigit then
      some (some (sign, digits))
    else none

def ofText? (t : List Char) : Option Numeral :=
  let (sign, t) := splitSign t
  let (fraction, rest) := splitFraction (t.dropWhile Char.isDigit)
  (readExponent? rest).map fun exponent => ⟨sign, t.takeWhile Char.isDigit, fraction, exponent⟩

def ofDigits (digits : List Char) : Nat :=
  digits.foldl (fun n c => 10 * n + (c.toNat - '0'.toNat)) 0

def negative (n : Numeral) : Bool := n.sign == some '-'

def digits (n : Numeral) : List Char := n.whole ++ n.fraction.getD []

def hasDigit (n : Numeral) : Bool := !n.digits.isEmpty

def isInteger (n : Numeral) : Bool := n.fraction.isNone && n.exponent.isNone

def writtenPower (n : Numeral) : Int :=
  match n.exponent with
  | none => 0
  | some (sign, digits) => if sign == some '-' then -(ofDigits digits : Int) else ofDigits digits

def power (n : Numeral) : Int := n.writtenPower - (n.fraction.getD []).length

/-- The nearest binary64 number. Powers far outside the range are settled by the number of digits:
from `10 ^ 310` up nothing is finite, and below `10 ^ (-330)` all is nearest to zero. -/
def value? (n : Numeral) : Option Binary64 :=
  let coefficient := ofDigits n.digits
  let digits := (Nat.toDigits 10 coefficient).length
  if coefficient = 0 then some ⟨n.negative, 0⟩
  else if 310 < digits + n.power then none
  else if digits + n.power < -330 then some ⟨n.negative, 0⟩
  else Binary64.ofRatio? n.negative (coefficient * Nat.pow 10 n.power.toNat)
      (Nat.pow 10 (-n.power).toNat)

end Numeral

def Binary64.ofText? (t : List Char) : Option Binary64 :=
  match Numeral.ofText? t with
  | some n => if n.hasDigit then n.value? else none
  | none => none

end FieldRules
