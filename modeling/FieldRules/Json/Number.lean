import FieldRules.Binary64.Numeral
import FieldRules.Binary64.Scaling
import FieldRules.Value.Equality

/-!
# Numbers in documents

A number is an integer when it has neither point nor exponent and fits 64 bits, and a float
otherwise; `-0` is a float. The digits of a float are counted only as far as 64 bits can count them.
-/

namespace FieldRules.Json

/-- The spelling is one of RFC 8259: no plus sign, digits on both sides of a point, and no leading
zero. -/
def isStrict (n : Numeral) : Bool :=
  n.sign != some '+' && !n.whole.isEmpty && n.fraction != some []
    && (n.whole.length == 1 || n.whole.head? != some '0')

/-- The digits put behind a number while it fits 64 bits, and how many are left over. -/
def counted (number : Nat) : List Char → Nat × Nat
  | [] => (number, 0)
  | c :: rest =>
    let longer := 10 * number + (c.toNat - '0'.toNat)
    if longer < Nat.pow 2 64 then counted longer rest else (number, rest.length + 1)

/-- The significand, and the power of ten that its digits leave. Digits left over before the point
raise the power; the digits behind the point are tried again. -/
def significandOf (n : Numeral) : Nat × Int :=
  let (whole, surplus) := counted 0 n.whole
  let fraction := n.fraction.getD []
  let (significand, rest) := counted whole fraction
  (significand, surplus - (fraction.length - rest : Nat))

def floatOf? (n : Numeral) : Option Binary64 :=
  let (significand, power) := significandOf n
  (Binary64.scaled? significand (power + n.writtenPower)).map (⟨n.negative, ·⟩)

def numberOf? (n : Numeral) : Option Number :=
  let magnitude := Numeral.ofDigits n.whole
  if n.isInteger && !n.negative && magnitude < Nat.pow 2 64 then some (.integer magnitude)
  else if n.isInteger && n.negative && magnitude != 0 && magnitude ≤ Nat.pow 2 63 then
    some (.integer (-magnitude))
  else (floatOf? n).map .float

end FieldRules.Json
