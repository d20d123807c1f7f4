/-!
# Finite binary64 numbers

A finite binary64 number is a sign and a magnitude, counted in units of `2 ^ (-1074)`, the least
positive one. Every finite binary64 number is a whole number of units, so comparing two of them is
comparing integers, and rounding is one integer division per binade.
-/

namespace FieldRules

/-- A finite binary64 number: `units · 2 ^ (-1074)`, with a sign that zero has too. -/
structure Binary64 where
  negative : Bool
  units : Nat
  deriving DecidableEq, Repr, Inhabited

namespace Binary64

def one : Nat := Nat.pow 2 1074

/-- The quotient rounded to the nearest natural number, halves to the even one. -/
def roundDiv (num den : Nat) : Nat :=
  let q := num / den
  let twice := 2 * (num % den)
  if twice < den then q else if den < twice then q + 1 else q + q % 2

def gap (u : Nat) : Nat := Nat.pow 2 (u.log2 - 52)

/-- The representable number of units nearest to `num / den` units. -/
def nearest (num den : Nat) : Nat :=
  let g := gap (num / den)
  roundDiv num (den * g) * g

def ofRatio? (negative : Bool) (num den : Nat) : Option Binary64 :=
  let u := nearest (num * one) den
  if u < Nat.pow 2 2098 then some ⟨negative, u⟩ else none

def ofInt (i : Int) : Binary64 :=
  ⟨decide (i < 0), nearest (i.natAbs * one) 1⟩

def ofNat (n : Nat) : Binary64 := ofInt n

def toInt (x : Binary64) : Int :=
  if x.negative then -(x.units : Int) else x.units

instance : LE Binary64 where
  le x y := x.toInt ≤ y.toInt

instance (x y : Binary64) : Decidable (x ≤ y) :=
  inferInstanceAs (Decidable (x.toInt ≤ y.toInt))

/-- Equality of values: the two zeros are equal. -/
def sameValue (x y : Binary64) : Bool :=
  x.toInt == y.toInt

def isWhole (x : Binary64) : Bool :=
  x.units % one == 0

theorem le_def {x y : Binary64} : x ≤ y ↔ x.toInt ≤ y.toInt := Iff.rfl

protected theorem le_refl (x : Binary64) : x ≤ x := Int.le_refl _

protected theorem le_trans {x y z : Binary64} (h : x ≤ y) (h' : y ≤ z) : x ≤ z :=
  Int.le_trans h h'

end Binary64
end FieldRules
