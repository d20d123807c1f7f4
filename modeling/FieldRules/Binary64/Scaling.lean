import FieldRules.Binary64.Basic

/-!
# Scaling by powers of ten

A quick way to a number such as `m · 10 ^ e`: the significand is rounded, the power of ten is, and
so is their product or quotient. The result may miss the nearest number, since it is rounded more
than once. Powers far below the range are divided out in two steps; a third would leave nothing.
-/

namespace FieldRules.Binary64

def lastPower : Nat := 308

def times (u w : Nat) : Nat := nearest (u * w) one

def dividedBy (u w : Nat) : Nat := nearest (u * one) w

def powerOfTen (k : Nat) : Nat := nearest (Nat.pow 10 k * one) 1

def isFinite (u : Nat) : Bool := u < Nat.pow 2 2098

def raised? (u k : Nat) : Option Nat :=
  if k ≤ lastPower then
    let product := times u (powerOfTen k)
    if isFinite product then some product else none
  else if u = 0 then some 0
  else none

/-- Down by a power of ten. Two steps leave nothing of what 64 bits can count. -/
def lowered (u k : Nat) : Nat :=
  if k ≤ lastPower then dividedBy u (powerOfTen k)
  else if k ≤ 2 * lastPower then
    dividedBy (dividedBy u (powerOfTen lastPower)) (powerOfTen (k - lastPower))
  else 0

def scaled? (significand : Nat) (exponent : Int) : Option Nat :=
  let u := nearest (significand * one) 1
  if exponent < 0 then some (lowered u exponent.natAbs) else raised? u exponent.natAbs

end FieldRules.Binary64
