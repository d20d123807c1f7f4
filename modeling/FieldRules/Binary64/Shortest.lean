import FieldRules.Binary64.Basic

/-!
# Shortest decimals

`shortest u` is the decimal with the fewest digits among those that are nearest to `u` units, and of
these the one closest to `u`. Everything is exact: a decimal reads back as `u` when it lies in the
interval of numbers that round to `u`, whose ends belong to it when the significand is even.
-/

namespace FieldRules.Binary64

structure Decimal where
  coefficient : Nat
  power : Int
  deriving DecidableEq, Repr

/-- The numbers that round to the same representable one, in quarter units. -/
structure Rounding where
  low : Nat
  high : Nat
  closed : Bool

/-- The interval around `u`: half a gap up, and down half the gap of the binade just below `u`. -/
def rounding (u : Nat) : Rounding :=
  let above := gap u
  let below := gap (u - 1)
  ⟨4 * u - 2 * below, 4 * u + 2 * above, u / above % 2 == 0⟩

def Rounding.contains (r : Rounding) (num den : Nat) : Bool :=
  if r.closed then r.low * den ≤ num && num ≤ r.high * den
  else r.low * den < num && num < r.high * den

/-- The number of decimal places before the point of `u` units, negative when zeros follow the
point: the least `p` with `u` units below `10 ^ p`. -/
def pointOf (u : Nat) : Int :=
  (Nat.toDigits 10 (u * Nat.pow 10 330 / one)).length - (330 : Int)

def onGrid? (u : Nat) (power : Int) : Option Decimal :=
  let up := Nat.pow 10 power.toNat
  let down := Nat.pow 10 (-power).toNat
  let quarters := fun d => d * up * one * 4
  let hits := fun d => (rounding u).contains (quarters d) down
  let d := u * down / (one * up)
  let below := 4 * u * down - quarters d
  let above := quarters (d + 1) - 4 * u * down
  let upper := if below = above then d % 2 == 1 else decide (above < below)
  if hits d && !(upper && hits (d + 1)) then some ⟨d, power⟩
  else if hits (d + 1) then some ⟨d + 1, power⟩
  else none

def Decimal.strip : Nat → Decimal → Decimal
  | 0, d => d
  | fuel + 1, d =>
    if d.coefficient % 10 = 0 then Decimal.strip fuel ⟨d.coefficient / 10, d.power + 1⟩ else d

/-- The shortest decimal for `u > 0` units. Seventeen digits always suffice. -/
def shortest (u : Nat) : Decimal :=
  let p := pointOf u
  match (List.range 17).findSome? fun n => onGrid? u (p - (n + 1 : Nat)) with
  | some d => d.strip 18
  | none => ⟨u * Nat.pow 10 (17 - p).toNat / one, p - 17⟩

end FieldRules.Binary64
