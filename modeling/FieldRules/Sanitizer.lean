import FieldRules.Cleaning
import FieldRules.Value

/-!
# Sanitizing values

A sanitizer cleans every string inside a value and leaves all else as it is: the shape, the keys,
their order, numbers, booleans and null. It refuses values with more arrays and objects around a
part than its limit.
-/

namespace FieldRules

structure Sanitizer where
  maxDepth : Nat
  deriving DecidableEq, Repr

structure TooDeep where
  limit : Nat
  deriving DecidableEq, Repr

def TooDeep.message (e : TooDeep) : String :=
  s!"Value nesting exceeds the maximum sanitizer depth of {e.limit}"

namespace Sanitizer

def standard : Sanitizer := ⟨128⟩

mutual

/-- The cleaned value, if `left` more levels are enough for it. -/
def cleanWithin : (left : Nat) → Value → Option Value
  | _, .string s => some (.string (Cleaning.cleanText s))
  | 0, .array _ => none
  | left + 1, .array items => (cleanItems left items).map .array
  | 0, .object _ => none
  | left + 1, .object members => (cleanMembers left members).map .object
  | _, v => some v

def cleanItems : (left : Nat) → List Value → Option (List Value)
  | _, [] => some []
  | left, v :: rest => do return (← cleanWithin left v) :: (← cleanItems left rest)

def cleanMembers : (left : Nat) → List (String × Value) → Option (List (String × Value))
  | _, [] => some []
  | left, (k, v) :: rest => do return (k, ← cleanWithin left v) :: (← cleanMembers left rest)

end

def sanitize (s : Sanitizer) (v : Value) : Except TooDeep Value :=
  match cleanWithin s.maxDepth v with
  | some v => .ok v
  | none => .error ⟨s.maxDepth⟩

end Sanitizer
end FieldRules
