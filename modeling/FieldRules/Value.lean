import FieldRules.Binary64.Layout

/-!
# Values

The values that a request carries: null, booleans, numbers, strings, arrays and objects. An integer
and a float are different numbers even when they are equal in size, and an object keeps its members
in order. The depth of a value counts the arrays and objects around its innermost part.
-/

namespace FieldRules

/-- A number as it was spelled: without point and exponent, or with. -/
inductive Number
  | integer (value : Int)
  | float (value : Binary64)
  deriving DecidableEq, Repr

namespace Number

def toBinary64 : Number → Binary64
  | integer i => .ofInt i
  | float x => x

def text : Number → List Char
  | integer i => if i < 0 then '-' :: Nat.toDigits 10 i.natAbs else Nat.toDigits 10 i.natAbs
  | float x => x.text .document

/-- Integers equal integers, floats equal floats, and the two zeros are one. -/
def same : Number → Number → Bool
  | integer i, integer j => i == j
  | float x, float y => x.sameValue y
  | _, _ => false

end Number

inductive Value
  | null
  | bool (value : Bool)
  | number (value : Number)
  | string (value : String)
  | array (items : List Value)
  | object (members : List (String × Value))
  deriving Repr

abbrev Record := List (String × Value)

namespace Value

mutual

/-- The number of arrays and objects around the innermost part; empty ones count too. -/
def depth : Value → Nat
  | array items => depthOfItems items + 1
  | object members => depthOfMembers members + 1
  | _ => 0

def depthOfItems : List Value → Nat
  | [] => 0
  | v :: rest => max v.depth (depthOfItems rest)

def depthOfMembers : List (String × Value) → Nat
  | [] => 0
  | (_, v) :: rest => max v.depth (depthOfMembers rest)

end

end Value
end FieldRules
