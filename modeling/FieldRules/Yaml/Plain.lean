import FieldRules.Binary64.Numeral

/-!
# Plain scalars

What a plain scalar says by its spelling alone: nothing at all, a truth value, a number, or
otherwise its own text.
-/

namespace FieldRules.Yaml.Plain

def isNull (t : String) : Bool := ["", "~", "null", "Null", "NULL"].contains t

def truth? (t : String) : Option Bool :=
  if ["true", "True", "TRUE"].contains t then some true
  else if ["false", "False", "FALSE"].contains t then some false
  else none

def digit? (base : Nat) (c : Char) : Option Nat :=
  let d :=
    if c.isDigit then some (c.toNat - '0'.toNat)
    else if 'a' ≤ c && c ≤ 'f' then some (c.toNat - 'a'.toNat + 10)
    else if 'A' ≤ c && c ≤ 'F' then some (c.toNat - 'A'.toNat + 10)
    else none
  d.filter (· < base)

def isBelow (bound base : Nat) (t : List Char) : Bool :=
  match t.mapM (digit? base) with
  | some (d :: ds) => (d :: ds).foldl (fun n d => base * n + d) 0 < bound
  | _ => false

/-- A number of at most 128 bits behind the sign of its base. -/
def isBased (bound : Nat) : List Char → Bool
  | '0' :: 'x' :: t => isBelow bound 16 t
  | '0' :: 'o' :: t => isBelow bound 8 t
  | '0' :: 'b' :: t => isBelow bound 2 t
  | _ => false

def isBasedInteger : List Char → Bool
  | '-' :: t => isBased (Nat.pow 2 127 + 1) t
  | '+' :: t => isBased (Nat.pow 2 128) t
  | t => isBased (Nat.pow 2 128) t

/-- Digits with a zero in front are no number. -/
def isPadded (t : List Char) : Bool :=
  let digits := match t with
    | '-' :: t | '+' :: t => t
    | t => t
  digits.length > 1 && digits.head? == some '0' && digits.all Char.isDigit

def isFloat (t : List Char) : Bool :=
  let unsigned := match t with
    | '+' :: t => t
    | t => t
  let doubleSign := match t with
    | '+' :: '+' :: _ | '+' :: '-' :: _ => true
    | _ => false
  !doubleSign
    && ([".inf", ".Inf", ".INF"].contains (String.ofList unsigned)
      || ["-.inf", "-.Inf", "-.INF", ".nan", ".NaN", ".NAN"].contains (String.ofList t)
      || (Binary64.ofText? unsigned).isSome)

def isNumber (t : List Char) : Bool := isBasedInteger t || (!isPadded t && isFloat t)

/-- The scalar stands for its own text. -/
def isText (t : String) : Bool :=
  !isNull t && (truth? t).isNone && !isNumber t.toList

end FieldRules.Yaml.Plain
