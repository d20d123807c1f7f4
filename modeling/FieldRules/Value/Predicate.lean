import FieldRules.Format.Address
import FieldRules.Format.Date
import FieldRules.Json.Reader
import FieldRules.Rule.Basic
import FieldRules.Text.Digit

/-!
# Predicates on values

The yes/no questions behind the type rules, and the text, number and length of a value. Requests
carry much of their data as strings, so the numeric and boolean questions accept the textual forms
too.
-/

namespace FieldRules
namespace Value

/-- A value counts as not provided when it is missing, null or the empty string. -/
def isEmpty : Option Value → Bool
  | none | some .null => true
  | some (.string s) => s == ""
  | some _ => false

/-- The text that a client would have submitted for a scalar. -/
def text? : Value → Option String
  | .string s => some s
  | .number n => some (String.ofList n.text)
  | .bool b => some (if b then "true" else "false")
  | .null | .array _ | .object _ => none

def number? : Value → Option Binary64
  | .number n => some n.toBinary64
  | .string s => Binary64.ofText? s.toList
  | _ => none

def length? : Value → Option Nat
  | .string s => some s.length
  | .array items => some items.length
  | _ => none

/-- An optional sign and decimal digits of any script. -/
def isIntegerText (t : List Char) : Bool :=
  let (_, digits) := Numeral.splitSign t
  !digits.isEmpty && digits.all Text.isDecimalDigit

def isString : Value → Bool
  | .string _ => true
  | _ => false

def isInteger : Value → Bool
  | .number (.integer _) => true
  | .number (.float x) => x.isWhole
  | .string s => isIntegerText s.toList
  | _ => false

def isNumeric (v : Value) : Bool := v.number?.isSome

def isBoolean : Value → Bool
  | .bool _ => true
  | .string s => s == "true" || s == "false" || s == "1" || s == "0"
  | .number (.integer i) => i == 0 || i == 1
  | _ => false

def isArray : Value → Bool
  | .array _ => true
  | _ => false

def isObject : Value → Bool
  | .object _ => true
  | _ => false

def isTextThat (test : List Char → Bool) : Value → Bool
  | .string s => test s.toList
  | _ => false

def isEmail : Value → Bool := isTextThat Format.isEmail

def isUrl : Value → Bool := isTextThat Format.isUrl

def isUuid : Value → Bool := isTextThat Format.isUuid

def isDate : Value → Bool := isTextThat Format.isDate

def isJson : Value → Bool := isTextThat fun t => (Json.read? t).isSome

def isAlpha : Value → Bool := isTextThat fun t => !t.isEmpty && t.all Format.isAsciiLetter

def isAlphanumeric : Value → Bool :=
  isTextThat fun t => !t.isEmpty && t.all Format.isAsciiAlphanumeric

end Value

def TypeName.accepts : TypeName → Value → Bool
  | string => Value.isString
  | integer => Value.isInteger
  | numeric => Value.isNumeric
  | boolean => Value.isBoolean
  | email => Value.isEmail
  | url => Value.isUrl
  | array => Value.isArray
  | object => Value.isObject
  | json => Value.isJson
  | uuid => Value.isUuid
  | alpha => Value.isAlpha
  | alphanumeric => Value.isAlphanumeric
  | date => Value.isDate

end FieldRules
