import FieldRules.Binary64.Layout

/-!
# Rules

What a single token of the compact notation says about a field: that it is required, which type it
has, which bounds it keeps, how it relates to another field, or how its value is prepared. An
`Issue` is the reason why a token says nothing.
-/

namespace FieldRules

inductive TypeName
  | string | integer | numeric | boolean | email | url | array | object | json | uuid
  | alpha | alphanumeric | date
  deriving DecidableEq, Repr

namespace TypeName

def tag : TypeName → String
  | string => "string"
  | integer => "integer"
  | numeric => "numeric"
  | boolean => "boolean"
  | email => "email"
  | url => "url"
  | array => "array"
  | object => "object"
  | json => "json"
  | uuid => "uuid"
  | alpha => "alpha"
  | alphanumeric => "alphanumeric"
  | date => "date"

def all : List TypeName :=
  [string, integer, numeric, boolean, email, url, array, object, json, uuid, alpha, alphanumeric,
    date]

def ofTag? (t : String) : Option TypeName := all.find? fun n => n.tag == t

def requirement : TypeName → String
  | string => "a string"
  | integer => "an integer"
  | numeric => "a number"
  | boolean => "a boolean"
  | email => "a valid email"
  | url => "a valid URL"
  | array => "an array"
  | object => "an object"
  | json => "valid JSON"
  | uuid => "a valid UUID"
  | alpha => "alphabetic"
  | alphanumeric => "alphanumeric"
  | date => "a valid date"

theorem mem_all (n : TypeName) : n ∈ all := by cases n <;> decide

theorem ofTag?_tag (n : TypeName) : ofTag? n.tag = some n := by cases n <;> decide

end TypeName

structure Condition where
  field : String
  value : String
  deriving DecidableEq, Repr

inductive Rule
  | required
  | optional
  | nullable
  | sanitize
  | type (name : TypeName)
  | min (limit : Binary64)
  | max (limit : Binary64)
  | between (least most : Binary64)
  | length (least most : Binary64)
  | oneOf (allowed : List String)
  | format (pattern : String)
  | same (other : String)
  | default (literal : String)
  | requiredIf (condition : Condition)
  | requiredUnless (condition : Condition)
  | prohibitedIf (condition : Condition)
  deriving DecidableEq, Repr

inductive ParameterFault
  | notANumber (text : String)
  | notAPair (text : String)
  | missingField
  deriving DecidableEq, Repr

def ParameterFault.message : ParameterFault → String
  | notANumber text => s!"'{text}' is not a number"
  | notAPair text => s!"expected two comma-separated numbers, got '{text}'"
  | missingField => "missing field name"

inductive Issue
  | unknown
  | malformedCondition
  | invalidParameter (fault : ParameterFault)
  deriving DecidableEq, Repr

def Issue.message : Issue → String
  | unknown => "unknown rule"
  | malformedCondition => "expected 'otherField,value'"
  | invalidParameter fault => fault.message

end FieldRules
