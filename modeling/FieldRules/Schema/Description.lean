import FieldRules.Schema.Step
import FieldRules.Text.Quoted

/-!
# Descriptions

Entries of specifications and steps of chains as texts for people who look into a schema. A
description names each part and gives all of its parameters; texts in it are quoted.
-/

namespace FieldRules
namespace Description

def one (name parameter : String) : String := s!"{name}({parameter})"

def record (name : String) (fields : List (String × String)) : String :=
  let items := fields.map fun p => s!"{p.1}: {p.2}"
  name ++ " \x7b " ++ String.intercalate ", " items ++ " \x7d"

def list (items : List String) : String :=
  "[" ++ String.intercalate ", " items ++ "]"

def number (x : Binary64) : String := String.ofList (x.text .description)

end Description

open Description (one record number)
open Text (quoted)

def TypeName.label : TypeName → String
  | string => "String"
  | integer => "Integer"
  | numeric => "Numeric"
  | boolean => "Boolean"
  | email => "Email"
  | url => "Url"
  | array => "Array"
  | object => "Object"
  | json => "Json"
  | uuid => "Uuid"
  | alpha => "Alpha"
  | alphanumeric => "Alphanumeric"
  | date => "Date"

def Measure.label : Measure → String
  | length => "Length"
  | numeric => "Numeric"

def CustomRule.description (rule : CustomRule) : String := one "Custom" (quoted rule.name)

def Entry.description : Entry → String
  | token text => one "Rule" (quoted text)
  | custom rule => rule.description

def Condition.description (c : Condition) : String :=
  record "Condition" [("field", quoted c.field), ("value", quoted c.value)]

def Bound.description : Bound → String
  | min m limit => record "Min" [("measure", m.label), ("limit", number limit)]
  | max m limit => record "Max" [("measure", m.label), ("limit", number limit)]
  | between m least most =>
    record "Between" [("measure", m.label), ("min", number least), ("max", number most)]
  | length least most => record "Length" [("min", number least), ("max", number most)]
  | oneOf allowed => one "In" (Description.list (allowed.map quoted))
  | format pattern => one "Regex" (one "Regex" (quoted pattern.source))

def Relation.description : Relation → String
  | same other => one "Same" (quoted other)
  | requiredIf c => one "RequiredIf" c.description
  | requiredUnless c => one "RequiredUnless" c.description
  | prohibitedIf c => one "ProhibitedIf" c.description

def Check.description : Check → String
  | type name => one "Builtin" name.label
  | bound b => one "Bound" b.description
  | relation k => one "CrossField" k.description
  | custom rule => rule.description

def Transform.description : Transform → String
  | default literal => one "Default" (quoted literal)
  | sanitize s => one "Sanitize" (record "Sanitizer" [("max_depth", toString s.maxDepth)])

def Step.description : Step → String
  | required => "Required"
  | transform t => one "Transform" t.description
  | check k => one "Check" k.description

end FieldRules
