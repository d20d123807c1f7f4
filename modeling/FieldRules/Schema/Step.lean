import FieldRules.Pattern
import FieldRules.Rule.Spec
import FieldRules.Sanitizer
import FieldRules.Value.Predicate

/-!
# Steps

What a field's chain is made of. A step requires a value, transforms it, or checks it. A check has a
message that depends on the field's name and the rule alone; only custom rules word their own.
-/

namespace FieldRules

inductive Measure
  | length
  | numeric
  deriving DecidableEq, Repr

namespace Measure

def of? (m : Measure) : Option Value → Option Binary64
  | none => none
  | some v => match m with
    | length => v.length?.map .ofNat
    | numeric => v.number?

def unit : Measure → String
  | length => " characters"
  | numeric => ""

end Measure

inductive Bound
  | min (measure : Measure) (limit : Binary64)
  | max (measure : Measure) (limit : Binary64)
  | between (measure : Measure) (least most : Binary64)
  | length (least most : Binary64)
  | oneOf (allowed : List String)
  | format (pattern : Pattern)

namespace Bound

/-- Whether the size of a value passes a test; a value without a size does not. -/
def measured (m : Measure) (value : Option Value) (test : Binary64 → Bool) : Bool :=
  match m.of? value with
  | some x => test x
  | none => false

def spelled (value : Option Value) (test : String → Bool) : Bool :=
  match value.bind Value.text? with
  | some s => test s
  | none => false

def accepts (value : Option Value) : Bound → Bool
  | min m limit => measured m value fun x => decide (limit ≤ x)
  | max m limit => measured m value fun x => decide (x ≤ limit)
  | between m least most => measured m value fun x => decide (least ≤ x) && decide (x ≤ most)
  | length least most =>
    measured .length value fun x => decide (least ≤ x) && decide (x ≤ most)
  | oneOf allowed => spelled value fun s => allowed.contains s
  | format pattern => spelled value pattern.occursIn

def message (field : String) : Bound → String
  | min m limit => s!"{field} must be at least {limit.messageText}{m.unit}"
  | max m limit => s!"{field} must be at most {limit.messageText}{m.unit}"
  | between m least most =>
    s!"{field} must be between {least.messageText} and {most.messageText}{m.unit}"
  | length least most =>
    s!"{field} must be between {least.messageText} and {most.messageText} characters"
  | oneOf allowed => s!"{field} must be one of: " ++ String.intercalate ", " allowed
  | format _ => s!"{field} format is invalid"

end Bound

def Condition.holds (c : Condition) (r : Record) : Bool :=
  ((r.get? c.field).bind Value.text?) == some c.value

inductive Relation
  | same (other : String)
  | requiredIf (condition : Condition)
  | requiredUnless (condition : Condition)
  | prohibitedIf (condition : Condition)
  deriving DecidableEq, Repr

namespace Relation

def accepts (value : Option Value) (r : Record) : Relation → Bool
  | same other => Value.sameIfAny value (r.get? other)
  | requiredIf c => !(c.holds r && Value.isEmpty value)
  | requiredUnless c => !(!c.holds r && Value.isEmpty value)
  | prohibitedIf c => !(c.holds r && !Value.isEmpty value)

def message (field : String) : Relation → String
  | same other => s!"{field} must match {other}"
  | requiredIf c => s!"{field} is required when {c.field} is {c.value}"
  | requiredUnless c => s!"{field} is required unless {c.field} is {c.value}"
  | prohibitedIf c => s!"{field} is not allowed when {c.field} is {c.value}"

end Relation

inductive Check
  | type (name : TypeName)
  | bound (bound : Bound)
  | relation (relation : Relation)
  | custom (rule : CustomRule)

def TypeName.acceptsIfAny (name : TypeName) : Option Value → Bool
  | some v => name.accepts v
  | none => false

def TypeName.message (field : String) (name : TypeName) : String :=
  s!"{field} must be {name.requirement}"

inductive Transform
  | default (literal : String)
  | sanitize (sanitizer : Sanitizer)
  deriving DecidableEq, Repr

namespace Transform

def apply (value : Option Value) : Transform → Except TooDeep (Option Value)
  | default literal => .ok (if Value.isEmpty value then some (.string literal) else value)
  | sanitize s => match value with
    | some v => (s.sanitize v).map some
    | none => .ok none

end Transform

inductive Step
  /-- The value must not be empty; if it is, the field ends here. -/
  | required
  | transform (transform : Transform)
  | check (check : Check)

structure Chain where
  field : String
  /-- The tags of all tokens, known or not, each once and in increasing order. -/
  tags : List String
  isRequired : Bool
  isOptional : Bool
  isNullable : Bool
  steps : List Step

namespace Chain

def checks (c : Chain) : List Check :=
  c.steps.filterMap fun
    | .check k => some k
    | _ => none

def transforms (c : Chain) : List Transform :=
  c.steps.filterMap fun
    | .transform t => some t
    | _ => none

/-- Bounds are numeric as soon as one of the tags is `integer` or `numeric`. -/
def measureOf (tags : List String) : Measure :=
  if tags.contains "integer" || tags.contains "numeric" then .numeric else .length

def measure (c : Chain) : Measure := measureOf c.tags

end Chain
end FieldRules
