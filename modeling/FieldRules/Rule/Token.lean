import FieldRules.Rule.Basic
import FieldRules.Binary64.Numeral
import FieldRules.Text.Blank
import FieldRules.Text.Pieces

/-!
# Reading rule tokens

A token is a tag, or a tag and parameters behind the first colon. `Rule.ofToken` decodes one token;
it knows nothing of the other tokens of the field. Tags are trimmed and exact, and each rule says
for itself which of its parameters are trimmed.
-/

namespace FieldRules

structure Token where
  tag : String
  params : Option String
  deriving DecidableEq, Repr

namespace Token

def ofString (s : String) : Token :=
  match Text.cutFirst ':' s.toList with
  | none => ⟨Text.trimmed s, none⟩
  | some (tag, params) => ⟨String.ofList (Text.trim tag), some (String.ofList params)⟩

end Token

namespace Condition

/-- A field and a value with a comma between them: the first comma counts, both are trimmed, and the
field has a name. -/
def ofString? (raw : String) : Option Condition :=
  match Text.cutFirst ',' raw.toList with
  | none => none
  | some (field, value) =>
    let field := Text.trim field
    if field = [] then none
    else some ⟨String.ofList field, String.ofList (Text.trim value)⟩

end Condition

namespace Rule

def readNumber (raw : String) : Except Issue Binary64 :=
  match Binary64.ofText? (Text.trim raw.toList) with
  | some x => .ok x
  | none => .error (.invalidParameter (.notANumber (Text.trimmed raw)))

def readPair (raw : String) : Except Issue (Binary64 × Binary64) :=
  match Text.pieces ',' raw with
  | [least, most] => do return (← readNumber least, ← readNumber most)
  | _ => .error (.invalidParameter (.notAPair raw))

/-- The text between a first and a last slash; any other text as it is. -/
def stripSlashes (pattern : String) : String :=
  match pattern.toList with
  | '/' :: t => if t.getLast? = some '/' then String.ofList t.dropLast else pattern
  | _ => pattern

def ofCondition (rule : Condition → Rule) (raw : String) : Except Issue Rule :=
  match Condition.ofString? raw with
  | some c => .ok (rule c)
  | none => .error .malformedCondition

def ofTag (tag : String) : Except Issue Rule :=
  match tag with
  | "required" => .ok required
  | "optional" => .ok optional
  | "nullable" => .ok nullable
  | "sanitize" => .ok sanitize
  | _ => match TypeName.ofTag? tag with
    | some name => .ok (type name)
    | none => .error .unknown

def ofParams (tag params : String) : Except Issue Rule :=
  match tag with
  | "min" => (readNumber params).map min
  | "max" => (readNumber params).map max
  | "between" => (readPair params).map fun p => between p.1 p.2
  | "length" => (readPair params).map fun p => length p.1 p.2
  | "in" => .ok (oneOf ((Text.pieces ',' params).map Text.trimmed))
  | "regex" => .ok (format (stripSlashes params))
  | "same" =>
    let other := Text.trimmed params
    if other = "" then .error (.invalidParameter .missingField) else .ok (same other)
  | "default" => .ok (default params)
  | "required_if" => ofCondition requiredIf params
  | "required_unless" => ofCondition requiredUnless params
  | "prohibited_if" => ofCondition prohibitedIf params
  | _ => .error .unknown

def ofToken (token : String) : Except Issue Rule :=
  match Token.ofString token with
  | ⟨tag, none⟩ => ofTag tag
  | ⟨tag, some params⟩ => ofParams tag params

end Rule
end FieldRules
