import FieldRules.Failure
import FieldRules.Request
import FieldRules.RuleFile

/-!
# Validating against a rule file

The outcome of a record or of a request under the rules of a file, in one step: the file is compiled
and the schema run. The parts of a request may be sanitized before they are merged; a part that is
nested too deeply is refused before the rules are looked at.
-/

namespace FieldRules

inductive ValidationError
  | tooDeep (error : TooDeep)
  | schema (error : SchemaError)

namespace RuleFile

def validate (file : RuleFile) (r : Record) : Except SchemaError Outcome :=
  file.compile.map fun s => s.validate r

def recordOf (sanitizer : Option Sanitizer) (p : RequestParts) : Except TooDeep Record :=
  match sanitizer with
  | none => .ok p.merged
  | some s => (p.sanitized s).map RequestParts.merged

def validateRequest (file : RuleFile) (p : RequestParts) (sanitizer : Option Sanitizer) :
    Except ValidationError Outcome :=
  match recordOf sanitizer p with
  | .error e => .error (.tooDeep e)
  | .ok r => (file.validate r).mapError .schema

end RuleFile
end FieldRules
