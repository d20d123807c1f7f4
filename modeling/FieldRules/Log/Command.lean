import FieldRules.Failure
import FieldRules.Log.Line
import FieldRules.RuleFile

/-!
# The log of the commands

What the commands add to the log of the schemas they use: about the rule file, the record and the
result.
-/

namespace FieldRules.Log

def config : String := "reqguard_core::config"

def loading (path : String) : Line := ⟨.info, config, s!"Loading rules from: {path}"⟩

def ofBlankRules (file : RuleFile) : List Line :=
  (file.fields.filter fun f => Text.trimmed f.1 != "" && f.2.isBlank).map fun f =>
    ⟨.debug, config, s!"Field '{f.1}' declares no rules; it will always pass."⟩

def loaded (path : String) (file : RuleFile) : Line :=
  ⟨.info, config, s!"Loaded rules for {file.fields.length} field(s) from {path}."⟩

def validateCommand : String := "reqguard::commands::validate"

def ofDiagnostics (s : Schema) : List Line :=
  s.diagnostics.map fun d => ⟨.warn, validateCommand, d.message⟩

def validating (r : Record) : Line :=
  ⟨.debug, validateCommand, s!"Validating a record with {r.length} field(s)."⟩

def ofResult : Except ValidationFailure Record → Line
  | .ok _ => ⟨.info, validateCommand, "Record accepted."⟩
  | .error f =>
    ⟨.info, validateCommand, s!"Record rejected with {f.errors.length} message(s)."⟩

def sanitizeCommand : String := "reqguard::commands::sanitize"

def sanitizing : Line := ⟨.info, sanitizeCommand, "Starting sanitize operation."⟩

def limit (s : Sanitizer) : Line :=
  ⟨.debug, sanitizeCommand, s!"Sanitizing with max depth {s.maxDepth}."⟩

end FieldRules.Log
