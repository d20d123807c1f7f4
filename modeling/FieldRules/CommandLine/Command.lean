import FieldRules.CommandLine.Invocation
import FieldRules.Failure
import FieldRules.Json.Reader
import FieldRules.Log.Command
import FieldRules.Log.Schema
import FieldRules.Log.Trace
import FieldRules.Request
import FieldRules.RuleFile.Path

/-!
# Commands

What the two commands do: `validate` checks an input against the rules of a file, `sanitize` cleans
an input. A command reads what surrounds it, writes to the log, and comes to an end or fails. The
rules are compiled before the input is read, and the input is sanitized before it is looked at.
-/

namespace FieldRules.CommandLine

open Log (Line Trace)

/-- What a reader refuses: a text that is no document, rule file or pattern, or a value that is no
request. -/
inductive Unreadable
  | document (text : String)
  | jsonRules (text : String)
  | yamlRules (text : String)
  | pattern (text : String)
  | request (value : Value)
  deriving DecidableEq

/-- What surrounds a command. A text that cannot be read has a reason instead, and what is read in
vain has a cause, worded by the reader that refuses it. -/
structure Environment where
  arguments : List String
  setting? : String → Option String
  file : String → Except String String
  stdin : Except String String
  terminal : Bool
  cause : Unreadable → String

inductive CommandError
  | unreadableRules (path reason : String)
  | badRules (path text : String) (error : RuleFileError)
  | badSchema (path : String) (error : SchemaError)
  | unreadableInput (path reason : String)
  | unreadableStdin (reason : String)
  | notJson (text : String)
  | notRequest (value : Value)
  | notObject (value : Value)
  | tooDeep (error : TooDeep)
  | notSanitized (error : TooDeep)

def kindOf : Value → String
  | .null => "null"
  | .bool _ => "a boolean"
  | .number _ => "a number"
  | .string _ => "a string"
  | .array _ => "an array"
  | .object _ => "an object"

def refusedRules? (text : String) : RuleFileError → Option Unreadable
  | .notJson => some (.jsonRules text)
  | .notYaml => some (.yamlRules text)
  | .blankNames _ => none

def CommandError.chain (cause : Unreadable → String) : CommandError → List String
  | unreadableRules path reason => [s!"Failed to read rules file {path}", reason]
  | badRules path text e =>
    [s!"Failed to parse rules file {path}", e.message] ++ ((refusedRules? text e).map cause).toList
  | badSchema path e =>
    s!"Failed to compile rules from {path}" :: e.chain fun pattern => cause (.pattern pattern)
  | unreadableInput path reason => [s!"Failed to read input file {path}", reason]
  | unreadableStdin reason => ["Failed to read from stdin", reason]
  | notJson text => ["Input is not valid JSON", cause (.document text)]
  | notRequest v =>
    ["Request input must be an object with body, query and params", cause (.request v)]
  | notObject v => [s!"Input must be a JSON object, got {kindOf v}"]
  | tooDeep e => [e.message]
  | notSanitized e => ["Sanitization failed", e.message]

def CommandError.message (cause : Unreadable → String) (e : CommandError) : String :=
  String.intercalate ": " (e.chain cause)

inductive Ending
  | accepted (record : Record)
  | rejected (failure : ValidationFailure)
  | cleaned (value : Value)

def refusal {α : Type} : Except TooDeep α → List Line
  | .ok _ => []
  | .error e => Log.ofRefusal e

namespace Environment

def inputText (env : Environment) : Option String → Except CommandError String
  | some path => (env.file path).mapError (.unreadableInput path)
  | none => env.stdin.mapError .unreadableStdin

def input (env : Environment) (path : Option String) : Except CommandError Value := do
  let text ← env.inputText path
  match Json.ofString? text with
  | some v => .ok v
  | none => .error (.notJson text)

/-- Submitted values are shown in the log if the variable is `true`, in any case. -/
def revealing (env : Environment) : Bool :=
  (env.setting? "REQGUARD_ALLOW_DEBUG_PII").any fun v => v.toUpper = "TRUE"

def rules (env : Environment) (path : String) : Trace CommandError RuleFile := do
  Trace.write [Log.loading path]
  let text ← Trace.ofExcept ((env.file path).mapError (.unreadableRules path))
  let file ← Trace.ofExcept ((RuleFile.readFrom path text).mapError (.badRules path text))
  Trace.write (Log.ofBlankRules file)
  let file ← Trace.ofExcept (file.checked.mapError (.badRules path text))
  Trace.write [Log.loaded path file]
  return file

end Environment

def shownKey (file : RuleFile) : String := toString file.key.toNat

def schemaOf (path : String) (file : RuleFile) : Trace CommandError Schema := do
  Trace.write (Log.ofLookup (shownKey file) file .absent)
  Trace.ofExcept (file.compile.mapError (.badSchema path))

/-- The record that an input is, or the merged record of the request that it is. -/
def recordOf (request sanitize : Bool) (v : Value) : Except CommandError Record :=
  let sanitizer := Sanitizer.standard
  if request then
    match RequestParts.ofValue? v with
    | none => .error (.notRequest v)
    | some p =>
      if sanitize then ((p.sanitized sanitizer).mapError .tooDeep).map RequestParts.merged
      else .ok p.merged
  else
    match if sanitize then sanitizer.sanitize v else .ok v with
    | .error e => .error (.tooDeep e)
    | .ok (.object r) => .ok r
    | .ok v => .error (.notObject v)

def refusalOfRecord : Except CommandError Record → List Line
  | .error (.tooDeep e) => Log.ofRefusal e
  | _ => []

def Environment.record (env : Environment) (o : ValidateOptions) : Trace CommandError Record := do
  let input ← Trace.ofExcept (env.input o.input)
  let record := recordOf o.request o.sanitize input
  Trace.write (refusalOfRecord record)
  Trace.ofExcept record

def endingOf (o : Outcome) : Ending :=
  match o.toResult with
  | .ok r => .accepted r
  | .error f => .rejected f

def validate (env : Environment) (o : ValidateOptions) : Trace CommandError Ending := do
  let file ← env.rules o.rules
  let file := { file with strict := file.strict || o.strict }
  let schema ← schemaOf o.rules file
  Trace.write (Log.ofDiagnostics schema)
  let record ← env.record o
  Trace.write (Log.validating record :: Log.ofRun env.revealing schema record)
  let outcome := schema.validate record
  Trace.write [Log.ofResult outcome.toResult]
  return endingOf outcome

def sanitize (env : Environment) (o : SanitizeOptions) : Trace CommandError Ending := do
  Trace.write [Log.sanitizing]
  let input ← Trace.ofExcept (env.input o.input)
  Trace.write [Log.limit o.sanitizer]
  let cleaned := o.sanitizer.sanitize input
  Trace.write (refusal cleaned)
  let cleaned ← Trace.ofExcept (cleaned.mapError .notSanitized)
  return .cleaned cleaned

def Command.perform (env : Environment) : Command → Trace CommandError Ending
  | validate o => CommandLine.validate env o
  | sanitize o => CommandLine.sanitize env o

end FieldRules.CommandLine
