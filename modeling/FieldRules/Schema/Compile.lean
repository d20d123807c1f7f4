import FieldRules.Rule.Token
import FieldRules.Schema.Step

/-!
# Compiling rules

`compileField` turns the specification of one field into its chain. The tags of all tokens are
collected first, since they decide how bounds measure; then each token is placed in order, and the
custom rules follow. Leniently, an unknown rule or a malformed condition is left out with a
diagnostic; strictly, it is an error. Wrong parameters and patterns are errors in both modes.

`compileSchema` compiles all fields, whatever fails, and reports the failures together.
-/

namespace FieldRules

/-- The greatest length of a pattern, in bytes of UTF-8. -/
def maxPatternLength : Nat := 500

structure Diagnostic where
  field : String
  token : String
  issue : Issue
  deriving DecidableEq, Repr

def Diagnostic.message (d : Diagnostic) : String :=
  s!"Field '{d.field}': ignoring rule '{d.token}' ({d.issue.message})"

inductive FieldError
  | invalidPattern (field pattern : String) (fault : Pattern.Fault)
  | patternTooLong (field : String) (length : Nat)
  | invalidParameter (field token : String) (fault : ParameterFault)
  | unknownRule (field token : String)
  | malformedCondition (field tag raw : String)
  deriving DecidableEq, Repr

/-- The `wording` says what is wrong with a pattern. -/
def FieldError.message (wording : String → String) : FieldError → String
  | invalidPattern field pattern _ =>
    s!"Field '{field}': failed to compile regex rule '{pattern}': {wording pattern}"
  | patternTooLong field length =>
    s!"Field '{field}': pattern length ({length}) exceeds maximum allowed ({maxPatternLength})"
  | invalidParameter field token fault =>
    s!"Field '{field}': invalid parameter for rule '{token}': {fault.message}"
  | unknownRule field token => s!"Field '{field}': unknown rule '{token}'"
  | malformedCondition field tag raw =>
    s!"Field '{field}': rule '{tag}' expects 'otherField,value' but got '{raw}'"

/-- Why a schema does not compile: one field's error, or those of several fields in order. -/
inductive SchemaError
  | field (error : FieldError)
  | several (errors : List FieldError)
  deriving DecidableEq, Repr

def SchemaError.message (wording : String → String) : SchemaError → String
  | field error => error.message wording
  | several errors =>
    s!"A fatal error occurred: Failed to compile {errors.length} field(s):\n"
      ++ String.intercalate "\n" (errors.map (FieldError.message wording))

/-- The message and what brought it about: the fault of a pattern is named in both. -/
def SchemaError.chain (wording : String → String) (e : SchemaError) : List String :=
  e.message wording :: match e with
    | field (.invalidPattern _ pattern _) => [wording pattern]
    | _ => []

def insertTag (tag : String) : List String → List String
  | [] => [tag]
  | t :: rest =>
    if tag = t then t :: rest else if tag < t then tag :: t :: rest else t :: insertTag tag rest

def tagsOf (tokens : List String) : List String :=
  tokens.foldr (fun token tags => insertTag (Token.ofString token).tag tags) []

inductive Placement
  | step (step : Step)
  | optional
  | nullable

def compilePattern (field pattern : String) : Except FieldError Pattern :=
  if pattern.utf8ByteSize > maxPatternLength then
    .error (.patternTooLong field pattern.utf8ByteSize)
  else match Pattern.ofString pattern with
    | .ok p => .ok p
    | .error fault => .error (.invalidPattern field pattern fault)

/-- What a rule adds to the chain of a field whose bounds use `m`. -/
def Rule.placement (field : String) (m : Measure) : Rule → Except FieldError Placement
  | required => .ok (.step .required)
  | optional => .ok .optional
  | nullable => .ok .nullable
  | sanitize => .ok (.step (.transform (.sanitize .standard)))
  | default literal => .ok (.step (.transform (.default literal)))
  | type name => .ok (.step (.check (.type name)))
  | min limit => .ok (.step (.check (.bound (.min m limit))))
  | max limit => .ok (.step (.check (.bound (.max m limit))))
  | between least most => .ok (.step (.check (.bound (.between m least most))))
  | length least most => .ok (.step (.check (.bound (.length least most))))
  | oneOf allowed => .ok (.step (.check (.bound (.oneOf allowed))))
  | format pattern =>
    (compilePattern field pattern).map fun p => .step (.check (.bound (.format p)))
  | same other => .ok (.step (.check (.relation (.same other))))
  | requiredIf c => .ok (.step (.check (.relation (.requiredIf c))))
  | requiredUnless c => .ok (.step (.check (.relation (.requiredUnless c))))
  | prohibitedIf c => .ok (.step (.check (.relation (.prohibitedIf c))))

inductive Verdict
  | placed (placement : Placement)
  | ignored (diagnostic : Diagnostic)
  | failed (error : FieldError)

structure Setting where
  field : String
  strict : Bool
  measure : Measure

def Setting.error (s : Setting) (token : String) : Issue → FieldError
  | .invalidParameter fault => .invalidParameter s.field token fault
  | .unknown => .unknownRule s.field token
  | .malformedCondition =>
    let t := Token.ofString token
    .malformedCondition s.field t.tag (t.params.getD "")

def Setting.verdict (s : Setting) (token : String) : Verdict :=
  match Rule.ofToken token with
  | .ok rule => match rule.placement s.field s.measure with
    | .ok placement => .placed placement
    | .error e => .failed e
  | .error (.invalidParameter fault) => .failed (s.error token (.invalidParameter fault))
  | .error issue =>
    if s.strict then .failed (s.error token issue) else .ignored ⟨s.field, token, issue⟩

namespace Chain

def start (field : String) (tags : List String) : Chain :=
  ⟨field, tags, false, false, false, []⟩

def isRequiredStep : Step → Bool
  | .required => true
  | _ => false

def place (c : Chain) : Placement → Chain
  | .step s => { c with steps := c.steps ++ [s], isRequired := c.isRequired || isRequiredStep s }
  | .optional => { c with isOptional := true }
  | .nullable => { c with isNullable := true }

def addCustoms (c : Chain) (customs : List CustomRule) : Chain :=
  { c with steps := c.steps ++ customs.map fun rule => .check (.custom rule) }

end Chain

/-- What compiling a field leaves: the tokens left out before it ended, and its chain or error. -/
structure FieldReport where
  diagnostics : List Diagnostic
  result : Except FieldError Chain

/-- The tokens placed in order until one fails. -/
def compileTokens (s : Setting) : List String → Chain → FieldReport
  | [], c => ⟨[], .ok c⟩
  | token :: rest, c =>
    match s.verdict token with
    | .placed p => compileTokens s rest (c.place p)
    | .ignored d =>
      let r := compileTokens s rest c
      { r with diagnostics := d :: r.diagnostics }
    | .failed e => ⟨[], .error e⟩

def compileField (strict : Bool) (field : String) (spec : Spec) : FieldReport :=
  let tokens := spec.tokens
  let tags := tagsOf tokens
  let r := compileTokens ⟨field, strict, Chain.measureOf tags⟩ tokens (.start field tags)
  { r with result := r.result.map fun c => c.addCustoms spec.customs }

structure Schema where
  chains : List Chain
  diagnostics : List Diagnostic

namespace FieldReport

def chain? (r : FieldReport) : Option Chain := r.result.toOption

def error? (r : FieldReport) : Option FieldError :=
  match r.result with
  | .ok _ => none
  | .error e => some e

end FieldReport

def compileFields (strict : Bool) (specs : List (String × Spec)) : List FieldReport :=
  specs.map fun p => compileField strict p.1 p.2

def Schema.ofReports (reports : List FieldReport) : Except SchemaError Schema :=
  match reports.filterMap FieldReport.error? with
  | [] => .ok ⟨reports.filterMap FieldReport.chain?, reports.flatMap FieldReport.diagnostics⟩
  | [e] => .error (.field e)
  | errors => .error (.several errors)

def compileSchema (strict : Bool) (specs : List (String × Spec)) : Except SchemaError Schema :=
  Schema.ofReports (compileFields strict specs)

end FieldRules
