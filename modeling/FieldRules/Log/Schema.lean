import FieldRules.Log.Line
import FieldRules.Schema.Cache
import FieldRules.Schema.Description
import FieldRules.Schema.Run

/-!
# The log of a schema

What is written to the log while rules are compiled, a schema is looked up in a cache, or a record
is run through it.
-/

namespace FieldRules.Log

def ofRefusal (e : TooDeep) : List Line :=
  [⟨.debug, "reqguard_core::sanitizer", s!"Refusing to descend past depth {e.limit}."⟩]

def runner : String := "reqguard_core::runner"

def ofEvent (revealing : Bool) : Event → List Line
  | .refused field e =>
    ofRefusal e ++ [⟨.debug, runner, s!"Sanitizing '{field}' failed: {e.message}"⟩]
  | .asked _ _ => []
  | .objected rule field reason =>
    [⟨.debug, runner, s!"Custom rule '{rule}' on '{field}' rejected: {reason}"⟩]
  | .failed field value message =>
    [⟨.debug, runner, s!"Field '{field}' failed with value {shown revealing value}: {message}"⟩]

def ofOutcome (fields : Nat) (o : Outcome) : Line :=
  if o.accepted then ⟨.debug, runner, s!"Record accepted ({fields} field(s) checked)."⟩
  else ⟨.info, runner, s!"Record rejected with {o.errors.length} error(s)."⟩

def ofRun (revealing : Bool) (s : Schema) (r : Record) : List Line :=
  (s.run r).events.flatMap (ofEvent revealing) ++ [ofOutcome s.chains.length (s.validate r)]

def compiler : String := "reqguard_core::compiler"

def ofReport (r : FieldReport) : List Line :=
  r.diagnostics.map (fun d => ⟨.warn, compiler, d.message⟩)
    ++ match r.result with
      | .error _ => []
      | .ok c =>
        [⟨.debug, compiler, s!"Field '{c.field}' compiled: {c.steps.length} step(s), bounds "
          ++ s!"measured as {c.measure.label}."⟩]

def rulesCompiler : String := "reqguard_core::rules::compiler"

def ofCompile (file : RuleFile) : List Line :=
  let reports := compileFields file.strict file.specs
  reports.flatMap ofReport ++ match Schema.ofReports reports with
    | .error _ => []
    | .ok s =>
      [⟨.debug, rulesCompiler, s!"Finished compiling schema. Total fields: {s.chains.length}."⟩]

def ofLookup (key : String) (file : RuleFile) (found : Lookup) : List Line :=
  let compile :=
    [⟨.debug, rulesCompiler, "Compiled schema not found in cache. Compiling now."⟩]
      ++ ofCompile file ++ match file.compile with
        | .error _ => []
        | .ok _ =>
          [⟨.debug, rulesCompiler, s!"Successfully compiled and cached schema for key: {key}"⟩]
  match found with
  | .hit => [⟨.debug, rulesCompiler, s!"Serving compiled schema from cache for key: {key}"⟩]
  | .collision =>
    ⟨.warn, rulesCompiler, s!"Schema cache key {key} collided with a different configuration."⟩
      :: compile
  | .absent => compile

end FieldRules.Log
