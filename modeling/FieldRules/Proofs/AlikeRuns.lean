import FieldRules.CommandLine.Exit
import FieldRules.Proofs.CompiledChain

/-!
# Runs that end alike

Two validations by the same rules can differ only from where they take their record. If both get the
same record, or both fail there, they log the same lines and end alike: with the same code and the
same text on the standard output, and also with the same text on the error stream if their errors
have the same message.
-/

namespace FieldRules

namespace Log.Trace

variable {ε α β : Type} {R : ε → ε → Prop}

/-- The two write the same lines, and come to the same result or to errors that are related. -/
inductive Alike (R : ε → ε → Prop) : Trace ε α → Trace ε α → Prop
  | ok (lines : List Line) (a : α) : Alike R ⟨lines, .ok a⟩ ⟨lines, .ok a⟩
  | error (lines : List Line) {e e' : ε} (h : R e e') : Alike R ⟨lines, .error e⟩ ⟨lines, .error e'⟩

namespace Alike

theorem refl (hR : ∀ e, R e e) (t : Trace ε α) : Alike R t t := by
  obtain ⟨lines, result⟩ := t
  cases result with
  | ok a => exact .ok lines a
  | error e => exact .error lines (hR e)

theorem prepend {t t' : Trace ε α} (h : Alike R t t') (lines : List Line) :
    Alike R ⟨lines ++ t.lines, t.result⟩ ⟨lines ++ t'.lines, t'.result⟩ := by
  cases h with
  | ok later a => exact .ok (lines ++ later) a
  | error later he => exact .error (lines ++ later) he

/-- What follows is looked at only where the two have a result. -/
theorem bind {t t' : Trace ε α} (h : Alike R t t') {f f' : α → Trace ε β}
    (hf : ∀ a, t.result = .ok a → Alike R (f a) (f' a)) : Alike R (t >>= f) (t' >>= f') := by
  cases h with
  | ok lines a => exact (hf a rfl).prepend lines
  | error lines he => exact .error lines he

theorem result {t t' : Trace ε α} (h : Alike R t t') :
    (∃ a, t.result = .ok a ∧ t'.result = .ok a) ∨
      ∃ e e', t.result = .error e ∧ t'.result = .error e' ∧ R e e' := by
  cases h with
  | ok lines a => exact .inl ⟨a, rfl, rfl⟩
  | error lines he => exact .inr ⟨_, _, rfl, rfl, he⟩

end Alike
end Log.Trace

namespace CommandLine

open Log (Trace)

namespace Environment

def Compiles (env : Environment) (o : ValidateOptions) : Prop :=
  ∃ file s, (env.rules o.rules).result = .ok file ∧
    ({ file with strict := file.strict || o.strict } : RuleFile).compile = .ok s

variable {env : Environment}

theorem input_of_text {path : Option String} {text : String} (h : env.inputText path = .ok text) :
    env.input path = match Json.ofString? text with
      | some v => .ok v
      | none => .error (.notJson text) := by
  rw [input, h]
  rfl

theorem record_of_input {o : ValidateOptions} {v : Value} (h : env.input o.input = .ok v) :
    env.record o = (do
      Trace.write (refusalOfRecord (recordOf o.request o.sanitize v))
      Trace.ofExcept (recordOf o.request o.sanitize v)) := by
  rw [record, h]
  rfl

theorem record_of_input_error {o : ValidateOptions} {e : CommandError}
    (h : env.input o.input = .error e) : env.record o = ⟨[], .error e⟩ := by
  rw [record, h]
  rfl

end Environment

/-- Two validations by the same rules: they may take their records from different inputs, and in
different ways. -/
structure SameRules (env env' : Environment) (o o' : ValidateOptions) : Prop where
  path_eq : o.rules = o'.rules
  strict_eq : o.strict = o'.strict
  json_eq : o.json = o'.json
  file_eq : env.file o.rules = env'.file o'.rules
  setting?_eq : env.setting? = env'.setting?
  terminal_eq : env.terminal = env'.terminal
  cause_eq : env.cause = env'.cause

def SameMessage (env : Environment) (e e' : CommandError) : Prop :=
  e.message env.cause = e'.message env.cause

variable {env env' : Environment} {o o' : ValidateOptions}

theorem sameMessage_refl (env : Environment) (e : CommandError) : SameMessage env e e := rfl

theorem sameMessage_notJson {text text' : String}
    (h : env.cause (.document text) = env.cause (.document text')) :
    SameMessage env (.notJson text) (.notJson text') := by
  rw [SameMessage, CommandError.message, CommandError.message, CommandError.chain,
    CommandError.chain, h]

theorem sameMessage_notRequest {v v' : Value}
    (h : env.cause (.request v) = env.cause (.request v')) :
    SameMessage env (.notRequest v) (.notRequest v') := by
  rw [SameMessage, CommandError.message, CommandError.message, CommandError.chain,
    CommandError.chain, h]

theorem SameRules.validate_alike (h : SameRules env env' o o')
    {R : CommandError → CommandError → Prop} (hR : ∀ e, R e e)
    (hrecord : env.Compiles o → Trace.Alike R (env.record o) (env'.record o')) :
    Trace.Alike R (validate env o) (validate env' o') := by
  have hrules : env.rules o.rules = env'.rules o'.rules := by
    rw [Environment.rules, Environment.rules, h.file_eq, h.path_eq]
  have hrevealing : env.revealing = env'.revealing := by
    rw [Environment.revealing, Environment.revealing, h.setting?_eq]
  rw [validate, validate, ← hrules, ← hrevealing, ← h.path_eq, ← h.strict_eq]
  refine (Trace.Alike.refl hR _).bind fun file hfile => ?_
  refine (Trace.Alike.refl hR _).bind fun s hs => ?_
  have hcompiles : env.Compiles o := by
    refine ⟨file, s, hfile, ?_⟩
    simp only [schemaOf, Trace.result_bind, Trace.result_write, Trace.result_ofExcept,
      bind_eq_ok_iff, mapError_eq_ok_iff, exists_const, true_and] at hs
    exact hs
  refine (Trace.Alike.refl hR _).bind fun _ _ => ?_
  exact (hrecord hcompiles).bind fun r _ => .refl hR _

theorem Exit.code_stdout_ofEnding {terminal terminal' asJson : Bool} {logged logged' : List String}
    (ending : Ending) :
    (ofEnding terminal asJson logged ending).code =
        (ofEnding terminal' asJson logged' ending).code ∧
      (ofEnding terminal asJson logged ending).stdout =
        (ofEnding terminal' asJson logged' ending).stdout := by
  cases ending with
  | rejected f => cases asJson <;> exact ⟨rfl, rfl⟩
  | _ => exact ⟨rfl, rfl⟩

variable {c c' : Command} {verbosity : Verbosity}

/-- The code and the standard output tell neither the log nor which error it was. -/
theorem Command.code_stdout_run_of_alike
    (h : Trace.Alike (fun _ _ => True) (c.perform env) (c'.perform env'))
    (hjson : c.asJson = c'.asJson) :
    (c.run env verbosity).code = (c'.run env' verbosity).code ∧
      (c.run env verbosity).stdout = (c'.run env' verbosity).stdout := by
  rw [run, run, hjson]
  rcases h.result with ⟨ending, hc, hc'⟩ | ⟨e, e', hc, hc', -⟩
  · rw [hc, hc']
    exact Exit.code_stdout_ofEnding ending
  · rw [hc, hc']
    exact ⟨rfl, rfl⟩

theorem logOf_eq_of_alike {t t' : Trace CommandError Ending}
    (h : Trace.Alike (SameMessage env) t t') : logOf env.cause t = logOf env.cause t' := by
  cases h with
  | ok lines ending => rfl
  | error lines he => simp only [logOf, show _ = _ from he]

theorem Command.run_eq_of_alike
    (h : Trace.Alike (SameMessage env) (c.perform env) (c'.perform env'))
    (hjson : c.asJson = c'.asJson) (hsetting : env.setting? = env'.setting?)
    (hterminal : env.terminal = env'.terminal) (hcause : env.cause = env'.cause) :
    c.run env verbosity = c'.run env' verbosity := by
  have hfilter : env.filter verbosity = env'.filter verbosity := by
    rw [Environment.filter, Environment.filter, hsetting, hcause]
  have hlogged : c.logged env verbosity = c'.logged env' verbosity := by
    rw [logged, logged, ← hcause, logOf_eq_of_alike h, hfilter]
  rw [run, run, hlogged, ← hjson, ← hterminal, ← hcause]
  rcases h.result with ⟨ending, hc, hc'⟩ | ⟨e, e', hc, hc', hmessage⟩
  · rw [hc, hc']
  · rw [hc, hc']
    exact congrArg (Exit.ofError _) hmessage

namespace SameRules

theorem code_stdout_run (h : SameRules env env' o o')
    (hrecord : Trace.Alike (fun _ _ => True) (env.record o) (env'.record o'))
    (henv : env.invocation = .ok (.command verbosity (.validate o)))
    (henv' : env'.invocation = .ok (.command verbosity (.validate o'))) :
    (run env).code = (run env').code ∧ (run env).stdout = (run env').stdout := by
  rw [run, run, henv, henv']
  exact Command.code_stdout_run_of_alike (h.validate_alike (fun _ => trivial) fun _ => hrecord)
    h.json_eq

theorem run_eq (h : SameRules env env' o o')
    (hrecord : env.Compiles o → Trace.Alike (SameMessage env) (env.record o) (env'.record o'))
    (henv : env.invocation = .ok (.command verbosity (.validate o)))
    (henv' : env'.invocation = .ok (.command verbosity (.validate o'))) : run env = run env' := by
  rw [run, run, henv, henv']
  exact Command.run_eq_of_alike (h.validate_alike (sameMessage_refl env) hrecord) h.json_eq
    h.setting?_eq h.terminal_eq h.cause_eq

end SameRules
end CommandLine
end FieldRules
