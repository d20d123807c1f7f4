import FieldRules.CommandLine.Exit
import FieldRules.Proofs.CompiledChain
import FieldRules.Proofs.CutTexts
import FieldRules.RuleFile.Validation

/-!
# The outcome that a validation reports

A validation compiles the rules before it reads its input, and sanitizes the input before it looks
at it. The library is asked in another order: it is given a rule file and a record, or the parts of
a request. The statements below say that the order does not show: a validation ends with the outcome
that the library gives for the same file and input, and fails where the library gives none.
-/

namespace FieldRules

namespace CommandLine

def objectOf? (sanitize : Bool) (v : Value) : Option Record :=
  match if sanitize then (Sanitizer.standard.sanitize v).toOption else some v with
  | some (.object r) => some r
  | _ => none

/-- What the library makes of an input: the outcome of the request that it is, or of the record. -/
def outcomeOf? (file : RuleFile) (o : ValidateOptions) (v : Value) : Option Outcome :=
  if o.request then
    (RequestParts.ofValue? v).bind fun p =>
      (file.validateRequest p (if o.sanitize then some .standard else none)).toOption
  else (objectOf? o.sanitize v).bind fun r => (file.validate r).toOption

namespace Environment

def ruleFile? (env : Environment) (o : ValidateOptions) : Option RuleFile := do
  let text ← (env.file o.rules).toOption
  let file ← (RuleFile.ofFile o.rules text).toOption
  return { file with strict := file.strict || o.strict }

def outcome? (env : Environment) (o : ValidateOptions) : Option Outcome := do
  outcomeOf? (← env.ruleFile? o) o (← (env.input o.input).toOption)

/-- The schema and the record that a validation comes to, if all goes well until then. -/
def Prepares (env : Environment) (o : ValidateOptions) (s : Schema) (r : Record) : Prop :=
  ∃ file v, (env.rules o.rules).result = .ok file ∧
    ({ file with strict := file.strict || o.strict } : RuleFile).compile = .ok s ∧
    env.input o.input = .ok v ∧ recordOf o.request o.sanitize v = .ok r

end Environment

theorem recordOf_record_eq_ok_iff {sanitize : Bool} {v : Value} {r : Record} :
    recordOf false sanitize v = .ok r ↔ objectOf? sanitize v = some r := by
  simp only [recordOf, objectOf?, Bool.false_eq_true, if_false]
  cases sanitize with
  | true =>
      cases hv : Sanitizer.standard.sanitize v with
      | error e => simp [Except.toOption]
      | ok w => cases w <;> simp [Except.toOption]
  | false => cases v <;> simp

theorem recordOf_request_eq_ok_iff {sanitize : Bool} {v : Value} {r : Record} :
    recordOf true sanitize v = .ok r ↔
      ∃ p, RequestParts.ofValue? v = some p ∧
        RuleFile.recordOf (if sanitize then some .standard else none) p = .ok r := by
  simp only [recordOf, if_true]
  cases RequestParts.ofValue? v with
  | none => simp
  | some p =>
      cases sanitize with
      | true => simp [RuleFile.recordOf, map_eq_ok_iff, mapError_eq_ok_iff]
      | false => simp [RuleFile.recordOf]

/-- Sanitizing the parts of a request comes before the rules are compiled, or after it. -/
theorem validateRequest_eq_ok_iff {file : RuleFile} {p : RequestParts} {s : Option Sanitizer}
    {out : Outcome} :
    file.validateRequest p s = .ok out ↔
      ∃ r, RuleFile.recordOf s p = .ok r ∧ file.validate r = .ok out := by
  rw [RuleFile.validateRequest]
  cases RuleFile.recordOf s p with
  | error e => simp
  | ok r => simp [mapError_eq_ok_iff]

theorem outcomeOf?_eq_some_iff {file : RuleFile} {o : ValidateOptions} {v : Value} {out : Outcome} :
    outcomeOf? file o v = some out ↔
      ∃ r, recordOf o.request o.sanitize v = .ok r ∧ file.validate r = .ok out := by
  rw [outcomeOf?]
  cases o.request with
  | true =>
      simp only [if_true, Option.bind_eq_some_iff, toOption_eq_some_iff, validateRequest_eq_ok_iff,
        recordOf_request_eq_ok_iff]
      constructor
      · rintro ⟨p, hp, r, hr, hout⟩
        exact ⟨r, ⟨p, hp, hr⟩, hout⟩
      · rintro ⟨r, ⟨p, hp, hr⟩, hout⟩
        exact ⟨p, hp, r, hr, hout⟩
  | false =>
      simp only [Bool.false_eq_true, if_false, Option.bind_eq_some_iff, toOption_eq_some_iff,
        recordOf_record_eq_ok_iff]

theorem result_rules_eq_ok_iff {env : Environment} {path : String} {file : RuleFile} :
    (env.rules path).result = .ok file ↔
      ∃ text, env.file path = .ok text ∧ RuleFile.ofFile path text = .ok file := by
  simp only [Environment.rules, RuleFile.ofFile, Log.Trace.result_bind, Log.Trace.result_write,
    Log.Trace.result_ofExcept, Log.Trace.result_pure, bind_eq_ok_iff, mapError_eq_ok_iff,
    Except.ok.injEq, true_and, exists_const, exists_eq_right]

/-- The library gives an outcome exactly where a validation comes to run a schema on a record. -/
theorem outcome?_eq_some_iff {env : Environment} {o : ValidateOptions} {out : Outcome} :
    env.outcome? o = some out ↔ ∃ s r, env.Prepares o s r ∧ out = s.validate r := by
  simp only [Environment.outcome?, Environment.ruleFile?, Environment.Prepares, Option.bind_eq_bind,
    Option.bind_eq_some_iff, toOption_eq_some_iff, outcomeOf?_eq_some_iff, result_rules_eq_ok_iff,
    Option.pure_def, Option.some.injEq, RuleFile.validate, map_eq_ok_iff]
  constructor
  · rintro ⟨_, ⟨text, htext, file, hfile, rfl⟩, v, hv, r, hr, s, hs, rfl⟩
    exact ⟨s, r, ⟨file, v, ⟨text, htext, hfile⟩, hs, hv, hr⟩, rfl⟩
  · rintro ⟨s, r, ⟨file, v, ⟨text, htext, hfile⟩, hs, hv, hr⟩, rfl⟩
    exact ⟨_, ⟨text, htext, file, hfile, rfl⟩, v, hv, r, hr, s, hs, rfl⟩

theorem result_validate_eq_ok_iff {env : Environment} {o : ValidateOptions} {ending : Ending} :
    (validate env o).result = .ok ending ↔
      ∃ s r, env.Prepares o s r ∧ ending = endingOf (s.validate r) := by
  simp only [validate, schemaOf, Environment.record, Environment.Prepares, Log.Trace.result_bind,
    Log.Trace.result_write, Log.Trace.result_ofExcept, Log.Trace.result_pure, bind_eq_ok_iff,
    mapError_eq_ok_iff, Except.ok.injEq, true_and, exists_const]
  constructor
  · rintro ⟨file, hfile, s, hs, r, ⟨v, hv, hr⟩, rfl⟩
    exact ⟨s, r, ⟨file, v, hfile, hs, hv, hr⟩, rfl⟩
  · rintro ⟨s, r, ⟨file, v, hfile, hs, hv, hr⟩, rfl⟩
    exact ⟨file, hfile, s, hs, r, ⟨v, hv, hr⟩, rfl⟩

/-- A validation ends as the library's outcome says, and fails where there is none. -/
theorem toOption_result_validate (env : Environment) (o : ValidateOptions) :
    (validate env o).result.toOption = (env.outcome? o).map endingOf := by
  refine Option.ext fun ending => ?_
  rw [toOption_eq_some_iff, result_validate_eq_ok_iff, Option.map_eq_some_iff]
  simp only [outcome?_eq_some_iff]
  constructor
  · rintro ⟨s, r, hr, rfl⟩
    exact ⟨_, ⟨s, r, hr, rfl⟩, rfl⟩
  · rintro ⟨_, ⟨s, r, hr, rfl⟩, rfl⟩
    exact ⟨s, r, hr, rfl⟩

def isErrorLine (terminal : Bool) (line : String) : Bool :=
  (messageLine terminal "").toList.isPrefixOf line.toList

theorem toList_messageLine (terminal : Bool) (message : String) :
    (messageLine terminal message).toList =
      (messageLine terminal "").toList ++ message.toList := by
  simp [messageLine]

theorem isErrorLine_messageLine (terminal : Bool) (message : String) :
    isErrorLine terminal (messageLine terminal message) = true := by
  rw [isErrorLine, toList_messageLine terminal message, List.isPrefixOf_iff_prefix]
  exact List.prefix_append _ _

theorem not_isErrorLine_empty (terminal : Bool) : isErrorLine terminal "" = false := by
  cases terminal <;> rfl

/-- Messages begin with a letter, or with an escape on a terminal. -/
theorem not_isErrorLine_of_head {line : String} {c : Char} (h : line.toList.head? = some c)
    (hc : c ∉ ['e', '\x1b']) (terminal : Bool) : isErrorLine terminal line = false := by
  obtain ⟨rest, hline⟩ : ∃ rest, line.toList = c :: rest := List.head?_eq_some_iff.1 h
  have hmark : ∃ d ∈ ['e', '\x1b'], ∃ more, (messageLine terminal "").toList = d :: more := by
    cases terminal with
    | true => exact ⟨_, List.mem_cons_of_mem _ List.mem_cons_self, _, rfl⟩
    | false => exact ⟨_, List.mem_cons_self, _, rfl⟩
  obtain ⟨d, hd, more, hmark⟩ := hmark
  have hne : d ≠ c := fun heq => hc (heq ▸ hd)
  rw [isErrorLine, hmark, hline, List.isPrefixOf, beq_false_of_ne hne, Bool.false_and]

theorem newline_notMem_messageLine {message : String} (h : '\n' ∉ message.toList)
    (terminal : Bool) : '\n' ∉ (messageLine terminal message).toList := by
  rw [toList_messageLine, List.mem_append]
  refine not_or_intro ?_ h
  cases terminal <;> decide

end CommandLine

namespace Log

theorem head?_render (l : Line) : l.render.toList.head? = some '[' := by
  simp [Line.render, toString]

namespace Filter.Reading

def Warns (r : Reading) : Prop := ∀ text ∈ r.complaints, text.toList.head? = some 'w'

theorem Warns.complain {r : Reading} (h : r.Warns) (text : String) : (r.complain text).Warns := by
  intro complaint hmem
  rcases List.mem_append.1 hmem with hmem | hmem
  · exact h complaint hmem
  · rw [List.mem_singleton.1 hmem]
    simp [toString]

theorem Warns.addPart {r : Reading} (h : r.Warns) (part : String) : (r.addPart part).Warns := by
  rw [Reading.addPart]
  split
  · exact h
  · exact h.complain _

theorem Warns.addPattern {r : Reading} (h : r.Warns) (wording : String → String)
    (source : String) : (r.addPattern wording source).Warns := by
  rw [Reading.addPattern]
  split
  · exact h
  · exact h.complain _

theorem warns_empty : Warns ⟨.empty, []⟩ := List.forall_mem_nil _

theorem warns_ofParts (text : String) : (ofParts text).Warns := by
  rw [ofParts]
  generalize ((Text.pieces ',' text).map Text.trimmed).filter (· ≠ "") = parts
  suffices h : ∀ r : Reading, r.Warns → (parts.foldl addPart r).Warns from h _ warns_empty
  induction parts with
  | nil => exact fun _ h => h
  | cons part rest ih => exact fun r h => ih _ (h.addPart part)

theorem warns_ofString (wording : String → String) (spec : String) :
    (Filter.ofString wording spec).Warns := by
  rw [Filter.ofString]
  split
  · exact warns_ofParts _
  · exact (warns_ofParts _).addPattern _ _
  · exact warns_empty.complain _

end Filter.Reading
end Log

namespace CommandLine

def Exit.errorLines (terminal : Bool) (e : Exit) : List String :=
  (Text.lines e.stderr).filter (isErrorLine terminal)

variable {env : Environment} {verbosity : Verbosity}

/-- What the log and its filter write is told apart from messages by its first character. -/
theorem not_isErrorLine_of_mem_logged {c : Command} {text : String}
    (h : text ∈ c.logged env verbosity) (terminal : Bool) : isErrorLine terminal text = false := by
  rcases List.mem_append.1 h with h | h
  · have hhead := Log.Filter.Reading.warns_ofString _ _ text h
    exact not_isErrorLine_of_head hhead (by decide) terminal
  · obtain ⟨line, -, rfl⟩ := List.mem_map.1 h
    exact not_isErrorLine_of_head (Log.head?_render line) (by decide) terminal

/-- Where nothing that is written holds a line end, the messages are found again among the lines. -/
theorem errorLines_of_stderr {c : Command} {e : Exit} {terminal : Bool} {messages : List String}
    (he : e.stderr =
      Text.ofLines (c.logged env verbosity ++ messages.map (messageLine terminal)))
    (hends : ∀ text ∈ c.logged env verbosity ++ messages, '\n' ∉ text.toList) :
    e.errorLines terminal = messages.map (messageLine terminal) := by
  obtain ⟨hlogged, hmessages⟩ := List.forall_mem_append.1 hends
  have hlines : ∀ text ∈ c.logged env verbosity ++ messages.map (messageLine terminal),
      '\n' ∉ text.toList := by
    rw [List.forall_mem_append, List.forall_mem_map]
    exact ⟨hlogged, fun m hm => newline_notMem_messageLine (hmessages m hm) terminal⟩
  have hlog : (c.logged env verbosity).filter (isErrorLine terminal) = [] := by
    rw [List.filter_eq_nil_iff]
    intro text htext
    rw [not_isErrorLine_of_mem_logged htext]
    exact Bool.false_ne_true
  have hall : (messages.map (messageLine terminal)).filter (isErrorLine terminal) =
      messages.map (messageLine terminal) := by
    rw [List.filter_eq_self, List.forall_mem_map]
    exact fun m _ => isErrorLine_messageLine terminal m
  have hlast : [""].filter (isErrorLine terminal) = [] := by
    rw [List.filter_cons, not_isErrorLine_empty]
    rfl
  rw [Exit.errorLines, he, Text.lines_ofLines hlines, List.filter_append, List.filter_append, hlog,
    hall, hlast, List.append_nil, List.nil_append]

variable {o : ValidateOptions}

theorem run_eq (h : env.invocation = .ok (.command verbosity (.validate o))) :
    run env = match (validate env o).result with
      | .ok ending =>
        .ofEnding env.terminal o.json ((Command.validate o).logged env verbosity) ending
      | .error e => .ofError ((Command.validate o).logged env verbosity) (e.message env.cause) := by
  rw [run, h]
  rfl

theorem result_of_outcome? {out : Outcome} (h : env.outcome? o = some out) :
    (validate env o).result = .ok (endingOf out) := by
  have hresult := toOption_result_validate env o
  rw [h] at hresult
  exact toOption_eq_some_iff.1 hresult

def failureDocument (errors : List String) : Value :=
  .object [("status", .number (.integer 422)), ("errors", .array (errors.map .string))]

theorem run_of_accepted (h : env.invocation = .ok (.command verbosity (.validate o)))
    {out : Outcome} (hout : env.outcome? o = some out) (ha : out.accepted = true) :
    run env = ⟨0, Json.prettyText (.object out.record) ++ "\n",
      Text.ofLines ((Command.validate o).logged env verbosity)⟩ := by
  have hending : endingOf out = .accepted out.record := by
    rw [endingOf, Outcome.toResult, if_pos ha]
  rw [run_eq h, result_of_outcome? hout, hending, ← Text.ofLines_singleton]
  rfl

theorem run_of_rejected (h : env.invocation = .ok (.command verbosity (.validate o)))
    {out : Outcome} (hout : env.outcome? o = some out) (ha : out.accepted = false) :
    run env = if o.json then
        ⟨1, Json.prettyText (failureDocument out.errors) ++ "\n",
          Text.ofLines ((Command.validate o).logged env verbosity)⟩
      else
        ⟨1, "", Text.ofLines ((Command.validate o).logged env verbosity
          ++ out.errors.map (messageLine env.terminal))⟩ := by
  have hending : endingOf out = .rejected ⟨422, out.errors⟩ := by
    rw [endingOf, Outcome.toResult, if_neg (Bool.eq_false_iff.1 ha)]
    rfl
  rw [run_eq h, result_of_outcome? hout, hending, ← Text.ofLines_singleton]
  rfl

theorem run_of_none (h : env.invocation = .ok (.command verbosity (.validate o)))
    (hout : env.outcome? o = none) : (run env).code = 2 ∧ (run env).stdout = "" := by
  have hresult := toOption_result_validate env o
  rw [hout] at hresult
  rw [run_eq h]
  cases he : (validate env o).result with
  | ok ending => simp [he, Except.toOption] at hresult
  | error e => exact ⟨rfl, rfl⟩

theorem code_run (h : env.invocation = .ok (.command verbosity (.validate o))) :
    (run env).code = match env.outcome? o with
      | some out => if out.accepted then 0 else 1
      | none => 2 := by
  cases hout : env.outcome? o with
  | none => exact (run_of_none h hout).1
  | some out =>
      cases ha : out.accepted with
      | true =>
          rw [run_of_accepted h hout ha]
          exact (if_pos ha).symm
      | false =>
          rw [run_of_rejected h hout ha]
          refine Eq.trans ?_ (if_neg (Bool.eq_false_iff.1 ha)).symm
          cases o.json <;> rfl

/-- Whatever the rule file, the input and the switches are, the exit code is 0 exactly if the
library accepts and 1 exactly if it rejects, and then the record, the document or the messages are
those of its outcome. The messages follow the log, each on a line that begins with the mark of an
error; no other line does as long as neither the log nor a message holds a line end. In all other
cases the code is 2, and nothing stands on the standard output. -/
theorem run_validate_reports_outcome
    (h : env.invocation = .ok (.command verbosity (.validate o))) :
    let logged := (Command.validate o).logged env verbosity
    ((run env).code = 0 ↔ ∃ out, env.outcome? o = some out ∧ out.accepted = true) ∧
    ((run env).code = 1 ↔ ∃ out, env.outcome? o = some out ∧ out.accepted = false) ∧
    (∀ out, env.outcome? o = some out → out.accepted = true →
      (run env).stdout = Json.prettyText (.object out.record) ++ "\n" ∧
        (run env).stderr = Text.ofLines logged) ∧
    (∀ out, env.outcome? o = some out → out.accepted = false →
      if o.json then
        (run env).stdout = Json.prettyText (failureDocument out.errors) ++ "\n" ∧
          (run env).stderr = Text.ofLines logged
      else
        (run env).stdout = "" ∧
          (run env).stderr =
            Text.ofLines (logged ++ out.errors.map (messageLine env.terminal)) ∧
          ((∀ text ∈ logged ++ out.errors, '\n' ∉ text.toList) →
            (run env).errorLines env.terminal = out.errors.map (messageLine env.terminal))) ∧
    (env.outcome? o = none → (run env).code = 2 ∧ (run env).stdout = "") := by
  refine ⟨?_, ?_, fun out hout ha => ?_, fun out hout ha => ?_, run_of_none h⟩
  · rw [code_run h]
    cases env.outcome? o with
    | none => simp
    | some out => cases ha : out.accepted <;> simp [ha]
  · rw [code_run h]
    cases env.outcome? o with
    | none => simp
    | some out => cases ha : out.accepted <;> simp [ha]
  · rw [run_of_accepted h hout ha]
    exact ⟨rfl, rfl⟩
  · have hrun := run_of_rejected h hout ha
    cases hjson : o.json with
    | true =>
        rw [hjson, if_pos rfl] at hrun
        rw [if_pos rfl, hrun]
        exact ⟨rfl, rfl⟩
    | false =>
        rw [hjson, if_neg Bool.false_ne_true] at hrun
        rw [if_neg Bool.false_ne_true, hrun]
        exact ⟨rfl, rfl, errorLines_of_stderr rfl⟩

/-- A strict file and a request that is to be sanitized, on a terminal: the name is empty once its
tag is removed, and the age is no number. -/
theorem run_validate_reports_outcome_request :
    let file := "\x7b\"fields\":\x7b\"name\":\"required\",\"age\":\"integer\"\x7d\x7d"
    let env : Environment :=
      ⟨["-q", "validate", "--rules=rules.json", "--request", "-s", "--strict"], fun _ => none,
        fun _ => .ok file,
        .ok "\x7b\"body\":\x7b\"name\":\"<b>\"\x7d,\"query\":\x7b\"age\":\"old\"\x7d\x7d", true,
        fun _ => ""⟩
    let o : ValidateOptions := ⟨"rules.json", none, true, true, true, false⟩
    env.invocation = .ok (.command .quiet (.validate o)) ∧
    (run env).code = 1 ∧ (run env).stdout = "" ∧
    (run env).errorLines true =
      ["name is required", "age must be an integer"].map (messageLine true) := by
  intro file env o
  have h : env.invocation = .ok (.command .quiet (.validate o)) := by rfl
  have herrors : (env.outcome? o).map Outcome.errors =
      some ["name is required", "age must be an integer"] := by decide +kernel
  obtain ⟨out, hout, herrors⟩ := Option.map_eq_some_iff.1 herrors
  have ha : out.accepted = false := by
    rw [Outcome.accepted, herrors]
    rfl
  have hends : ∀ text ∈ (Command.validate o).logged env .quiet ++ out.errors,
      '\n' ∉ text.toList := by
    rw [herrors]
    decide +kernel
  obtain ⟨-, hrejected, -, hmessages, -⟩ := run_validate_reports_outcome h
  have hwritten := hmessages out hout ha
  rw [if_neg Bool.false_ne_true] at hwritten
  obtain ⟨hstdout, -, hlines⟩ := hwritten
  exact ⟨h, hrejected.2 ⟨out, hout, ha⟩, hstdout, herrors ▸ hlines hends⟩

/-- The log repeats unknown rules as they are, so a line of it may look like a message. -/
theorem errorLines_of_unknown_rule :
    ¬ ∀ (env : Environment) (verbosity : Verbosity) (o : ValidateOptions) (out : Outcome),
      env.invocation = .ok (.command verbosity (.validate o)) → env.outcome? o = some out →
        out.accepted = false → o.json = false →
        (run env).errorLines env.terminal = out.errors.map (messageLine env.terminal) := by
  intro hall
  let env : Environment :=
    ⟨["validate", "--rules", "rules.json"], fun _ => none,
      fun _ => .ok "\x7b\"fields\":\x7b\"a\":\"required|foo\\nerror: fake\"\x7d\x7d",
      .ok "\x7b\x7d", false, fun _ => ""⟩
  let o : ValidateOptions := ⟨"rules.json", none, false, false, false, false⟩
  have h : env.invocation = .ok (.command .unstated (.validate o)) := by rfl
  have herrors : (env.outcome? o).map Outcome.errors = some ["a is required"] := by decide +kernel
  have hlines : (run env).errorLines false =
      ["error: fake' (unknown rule)", "error: fake' (unknown rule)", "error: a is required"] := by
    decide +kernel
  obtain ⟨out, hout, herrors⟩ := Option.map_eq_some_iff.1 herrors
  have ha : out.accepted = false := by
    rw [Outcome.accepted, herrors]
    rfl
  have heq := hall env .unstated o out h hout ha rfl
  rw [herrors, hlines] at heq
  exact absurd heq (by decide)

end CommandLine
end FieldRules
