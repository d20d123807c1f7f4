import FieldRules.Proofs.AlikeRuns
import FieldRules.Proofs.CutTexts
import FieldRules.Proofs.DepthLimit
import FieldRules.Proofs.WrittenValues

/-!
# Sanitizing in a run of its own

A document can be cleaned by one run of the program and its output validated by a second run, or one
run can do both. The cleaned value is printed and read again in between. Nothing is lost on that
way: the value is within the reader's limit, its objects have each key once, strings come back from
their escapes and integers of 64 bits from their digits. So both ways end alike.

What no reader accepts is not printed, and the second run reads nothing at all; a value that is no
request is shown as it stands by the one way and cleaned by the other. Then only the cause that the
reader gives for its refusal can differ.
-/

namespace FieldRules

open Cleaning (cleanText)

/-- The number was read as an integer, or it is zero: `-0` is read as a float, and so is what does
not fit 64 bits. -/
def Number.IsInteger : Number → Prop
  | integer _ => True
  | float x => x.units = 0

def Value.Frame.NumbersIntegral : Frame → Prop
  | .number n => n.IsInteger
  | _ => True

namespace Json

variable {t : List Char} {v : Value} (f : String → String)

theorem keysDistinct_of_read? (h : read? t = some v) : (v.mapStrings f).Every KeysDistinct := by
  have hkeys (frame : Value.Frame) (hframe : frame.Readable) : KeysDistinct (frame.mapString f) := by
    cases frame with
    | object keys => exact hframe
    | _ => trivial
  exact (every_readable_of_read? h).mapStrings hkeys

theorem numbersSpelled_of_read? (h : read? t = some v) (hv : v.Every Value.Frame.NumbersIntegral) :
    (v.mapStrings f).Every NumbersSpelled := by
  have hspelled (frame : Value.Frame) (hframe : frame.Readable ∧ frame.NumbersIntegral) :
      NumbersSpelled (frame.mapString f) := by
    cases frame with
    | number n =>
        cases n with
        | integer i => exact spells_integer hframe.1
        | float x => exact spells_zero hframe.2
    | _ => trivial
  exact ((every_readable_of_read? h).and hv).mapStrings hspelled

theorem ofString?_prettyText {text : String} (h : ofString? text = some v)
    (hv : v.Every Value.Frame.NumbersIntegral) :
    ofString? (prettyText (v.mapStrings f) ++ "\n") = some (v.mapStrings f) := by
  have hdepth : (v.mapStrings f).depth ≤ depthLimit := by
    rw [Value.depth_mapStrings]
    exact depth_le_of_read? h
  have htext : (prettyText (v.mapStrings f) ++ "\n").toList = pretty (v.mapStrings f) ++ ['\n'] := by
    rw [prettyText, String.toList_append, String.toList_ofList]
    rfl
  rw [ofString?, htext]
  exact read?_pretty hdepth (keysDistinct_of_read? f h) (numbersSpelled_of_read? f h hv)

theorem Lexer.run_replicate {c : Char} {token : Token} (hc : Token.ofPunctuation? c = some token)
    (n : Nat) (rest : List Char) (before : List Token) :
    run (List.replicate n c ++ rest) ⟨before, .between⟩ =
      run rest ⟨List.replicate n token ++ before, .between⟩ := by
  induction n generalizing before with
  | zero => rfl
  | succ n ih =>
      rw [List.replicate_succ, List.cons_append, run_cons_of_step (step_of_punctuation hc before),
        ih, List.replicate_succ', List.append_assoc, List.singleton_append]

/-- Arrays that open inside each other are refused before the first of them ends. -/
theorem Reader.foldlM_openArrays {n : Nat} {frames : List Frame}
    (hframes : frames.length < depthLimit) (hn : depthLimit ≤ frames.length + n) :
    (List.replicate n Token.openArray).foldlM (step Record.ofList) ⟨frames, .firstItem⟩ = none := by
  induction n generalizing frames with
  | zero => exact absurd hframes (Nat.not_lt.2 hn)
  | succ n ih =>
      rw [List.replicate_succ, List.foldlM_cons]
      change (begin? (.items [] :: frames) .openArray).bind _ = none
      rw [begin?]
      split
      · exact ih ‹_› (by rw [List.length_cons]; omega)
      · rfl

theorem read?_nested {n : Nat} (hn : depthLimit ≤ n) :
    read? (List.replicate (n + 1) '[' ++ List.replicate (n + 1) ']') = none := by
  have htokens : Token.ofText? (List.replicate (n + 1) '[' ++ List.replicate (n + 1) ']') =
      some (List.replicate (n + 1) .openArray ++ List.replicate (n + 1) .closeArray) := by
    change (Lexer.run (_ ++ _) ⟨[], .between⟩).bind Lexer.finish? = _
    rw [Lexer.run_replicate rfl, ← List.append_nil (List.replicate (n + 1) ']'),
      Lexer.run_replicate rfl]
    simp [Lexer.run, Lexer.finish?]
  have hopen : (List.replicate n Token.openArray).foldlM (Reader.step Record.ofList)
      ⟨[], .firstItem⟩ = none :=
    Reader.foldlM_openArrays (by decide) (by rw [List.length_nil]; omega)
  rw [read?, htokens, Option.bind_some, ofTokens?, List.foldlM_append, List.replicate_succ,
    List.foldlM_cons]
  change Option.bind (Option.bind ((List.replicate n Token.openArray).foldlM
    (Reader.step Record.ofList) (Reader.mk [] .firstItem)) _) _ = none
  rw [hopen]
  rfl

end Json

namespace CommandLine

open Log (Trace)

variable {env : Environment}

def cleanedText (text : String) : String :=
  match Json.ofString? text with
  | some v => Json.prettyText (v.mapStrings cleanText) ++ "\n"
  | none => ""

theorem stdout_run_sanitize {verbosity : Verbosity} {path : Option String} {text : String}
    (h : env.invocation = .ok (.command verbosity (.sanitize ⟨path, .standard⟩)))
    (htext : env.inputText path = .ok text) :
    (run env).stdout = cleanedText text := by
  have hresult := result_sanitize env path
  rw [Environment.input_of_text htext] at hresult
  rw [run, h, cleanedText]
  cases hv : Json.ofString? text with
  | none =>
      rw [hv] at hresult
      simp only [Command.run, Command.perform, hresult]
      rfl
  | some v =>
      rw [hv] at hresult
      simp only [Command.run, Command.perform, hresult]
      exact Text.ofLines_singleton _

theorem input_of_cleanedText {text : String}
    (hnumbers : ∀ v, Json.ofString? text = some v → v.Every Value.Frame.NumbersIntegral)
    (hstdin : env.stdin = .ok (cleanedText text)) :
    env.input none = match Json.ofString? text with
      | some v => .ok (v.mapStrings cleanText)
      | none => .error (.notJson "") := by
  have htext : env.inputText none = .ok (cleanedText text) :=
    congrArg (Except.mapError CommandError.unreadableStdin) hstdin
  rw [Environment.input_of_text htext, cleanedText]
  cases hv : Json.ofString? text with
  | none => rfl
  | some v => rw [Json.ofString?_prettyText cleanText hv (hnumbers v hv)]

/-- Both ways come to the same record, or to errors that differ only in what was refused: the
document or nothing, and a value that is no request or the cleaned value. -/
theorem record_alike {piped direct : Environment} {o : ValidateOptions} {text : String}
    (htext : direct.inputText o.input = .ok text) (hstdin : piped.stdin = .ok (cleanedText text))
    (hnumbers : ∀ v, Json.ofString? text = some v → v.Every Value.Frame.NumbersIntegral)
    {R : CommandError → CommandError → Prop} (hR : ∀ e, R e e)
    (hdocument : Json.ofString? text = none → R (.notJson "") (.notJson text))
    (hrequest : ∀ v, Json.ofString? text = some v → o.request = true →
      RequestParts.ofValue? v = none → R (.notRequest (v.mapStrings cleanText)) (.notRequest v)) :
    Trace.Alike R (piped.record { o with input := none, sanitize := false })
      (direct.record { o with sanitize := true }) := by
  let o' : ValidateOptions := { o with sanitize := true }
  have hreread := input_of_cleanedText hnumbers hstdin
  have hread := Environment.input_of_text htext
  cases hv : Json.ofString? text with
  | none =>
      rw [hv] at hread hreread
      rw [Environment.record_of_input_error hreread,
        Environment.record_of_input_error (o := o') hread]
      exact .error [] (hdocument hv)
  | some v =>
      rw [hv] at hread hreread
      have hdepth : v.depth ≤ Sanitizer.standard.maxDepth :=
        (Json.depth_le_of_read? hv).trans (by decide)
      rw [Environment.record_of_input hreread, Environment.record_of_input (o := o') hread]
      rcases recordOf_cleaned_or_refused o.request hdepth with
        hcleaned | ⟨hparts, hnone, hrefused, hrefused'⟩
      · rw [hcleaned]
        exact .refl hR _
      · rw [hrefused, hrefused']
        exact .error [] (hrequest v hv hparts hnone)

/-- What refuses the document as it stands words the cause as it does for what the first run
prints. -/
structure SameCauses (env : Environment) (request : Bool) (text : String) : Prop where
  document : Json.ofString? text = none → env.cause (.document "") = env.cause (.document text)
  request : ∀ v, Json.ofString? text = some v → request = true → RequestParts.ofValue? v = none →
    env.cause (.request (v.mapStrings cleanText)) = env.cause (.request v)

/-- Cleaning a document in one run and validating the output in another ends like a validation that
sanitizes: with the same code and the same text on the standard output. The rules may be anything,
readable or not, and so may the document be, an object or another value or no document, as long as
its numbers are integers of 64 bits. The texts on the error stream are the same too, unless the
rules compile and a document that cannot be read, or a value that is no request, is refused for
another cause. -/
theorem run_validate_of_sanitized {cleaning piped direct : List String}
    {verbosity verbosity' : Verbosity} {o : ValidateOptions} {text : String}
    (htext : env.inputText o.input = .ok text)
    (hnumbers : ∀ v, Json.ofString? text = some v → v.Every Value.Frame.NumbersIntegral)
    (hcleaning : { env with arguments := cleaning }.invocation =
      .ok (.command verbosity' (.sanitize ⟨o.input, .standard⟩)))
    (hpiped : { env with arguments := piped }.invocation =
      .ok (.command verbosity (.validate { o with input := none, sanitize := false })))
    (hdirect : { env with arguments := direct }.invocation =
      .ok (.command verbosity (.validate { o with sanitize := true }))) :
    let cleaned := run { env with arguments := cleaning }
    let exit := run { env with arguments := piped, stdin := .ok cleaned.stdout }
    let exit' := run { env with arguments := direct }
    exit.code = exit'.code ∧ exit.stdout = exit'.stdout ∧
      ((env.Compiles o → SameCauses env o.request text) → exit.stderr = exit'.stderr) := by
  intro cleaned exit exit'
  let direct' : Environment := { env with arguments := direct }
  let piped' : Environment := { env with arguments := piped, stdin := .ok cleaned.stdout }
  have hrules : SameRules piped' direct' { o with input := none, sanitize := false }
      { o with sanitize := true } := ⟨rfl, rfl, rfl, rfl, rfl, rfl, rfl⟩
  have hdirectText : direct'.inputText o.input = .ok text := htext
  have hstdin : piped'.stdin = .ok (cleanedText text) :=
    congrArg Except.ok (stdout_run_sanitize hcleaning htext)
  have hrecord {R : CommandError → CommandError → Prop} := record_alike hdirectText hstdin hnumbers
    (R := R)
  obtain ⟨hcode, hstdout⟩ := hrules.code_stdout_run
    (hrecord (fun _ => trivial) (fun _ => trivial) fun _ _ _ _ => trivial) hpiped hdirect
  refine ⟨hcode, hstdout, fun hcauses => ?_⟩
  have hexit : exit = exit' := by
    refine hrules.run_eq (fun hcompiles => ?_) hpiped hdirect
    have hsame : SameCauses env o.request text := hcauses hcompiles
    exact hrecord (sameMessage_refl _) (fun hnone => sameMessage_notJson (hsame.document hnone))
      fun v hv hrequest hnone => sameMessage_notRequest (hsame.request v hv hrequest hnone)
  rw [hexit]

/-- A tag, a line end and a bell between quotation marks, next to an integer. -/
theorem run_validate_of_sanitized_name_age :
    let text := "\x7b\"age\":-3,\"name\":\"<b>\\\"Al\\n\\u0007\\\"\"\x7d"
    let env : Environment :=
      ⟨[], fun _ => none, fun _ => .ok "\x7b\"fields\":\x7b\"name\":\"string\"\x7d\x7d", .ok text,
        false, fun _ => ""⟩
    let o : ValidateOptions := ⟨"rules.json", none, false, false, false, false⟩
    let piped := ["validate", "--rules", "rules.json"]
    let direct := ["validate", "--sanitize", "--rules", "rules.json"]
    let cleaned := run { env with arguments := ["sanitize"] }
    let exit := run { env with arguments := piped, stdin := .ok cleaned.stdout }
    let exit' := run { env with arguments := direct }
    env.inputText o.input = .ok text ∧
      (∀ v, Json.ofString? text = some v → v.Every Value.Frame.NumbersIntegral) ∧
      { env with arguments := ["sanitize"] }.invocation =
        .ok (.command .unstated (.sanitize ⟨o.input, .standard⟩)) ∧
      { env with arguments := piped }.invocation =
        .ok (.command .unstated (.validate { o with input := none, sanitize := false })) ∧
      { env with arguments := direct }.invocation =
        .ok (.command .unstated (.validate { o with sanitize := true })) ∧
      SameCauses env o.request text ∧
      exit.code = exit'.code ∧ exit.stdout = exit'.stdout ∧ exit.stderr = exit'.stderr := by
  intro text env o piped direct cleaned exit exit'
  have htext : env.inputText o.input = .ok text := rfl
  have hread : Json.ofString? text =
      some (.object [("age", .number (.integer (-3))), ("name", .string "<b>\"Al\n\x07\"")]) := by
    decide +kernel
  have hnumbers (v : Value) (hv : Json.ofString? text = some v) :
      v.Every Value.Frame.NumbersIntegral := by
    rw [hread, Option.some.injEq] at hv
    subst hv
    refine ⟨trivial, List.forall_mem_cons.2 ⟨⟨trivial, nofun⟩, List.forall_mem_singleton.2 ?_⟩⟩
    exact ⟨trivial, nofun⟩
  have hcleaning : { env with arguments := ["sanitize"] }.invocation =
      .ok (.command .unstated (.sanitize ⟨o.input, .standard⟩)) := by rfl
  have hpiped : { env with arguments := piped }.invocation =
      .ok (.command .unstated (.validate { o with input := none, sanitize := false })) := by rfl
  have hdirect : { env with arguments := direct }.invocation =
      .ok (.command .unstated (.validate { o with sanitize := true })) := by rfl
  have hcauses : SameCauses env o.request text := ⟨fun _ => rfl, fun _ _ _ _ => rfl⟩
  obtain ⟨hcode, hstdout, hstderr⟩ :=
    run_validate_of_sanitized htext hnumbers hcleaning hpiped hdirect
  exact ⟨htext, hnumbers, hcleaning, hpiped, hdirect, hcauses, hcode, hstdout,
    hstderr fun _ => hcauses⟩

/-- An integer of more than 64 bits is read as a float, whose digits may be read as another float.
And a document with nothing but 128 arrays around each other is refused for its depth by the one
way, and for its absence by the other. -/
theorem run_validate_of_sanitized_wide_deep :
    let cause : Unreadable → String
      | .document "" => "EOF while parsing a value at line 1 column 0"
      | .document _ => "recursion limit exceeded at line 1 column 128"
      | _ => ""
    let env (arguments : List String) (text : String) : Environment := ⟨arguments, fun _ => none,
      fun _ => .ok "\x7b\"fields\":\x7b\"n\":\"required\"\x7d\x7d", .ok text, false, cause⟩
    let twice (text : String) : Exit :=
      run (env ["validate", "--rules", "rules.json"] (run (env ["sanitize"] text)).stdout)
    let once (text : String) : Exit :=
      run (env ["validate", "--sanitize", "--rules", "rules.json"] text)
    let wide := "\x7b\"n\":91770119583970787981\x7d"
    let deep := String.ofList (List.replicate 128 '[' ++ List.replicate 128 ']')
    (twice wide).stdout = "\x7b\n  \"n\": 9.17701195839708e+19\n\x7d\n" ∧
      (once wide).stdout = "\x7b\n  \"n\": 9.177011958397079e+19\n\x7d\n" ∧
      (twice wide).stdout ≠ (once wide).stdout ∧ (twice deep).stderr ≠ (once deep).stderr := by
  intro cause env twice once wide deep
  have htwice : (twice wide).stdout = "\x7b\n  \"n\": 9.17701195839708e+19\n\x7d\n" := by
    decide +kernel
  have honce : (once wide).stdout = "\x7b\n  \"n\": 9.177011958397079e+19\n\x7d\n" := by
    decide +kernel
  refine ⟨htwice, honce, ?_, ?_⟩
  · rw [htwice, honce]
    decide
  · have hdeep : Json.ofString? deep = none := by
      rw [Json.ofString?, String.toList_ofList]
      exact Json.read?_nested (n := 127) (by decide)
    have hcleaning : (env ["sanitize"] deep).invocation =
        .ok (.command .unstated (.sanitize ⟨none, .standard⟩)) := by rfl
    have hstdout : (run (env ["sanitize"] deep)).stdout = "" := by
      rw [stdout_run_sanitize hcleaning rfl, cleanedText, hdeep]
    have hshort : Json.ofString? "[" = none := by decide +kernel
    -- A short text is refused for the same cause, and reads faster.
    have honce : once deep = once "[" := by
      let o : ValidateOptions := ⟨"rules.json", none, false, true, false, false⟩
      let direct := env ["validate", "--sanitize", "--rules", "rules.json"]
      have hrecord {text : String} (hnone : Json.ofString? text = none) :
          (direct text).record o = ⟨[], .error (.notJson text)⟩ := by
        have htext : (direct text).inputText none = .ok text := rfl
        refine Environment.record_of_input_error ?_
        rw [Environment.input_of_text htext, hnone]
      have hrules : SameRules (direct deep) (direct "[") o o := ⟨rfl, rfl, rfl, rfl, rfl, rfl, rfl⟩
      refine hrules.run_eq (fun _ => ?_) (by rfl) (by rfl)
      rw [hrecord hdeep, hrecord hshort]
      refine .error [] (sameMessage_notJson ?_)
      decide +kernel
    simp only [twice, hstdout, honce]
    decide +kernel

end CommandLine
end FieldRules
