import FieldRules.Proofs.ChainSteps
import FieldRules.Proofs.GivenSwitches
import FieldRules.Proofs.ReadValues

/-!
# The standard depth limit is out of reach

A reader refuses what has more than 127 arrays and objects around a part; the standard sanitizer
refuses only what has more than 128. Whatever a command does with an input in between, splitting it
into parts, merging them, cleaning strings or filling in defaults, makes nothing deeper. So no
sanitizer refuses anything unless the command line sets another limit.
-/

namespace FieldRules

open Cleaning (cleanText)

def Unrefused (events : List Event) : Prop := ∀ field e, Event.refused field e ∉ events

theorem Unrefused.append {a b : List Event} (ha : Unrefused a) (hb : Unrefused b) :
    Unrefused (a ++ b) := fun field e h => (List.mem_append.1 h).elim (ha field e) (hb field e)

theorem unrefused_nil : Unrefused [] := fun _ _ => List.not_mem_nil

theorem Transform.apply_of_within {t : Transform} {value : Option Value} {limit : Nat}
    (hvalue : ∀ v, value = some v → v.depth ≤ limit)
    (ht : ∀ s, t = .sanitize s → limit ≤ s.maxDepth) :
    ∃ value', t.apply value = .ok value' ∧ ∀ v, value' = some v → v.depth ≤ limit := by
  cases t with
  | default literal =>
      refine ⟨_, rfl, fun v hv => ?_⟩
      split at hv
      · cases hv
        exact Nat.zero_le limit
      · exact hvalue v hv
  | sanitize s =>
      cases value with
      | none => exact ⟨none, rfl, nofun⟩
      | some v =>
          have hv : v.depth ≤ limit := hvalue v rfl
          have hsanitize := Sanitizer.sanitize_of_depth_le (hv.trans (ht s rfl))
          refine ⟨some (v.mapStrings cleanText), by rw [apply, hsanitize]; rfl, fun w hw => ?_⟩
          cases hw
          rwa [Value.depth_mapStrings]

theorem Check.unrefused_run (k : Check) (field : String) (value : Option Value) (r : Record) :
    Unrefused (k.run field value r) := by
  intro field' e h
  cases k with
  | custom rule =>
      rw [run, CustomRule.ask] at h
      split at h <;> simp at h
  | _ =>
      rw [run] at h
      split at h <;> simp at h

namespace Chain

def Spares (limit : Nat) (steps : List Step) : Prop :=
  ∀ s : Sanitizer, .transform (.sanitize s) ∈ steps → limit ≤ s.maxDepth

/-- What a step leaves: a record within the limit, and no refusal. -/
def Keeps (limit : Nat) : Turn → Prop
  | .next p => p.record.Within limit ∧ Unrefused p.events
  | .stop events => Unrefused events

variable {limit : Nat} {c : Chain} {r : Record}

theorem keeps_turn (h : r.Within limit) {step : Step} (hstep : Spares limit [step]) :
    Keeps limit (c.turn r step) := by
  cases step with
  | required =>
      rw [turn]
      split
      · intro field e he
        cases List.mem_singleton.1 he
      · exact ⟨h, unrefused_nil⟩
  | transform t =>
      have ht : ∀ s, t = .sanitize s → limit ≤ s.maxDepth := by
        rintro s rfl
        exact hstep s List.mem_cons_self
      have hvalue : ∀ v, r.get? c.field = some v → v.depth ≤ limit := fun v hv => h.depth_le hv
      obtain ⟨value', happly, hvalue'⟩ := Transform.apply_of_within hvalue ht
      cases value' with
      | none =>
          simp only [turn, happly]
          exact ⟨h, unrefused_nil⟩
      | some v =>
          simp only [turn, happly]
          exact ⟨h.insert c.field (hvalue' v rfl), unrefused_nil⟩
  | check k =>
      rw [turn]
      split
      · exact ⟨h, unrefused_nil⟩
      · exact ⟨h, k.unrefused_run c.field _ r⟩

theorem keeps_runSteps {steps : List Step} (h : r.Within limit) (hsteps : Spares limit steps) :
    (c.runSteps steps r).record.Within limit ∧ Unrefused (c.runSteps steps r).events := by
  induction steps generalizing r with
  | nil => exact ⟨h, unrefused_nil⟩
  | cons step rest ih =>
      have hturn : Keeps limit (c.turn r step) :=
        keeps_turn h fun s hs => hsteps s (List.mem_singleton.1 hs ▸ List.mem_cons_self)
      rw [runSteps]
      cases hstep : c.turn r step with
      | stop events =>
          rw [hstep] at hturn
          exact ⟨h, hturn⟩
      | next p =>
          rw [hstep] at hturn
          obtain ⟨hrecord, hevents⟩ := ih hturn.1 fun s hs => hsteps s (List.mem_cons_of_mem _ hs)
          exact ⟨hrecord, hturn.2.append hevents⟩

end Chain

theorem unrefused_runChains {limit : Nat} {cs : List Chain} {r : Record} (h : r.Within limit)
    (hcs : ∀ c ∈ cs, Chain.Spares limit c.steps) : Unrefused (runChains cs r).events := by
  induction cs generalizing r with
  | nil => exact unrefused_nil
  | cons c cs ih =>
      obtain ⟨hc, hcs⟩ := List.forall_mem_cons.1 hcs
      obtain ⟨hrecord, hevents⟩ := Chain.keeps_runSteps (c := c) h hc
      exact hevents.append (ih hrecord hcs)

theorem Rule.eq_standard_of_placement {field : String} {m : Measure} {rule : Rule} {s : Sanitizer}
    (h : rule.placement field m = .ok (.step (.transform (.sanitize s)))) : s = .standard := by
  cases rule with
  | sanitize =>
      cases h
      rfl
  | format pattern =>
      obtain ⟨p, -, hp⟩ := map_eq_ok_iff.1 h
      cases hp
  | _ => cases h

theorem eq_standard_of_compileSchema {strict : Bool} {specs : List (String × Spec)} {s : Schema}
    (h : compileSchema strict specs = .ok s) {c : Chain} (hc : c ∈ s.chains) {z : Sanitizer}
    (hz : .transform (.sanitize z) ∈ c.steps) : z = .standard := by
  rw [(compileSchema_ok_iff.1 h).2] at hc
  obtain ⟨p, -, rfl⟩ := List.mem_map.1 hc
  rcases Spec.mem_steps_chain.1 hz with ⟨token, -, hv⟩ | ⟨custom, -, hcustom⟩
  · obtain ⟨rule, -, hp⟩ := Setting.verdict_eq_placed_iff.1 hv
    exact Rule.eq_standard_of_placement hp
  · cases hcustom

namespace CommandLine

def CommandError.isRefusal : CommandError → Bool
  | tooDeep _ => true
  | notSanitized _ => true
  | _ => false

variable {env : Environment}

theorem input_eq_ok_iff {path : Option String} {v : Value} :
    env.input path = .ok v ↔ ∃ text, env.inputText path = .ok text ∧ Json.ofString? text = some v := by
  unfold Environment.input
  refine bind_eq_ok_iff.trans (exists_congr fun text => and_congr_right fun _ => ?_)
  cases Json.ofString? text <;> simp

theorem depth_le_of_input {path : Option String} {v : Value} (h : env.input path = .ok v) :
    v.depth ≤ Json.depthLimit := by
  obtain ⟨text, -, hv⟩ := input_eq_ok_iff.1 h
  exact Json.depth_le_of_read? hv

theorem isRefusal_of_input {path : Option String} {e : CommandError}
    (h : env.input path = .error e) : e.isRefusal = false := by
  unfold Environment.input at h
  rcases bind_eq_error_iff.1 h with h | ⟨text, -, h⟩
  · unfold Environment.inputText at h
    split at h
    · obtain ⟨reason, -, rfl⟩ := mapError_eq_error_iff.1 h
      rfl
    · obtain ⟨reason, -, rfl⟩ := mapError_eq_error_iff.1 h
      rfl
  · split at h <;> cases h
    rfl

theorem isRefusal_of_rules {path : String} {e : CommandError}
    (h : (env.rules path).result = .error e) : e.isRefusal = false := by
  simp only [Environment.rules, Log.Trace.result_bind, Log.Trace.result_write,
    Log.Trace.result_ofExcept, Log.Trace.result_pure, bind_eq_error_iff, mapError_eq_error_iff,
    reduceCtorEq, false_or, or_false, and_false, exists_false, exists_const, true_and] at h
  rcases h with ⟨reason, -, rfl⟩ | ⟨text, -, ⟨fault, -, rfl⟩ | ⟨file, -, fault, -, rfl⟩⟩ <;> rfl

theorem recordOf_of_ofValue?_eq_none {v : Value} (h : RequestParts.ofValue? v = none)
    (sanitize : Bool) : recordOf true sanitize v = .error (.notRequest v) := by
  rw [recordOf, if_pos rfl, h]

/-- It is the same to clean a value first and to have it cleaned, except that a value is refused as
a request before it is cleaned. -/
theorem recordOf_cleaned {request : Bool} {v : Value} (h : v.depth ≤ Sanitizer.standard.maxDepth)
    (hparts : request = true → RequestParts.ofValue? v ≠ none) :
    recordOf request true v = recordOf request false (v.mapStrings cleanText) := by
  unfold recordOf
  cases request with
  | true =>
      simp only [if_true, Bool.false_eq_true, if_false]
      rw [RequestParts.ofValue?_mapStrings]
      cases hp : RequestParts.ofValue? v with
      | none => exact absurd hp (hparts rfl)
      | some p =>
          have hwithin := RequestParts.within_of_ofValue? h hp
          simp only [hwithin.sanitized_eq (Nat.le_refl _), Option.map_some]
          rfl
  | false =>
      simp only [if_true, Bool.false_eq_true, if_false, Sanitizer.sanitize_of_depth_le h]

theorem recordOf_cleaned_or_refused (request : Bool) {v : Value}
    (h : v.depth ≤ Sanitizer.standard.maxDepth) :
    recordOf request true v = recordOf request false (v.mapStrings cleanText) ∨
      request = true ∧ RequestParts.ofValue? v = none ∧
        recordOf request true v = .error (.notRequest v) ∧
        recordOf request false (v.mapStrings cleanText) =
          .error (.notRequest (v.mapStrings cleanText)) := by
  by_cases hparts : request = true ∧ RequestParts.ofValue? v = none
  · obtain ⟨rfl, hnone⟩ := hparts
    refine .inr ⟨rfl, hnone, recordOf_of_ofValue?_eq_none hnone true, ?_⟩
    refine recordOf_of_ofValue?_eq_none ?_ false
    rw [RequestParts.ofValue?_mapStrings, hnone]
    rfl
  · exact .inl (recordOf_cleaned h fun hrequest hnone => hparts ⟨hrequest, hnone⟩)

theorem recordOf_of_depth_le_unsanitized {limit : Nat} (request : Bool) {v : Value}
    (hv : v.depth ≤ limit) :
    (∀ e, recordOf request false v = .error e → e.isRefusal = false) ∧
      ∀ r, recordOf request false v = .ok r → r.Within limit := by
  unfold recordOf
  cases request with
  | true =>
      rw [if_pos rfl]
      cases hp : RequestParts.ofValue? v with
      | none =>
          refine ⟨fun e he => ?_, nofun⟩
          cases he
          rfl
      | some p =>
          refine ⟨nofun, fun r hr => ?_⟩
          cases hr
          exact (RequestParts.within_of_ofValue? hv hp).merged
  | false =>
      rw [if_neg Bool.false_ne_true, if_neg Bool.false_ne_true]
      cases v with
      | object members =>
          refine ⟨nofun, fun r hr => ?_⟩
          cases hr
          exact Record.within_of_depth_le hv
      | _ =>
          refine ⟨fun e he => ?_, nofun⟩
          cases he
          rfl

/-- What the reader passes is within the standard limit, whole or in parts. -/
theorem recordOf_of_depth_le (request sanitize : Bool) {v : Value} (hv : v.depth ≤ Json.depthLimit) :
    (∀ e, recordOf request sanitize v = .error e → e.isRefusal = false) ∧
      ∀ r, recordOf request sanitize v = .ok r → r.Within Json.depthLimit := by
  cases sanitize with
  | true =>
      rcases recordOf_cleaned_or_refused request (hv.trans (by decide)) with hrecord | hrefused
      · rw [hrecord]
        exact recordOf_of_depth_le_unsanitized request ((Value.depth_mapStrings _ v).trans_le hv)
      · obtain ⟨-, -, herror, -⟩ := hrefused
        rw [herror]
        refine ⟨fun e he => ?_, nofun⟩
        cases he
        rfl
  | false => exact recordOf_of_depth_le_unsanitized request hv

theorem isRefusal_of_validate {o : ValidateOptions} {e : CommandError}
    (h : (validate env o).result = .error e) : e.isRefusal = false := by
  simp only [validate, schemaOf, Environment.record, Log.Trace.result_bind, Log.Trace.result_write,
    Log.Trace.result_ofExcept, Log.Trace.result_pure, bind_eq_error_iff, mapError_eq_error_iff,
    reduceCtorEq, false_or, or_false, and_false, exists_false, exists_const, true_and] at h
  rcases h with h | ⟨file, -, ⟨fault, -, rfl⟩ | ⟨_, -, h | ⟨v, hv, h⟩⟩⟩
  · exact isRefusal_of_rules h
  · rfl
  · exact isRefusal_of_input h
  · exact (recordOf_of_depth_le _ _ (depth_le_of_input hv)).1 e h

/-- With the standard limit, whatever can be read can be cleaned. -/
theorem result_sanitize (env : Environment) (path : Option String) :
    (sanitize env ⟨path, .standard⟩).result =
      (env.input path).map fun v => .cleaned (v.mapStrings cleanText) := by
  simp only [sanitize, Log.Trace.result_bind, Log.Trace.result_write, Log.Trace.result_ofExcept,
    Log.Trace.result_pure, Except.bind]
  cases hinput : env.input path with
  | error e => rfl
  | ok v =>
      have hdepth : v.depth ≤ Sanitizer.standard.maxDepth :=
        (depth_le_of_input hinput).trans (by decide)
      simp only [Sanitizer.sanitize_of_depth_le hdepth]
      rfl

theorem isRefusal_of_sanitize {o : SanitizeOptions} (ho : o.sanitizer = .standard) {e : CommandError}
    (h : (sanitize env o).result = .error e) : e.isRefusal = false := by
  obtain ⟨path, sanitizer⟩ := o
  subst ho
  rw [result_sanitize] at h
  cases hinput : env.input path with
  | ok v =>
      rw [hinput] at h
      cases h
  | error e' =>
      rw [hinput] at h
      cases h
      exact isRefusal_of_input hinput

/-- Unless a word of the command line sets another limit, no command fails because a sanitizer
refuses the input, and where a validation comes to run a schema, no step of it refuses a value:
there is no message about nesting. -/
theorem no_refusal_without_max_depth {verbosity : Verbosity} {c : Command}
    (hwords : ∀ w ∈ env.arguments, (Word.ofString w).names "max-depth" = false)
    (h : env.invocation = .ok (.command verbosity c)) :
    (∀ e, (c.perform env).result = .error e → e.isRefusal = false) ∧
      ∀ o s r, c = .validate o → env.Prepares o s r → Unrefused (s.run r).events := by
  constructor
  · intro e he
    cases c with
    | validate o => exact isRefusal_of_validate he
    | sanitize o => exact isRefusal_of_sanitize (Invocation.sanitizer_of_ofWords hwords h) he
  · rintro o s r - ⟨file, v, -, hs, hv, hr⟩
    have hrecord : r.Within Json.depthLimit :=
      (recordOf_of_depth_le _ _ (depth_le_of_input hv)).2 r hr
    refine unrefused_runChains hrecord fun c hc z hz => ?_
    rw [eq_standard_of_compileSchema hs hc hz]
    decide

/-- Four levels, cut into parts and sanitized, and rules that sanitize again what is filled in. -/
theorem no_refusal_without_max_depth_request :
    let env : Environment :=
      ⟨["validate", "-d", "--rules=rules.json", "--request", "--sanitize"], fun _ => none,
        fun _ => .ok "\x7b\"fields\":\x7b\"tags\":\"default:<b>|sanitize|array\"\x7d\x7d",
        .ok "[\x7b\"tags\":[[\"<i>new</i>\"]]\x7d]", false, fun _ => ""⟩
    let o : ValidateOptions := ⟨"rules.json", none, true, true, false, false⟩
    (∀ w ∈ env.arguments, (Word.ofString w).names "max-depth" = false) ∧
      env.invocation = .ok (.command .debug (.validate o)) ∧
      (∀ e, ((Command.validate o).perform env).result = .error e → e.isRefusal = false) ∧
      ∀ o' s r, Command.validate o = .validate o' → env.Prepares o' s r →
        Unrefused (s.run r).events := by
  intro env o
  have hwords : ∀ w ∈ env.arguments, (Word.ofString w).names "max-depth" = false := by
    decide +kernel
  have h : env.invocation = .ok (.command .debug (.validate o)) := by rfl
  exact ⟨hwords, h, no_refusal_without_max_depth hwords h⟩

end CommandLine
end FieldRules
