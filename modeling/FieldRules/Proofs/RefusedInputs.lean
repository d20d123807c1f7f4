import FieldRules.Proofs.CommandOutcome
import FieldRules.Proofs.DepthLimit

/-!
# Inputs that are not objects

A validation refuses an input that is no object, except in one case: a request may also be spelled
as an array of up to three items, which are taken for its parts in their order. Then the rules
decide, as if the parts had been given by name.
-/

namespace FieldRules

namespace Value

theorem isObject_mapStrings (f : String → String) (v : Value) :
    (v.mapStrings f).isObject = v.isObject := by
  cases v <;> rfl

theorem exists_of_mapStrings_eq_array {f : String → String} {v : Value} {items : List Value}
    (h : v.mapStrings f = .array items) :
    ∃ items', v = .array items' ∧ items'.length = items.length := by
  cases v with
  | array items' =>
      rw [mapStrings, mapStringsOfItems_eq, array.injEq] at h
      exact ⟨items', rfl, by rw [← h, List.length_map]⟩
  | _ => cases h

end Value

namespace RequestParts

def named (items : List Value) : Value :=
  .object [("body", items.getD 0 .null), ("query", items.getD 1 .null),
    ("params", items.getD 2 .null)]

theorem ofValue?_named (items : List Value) : ofValue? (named items) =
    some ⟨items.getD 0 .null, items.getD 1 .null, items.getD 2 .null⟩ := rfl

theorem ofValue?_array {items : List Value} (h : items.length ≤ 3) :
    ofValue? (.array items) = ofValue? (named items) := by
  rw [ofValue?, if_pos h, ofValue?_named]

/-- A value is no request if it is neither an object nor an array of up to three items. -/
theorem ofValue?_eq_none {v : Value} (h : v.isObject = false)
    (hlong : ∀ items, v = .array items → 3 < items.length) : ofValue? v = none := by
  cases v with
  | object members => cases h
  | array items =>
      rw [ofValue?, if_neg (Nat.not_le.2 (hlong items rfl))]
  | _ => rfl

end RequestParts

namespace CommandLine

structure Refused (request : Bool) (v : Value) : Prop where
  not_object : v.isObject = false
  not_parts : request = true → ∀ items, v = .array items → 3 < items.length

theorem Refused.mapStrings {request : Bool} {v : Value} (h : Refused request v)
    (f : String → String) : Refused request (v.mapStrings f) where
  not_object := (Value.isObject_mapStrings f v).trans h.not_object
  not_parts hrequest items hitems := by
    obtain ⟨items', hv, hlength⟩ := Value.exists_of_mapStrings_eq_array hitems
    exact hlength ▸ h.not_parts hrequest items' hv

theorem Refused.recordOf_unsanitized_ne_ok {request : Bool} {v : Value} (h : Refused request v)
    (r : Record) : recordOf request false v ≠ .ok r := by
  intro hr
  cases request with
  | true =>
      obtain ⟨p, hp, -⟩ := recordOf_request_eq_ok_iff.1 hr
      rw [RequestParts.ofValue?_eq_none h.not_object (h.not_parts rfl)] at hp
      cases hp
  | false =>
      cases v with
      | object members => cases h.not_object
      | _ => cases hr

theorem Refused.recordOf_ne_ok {request : Bool} {v : Value} (h : Refused request v)
    (hdepth : v.depth ≤ Sanitizer.standard.maxDepth) (sanitize : Bool) (r : Record) :
    recordOf request sanitize v ≠ .ok r := by
  cases sanitize with
  | false => exact h.recordOf_unsanitized_ne_ok r
  | true =>
      rcases recordOf_cleaned_or_refused request hdepth with hcleaned | ⟨-, -, hrefused, -⟩
      · rw [hcleaned]
        exact (h.mapStrings Cleaning.cleanText).recordOf_unsanitized_ne_ok r
      · rw [hrefused]
        nofun

theorem recordOf_array {items : List Value} (h : items.length ≤ 3) (sanitize : Bool) :
    recordOf true sanitize (.array items) = recordOf true sanitize (RequestParts.named items) := by
  rw [recordOf, recordOf, if_pos rfl, if_pos rfl, RequestParts.ofValue?_array h,
    RequestParts.ofValue?_named]

theorem exists_recordOf_array {items : List Value} (h : items.length ≤ 3)
    (hdepth : (Value.array items).depth ≤ Sanitizer.standard.maxDepth) (sanitize : Bool) :
    ∃ r, recordOf true sanitize (.array items) = .ok r := by
  have hparts {items' : List Value} (h' : items'.length ≤ 3) :
      ∃ r, recordOf true false (.array items') = .ok r := by
    rw [recordOf_array h' false]
    exact ⟨_, rfl⟩
  cases sanitize with
  | false => exact hparts h
  | true =>
      have hnamed : RequestParts.ofValue? (.array items) ≠ none := by
        rw [RequestParts.ofValue?_array h, RequestParts.ofValue?_named]
        exact Option.some_ne_none _
      rw [recordOf_cleaned hdepth fun _ => hnamed, Value.mapStrings, Value.mapStringsOfItems_eq]
      exact hparts (by rwa [List.length_map])

variable {env : Environment} {verbosity : Verbosity} {o : ValidateOptions} {v : Value}

theorem outcome?_of_refused (hv : env.input o.input = .ok v) (h : Refused o.request v) :
    env.outcome? o = none := by
  cases hout : env.outcome? o with
  | none => rfl
  | some out =>
      obtain ⟨s, r, ⟨file, v', -, -, hv', hr⟩, -⟩ := outcome?_eq_some_iff.1 hout
      cases hv.symm.trans hv'
      exact absurd hr (h.recordOf_ne_ok ((depth_le_of_input hv).trans (by decide)) o.sanitize r)

theorem exists_prepares (h : env.invocation = .ok (.command verbosity (.validate o)))
    (hcode : (run env).code ≠ 2) : ∃ s r, env.Prepares o s r := by
  cases hout : env.outcome? o with
  | none => exact absurd (run_of_none h hout).1 hcode
  | some out =>
      obtain ⟨s, r, hprepares, -⟩ := outcome?_eq_some_iff.1 hout
      exact ⟨s, r, hprepares⟩

/-- A validation refuses an input that is no object, whatever the rules and the switches are. The
exception is an array of up to three items that is to be a request: rules that compile accept or
reject it as they do the object with the items for its parts. -/
theorem run_validate_of_not_object (h : env.invocation = .ok (.command verbosity (.validate o)))
    (hv : env.input o.input = .ok v) (hobject : v.isObject = false) :
    ((o.request = true → ∀ items, v = .array items → 3 < items.length) →
      (run env).code = 2 ∧ (run env).stdout = "") ∧
    ∀ items file s, o.request = true → v = .array items → items.length ≤ 3 →
      (env.rules o.rules).result = .ok file →
      ({ file with strict := file.strict || o.strict } : RuleFile).compile = .ok s →
      ∃ r, recordOf true o.sanitize (RequestParts.named items) = .ok r ∧
        (run env).code = if (s.validate r).accepted then 0 else 1 := by
  refine ⟨fun hparts => ?_, fun items file s hrequest hitems hlength hfile hs => ?_⟩
  · exact run_of_none h (outcome?_of_refused hv ⟨hobject, hparts⟩)
  · subst hitems
    obtain ⟨r, hr⟩ := exists_recordOf_array hlength ((depth_le_of_input hv).trans (by decide))
      o.sanitize
    have hprepares : env.Prepares o s r := ⟨file, _, hfile, hs, hv, hrequest ▸ hr⟩
    have hout : env.outcome? o = some (s.validate r) :=
      outcome?_eq_some_iff.2 ⟨s, r, hprepares, rfl⟩
    refine ⟨r, (recordOf_array hlength o.sanitize).symm.trans hr, ?_⟩
    rw [code_run h, hout]

/-- Three numbers, which are no record, and two parts of a request, with its tags to be removed. -/
theorem run_validate_of_not_object_numbers_parts :
    let file := "\x7b\"fields\":\x7b\"name\":\"required\"\x7d\x7d"
    let record : Environment := ⟨["validate", "--rules", "rules.json", "-s", "--json"],
      fun _ => none, fun _ => .ok file, .ok "[1, 2, 3]", false, fun _ => ""⟩
    let request : Environment := { record with
      arguments := ["validate", "--rules", "rules.json", "-s", "--json", "--request"],
      stdin := .ok "[null, \x7b\"name\":\"<b>Ann</b>\"\x7d]" }
    let o : ValidateOptions := ⟨"rules.json", none, false, true, false, true⟩
    let items : List Value := [.null, .object [("name", .string "<b>Ann</b>")]]
    record.invocation = .ok (.command .unstated (.validate o)) ∧
      request.invocation = .ok (.command .unstated (.validate { o with request := true })) ∧
      request.input none = .ok (.array items) ∧
      ((run record).code = 2 ∧ (run record).stdout = "") ∧
      ∃ file s r, (request.rules o.rules).result = .ok file ∧
        ({ file with strict := file.strict || false } : RuleFile).compile = .ok s ∧
        recordOf true true (RequestParts.named items) = .ok r ∧
        (run request).code = if (s.validate r).accepted then 0 else 1 := by
  intro file record request o items
  have hrecord : record.invocation = .ok (.command .unstated (.validate o)) := by rfl
  have hrequest : request.invocation =
      .ok (.command .unstated (.validate { o with request := true })) := by rfl
  have hinput : record.input none =
      .ok (.array [.number (.integer 1), .number (.integer 2), .number (.integer 3)]) :=
    input_eq_ok_iff.2 ⟨_, rfl, by decide +kernel⟩
  have hinput' : request.input none = .ok (.array items) :=
    input_eq_ok_iff.2 ⟨_, rfl, by decide +kernel⟩
  have hrefused := (run_validate_of_not_object hrecord hinput rfl).1 nofun
  obtain ⟨s, -, file, -, hfile, hs, -⟩ := exists_prepares hrequest (by decide +kernel)
  obtain ⟨r, hr, hcode⟩ := (run_validate_of_not_object hrequest hinput' rfl).2 items file s rfl rfl
    (by decide) hfile hs
  exact ⟨hrecord, hrequest, hinput', hrefused, file, s, r, hfile, hs, hr, hcode⟩

/-- Not every input that is no object is refused: an array with a body is accepted. -/
theorem run_validate_of_array_accepted :
    ¬ ∀ (env : Environment) (verbosity : Verbosity) (o : ValidateOptions) (file : RuleFile)
      (s : Schema) (v : Value), env.invocation = .ok (.command verbosity (.validate o)) →
        (env.rules o.rules).result = .ok file →
        ({ file with strict := file.strict || o.strict } : RuleFile).compile = .ok s →
        env.input o.input = .ok v → v.isObject = false →
        (run env).code = 2 ∧ (run env).stdout = "" := by
  intro hall
  let env : Environment := ⟨["validate", "--rules", "rules.json", "--request"], fun _ => none,
    fun _ => .ok "\x7b\"fields\":\x7b\"name\":\"required\"\x7d\x7d",
    .ok "[\x7b\"name\":\"Ann\"\x7d]", false, fun _ => ""⟩
  let o : ValidateOptions := ⟨"rules.json", none, true, false, false, false⟩
  have h : env.invocation = .ok (.command .unstated (.validate o)) := by rfl
  have hcode : (run env).code = 0 := by decide +kernel
  have hinput : env.input o.input = .ok (.array [.object [("name", .string "Ann")]]) :=
    input_eq_ok_iff.2 ⟨_, rfl, by decide +kernel⟩
  obtain ⟨s, -, file, -, hfile, hs, -⟩ := exists_prepares h (by omega)
  have hrefused := (hall env .unstated o file s _ h hfile hs hinput rfl).1
  omega

end CommandLine
end FieldRules
