import FieldRules.Proofs.CompiledChain
import FieldRules.Proofs.FieldValue
import Mathlib.Data.List.Induction

/-!
# Required fields of accepted records

A required step looks at the value where it stands in the chain, and what a later step makes of the
value is not looked at again. So an accepted record may hold an empty text in a required field, and
`Chain.CleanedAway` says exactly when: a sanitizing step behind the required ones cleaned the whole
text away, and no default put another text in its place. A missing or null value is never left.
-/

namespace FieldRules

namespace Value

theorem isEmpty_iff {value : Option Value} :
    isEmpty value = true ↔ value = none ∨ value = some .null ∨ value = some (.string "") := by
  cases value with
  | none => simp [isEmpty]
  | some v => cases v <;> simp [isEmpty]

end Value

theorem Sanitizer.text_of_isEmpty_cleanWithin {left : Nat} {v w : Value}
    (h : cleanWithin left v = some w) (hv : Value.isEmpty (some v) = false)
    (hw : Value.isEmpty (some w) = true) :
    ∃ text, v = .string text ∧ text ≠ "" ∧ Cleaning.cleanText text = "" := by
  cases v with
  | null => cases hv
  | string text =>
      rw [cleanWithin, Option.some.injEq] at h
      subst h
      exact ⟨text, rfl, by simpa [Value.isEmpty] using hv, by simpa [Value.isEmpty] using hw⟩
  | array items =>
      cases left with
      | zero => simp [cleanWithin] at h
      | succ left =>
          obtain ⟨items', -, rfl⟩ := Option.map_eq_some_iff.1 h
          cases hw
  | object members =>
      cases left with
      | zero => simp [cleanWithin] at h
      | succ left =>
          obtain ⟨members', -, rfl⟩ := Option.map_eq_some_iff.1 h
          cases hw
  | bool b =>
      simp only [cleanWithin, Option.some.injEq] at h
      subst h
      cases hw
  | number n =>
      simp only [cleanWithin, Option.some.injEq] at h
      subst h
      cases hw

namespace Transform

theorem result_sanitize_string (s : Sanitizer) (text : String) :
    (sanitize s).result (some (.string text)) = some (.string (Cleaning.cleanText text)) := by
  simp [result, apply, Sanitizer.sanitize, Sanitizer.cleanWithin, Except.map]

theorem isEmpty_result_default {literal : String} {value : Option Value}
    (h : Value.isEmpty ((default literal).result value) = true) :
    literal = "" ∧ Value.isEmpty value = true := by
  rw [result_default] at h
  split at h
  · rename_i hv
    exact ⟨by simpa [Value.isEmpty] using h, hv⟩
  · rename_i hv
    exact absurd h hv

/-- A sanitizer leaves an empty value only of an empty one and of a text that it cleans away. -/
theorem isEmpty_result_sanitize {s : Sanitizer} {value : Option Value}
    (h : Value.isEmpty ((sanitize s).result value) = true) :
    Value.isEmpty value = true ∨
      ∃ text, value = some (.string text) ∧ text ≠ "" ∧ Cleaning.cleanText text = "" := by
  cases hv : Value.isEmpty value with
  | true => exact Or.inl rfl
  | false =>
      cases value with
      | none => cases hv
      | some v =>
          simp only [result, apply, Sanitizer.sanitize] at h
          cases hw : Sanitizer.cleanWithin s.maxDepth v with
          | none =>
              simp only [hw, Except.map] at h
              rw [h] at hv
              cases hv
          | some w =>
              simp only [hw, Except.map] at h
              obtain ⟨text, rfl, htext⟩ := Sanitizer.text_of_isEmpty_cleanWithin hw hv h
              exact Or.inr ⟨text, rfl, htext⟩

end Transform

namespace Step

/-- A sanitizer cleaned a text away behind the required steps, and no default filled it in. -/
def CleanedAway (steps : List Step) (v : Option Value) : Prop :=
  ∃ before s after text, steps = before ++ .transform (.sanitize s) :: after ∧
    valueAfter before v = some (.string text) ∧ text ≠ "" ∧ Cleaning.cleanText text = "" ∧
    .required ∉ after ∧ ∀ literal, .transform (.default literal) ∈ after → literal = ""

theorem CleanedAway.append_singleton {steps : List Step} {v : Option Value}
    (h : CleanedAway steps v) {s : Step} (hr : s ≠ .required)
    (hd : ∀ literal, s = .transform (.default literal) → literal = "") :
    CleanedAway (steps ++ [s]) v := by
  obtain ⟨before, san, after, text, rfl, hv, hne, hc, hra, hda⟩ := h
  refine ⟨before, san, after ++ [s], text, by simp, hv, hne, hc, ?_, ?_⟩
  · simp [hra, Ne.symm hr]
  · intro literal hl
    rcases List.mem_append.1 hl with hl | hl
    · exact hda literal hl
    · exact hd literal (List.mem_singleton.1 hl).symm

/-- Once the text is empty and nothing fills it in, it stays empty. -/
theorem valueAfter_empty_text {steps : List Step} (hr : .required ∉ steps)
    (hd : ∀ literal, .transform (.default literal) ∈ steps → literal = "") :
    valueAfter steps (some (.string "")) = some (.string "") := by
  induction steps with
  | nil => rfl
  | cons s rest ih =>
      have hrest := ih (fun h => hr (List.mem_cons_of_mem s h))
        (fun literal h => hd literal (List.mem_cons_of_mem s h))
      cases s with
      | required => exact absurd List.mem_cons_self hr
      | check k => exact hrest
      | transform t =>
          cases t with
          | default literal =>
              rw [valueAfter, Transform.result_default, hd literal List.mem_cons_self]
              exact hrest
          | sanitize san =>
              rw [valueAfter, Transform.result_sanitize_string]
              exact hrest

theorem CleanedAway.valueAfter_eq {steps : List Step} {v : Option Value}
    (h : CleanedAway steps v) (he : ends steps v = false) :
    valueAfter steps v = some (.string "") := by
  obtain ⟨before, s, after, text, rfl, hv, -, hc, hr, hd⟩ := h
  rw [ends_append, Bool.or_eq_false_iff] at he
  rw [valueAfter_append he.1, hv, valueAfter, Transform.result_sanitize_string, hc]
  exact valueAfter_empty_text hr hd

/-- The last step decides: a required one lets no empty value pass, a check and a default of an
empty text leave the value as it was, and a sanitizer may be the one that cleans the text away. -/
theorem cleanedAway_of_isEmpty_valueAfter {steps : List Step} {v : Option Value}
    (he : ends steps v = false) (hr : .required ∈ steps)
    (hv : Value.isEmpty (valueAfter steps v) = true) : CleanedAway steps v := by
  induction steps using List.reverseRecOn with
  | nil => cases hr
  | append_singleton init s ih =>
      rw [ends_append, Bool.or_eq_false_iff] at he
      rw [valueAfter_append he.1] at hv
      have hinit : s ≠ .required → .required ∈ init := fun hs =>
        (List.mem_append.1 hr).resolve_right fun h => hs (List.mem_singleton.1 h).symm
      cases s with
      | required =>
          have hpass : Value.isEmpty (valueAfter init v) = false := by
            simpa only [ends, Bool.or_false] using he.2
          rw [valueAfter, hpass] at hv
          exact absurd (hpass.symm.trans hv) Bool.false_ne_true
      | check k => exact (ih he.1 (hinit (by simp)) hv).append_singleton (by simp) (by simp)
      | transform t =>
          cases t with
          | default literal =>
              obtain ⟨hl, hv'⟩ := Transform.isEmpty_result_default hv
              refine (ih he.1 (hinit (by simp)) hv').append_singleton (by simp) ?_
              rintro _ ⟨⟩
              exact hl
          | sanitize san =>
              rcases Transform.isEmpty_result_sanitize hv with hv' | ⟨text, htext, hne, hc⟩
              · exact (ih he.1 (hinit (by simp)) hv').append_singleton (by simp) (by simp)
              · exact ⟨init, san, [], text, rfl, htext, hne, hc, by simp, by simp⟩

end Step

/-- Behind its required steps, a sanitizing step of the chain cleaned the whole text of the field
away, and no later default put another text in its place. -/
def Chain.CleanedAway (c : Chain) (r : Record) : Prop :=
  ∃ before s after text, c.steps = before ++ .transform (.sanitize s) :: after ∧
    (c.runSteps before r).record.get? c.field = some (.string text) ∧ text ≠ "" ∧
    Cleaning.cleanText text = "" ∧ .required ∉ after ∧
    ∀ literal, .transform (.default literal) ∈ after → literal = ""

theorem Chain.cleanedAway_iff {c : Chain} {r : Record} :
    c.CleanedAway r ↔ Step.CleanedAway c.steps (r.get? c.field) := by
  simp only [CleanedAway, get?_runSteps_self, Step.CleanedAway]

/-- In an accepted record a required field has a value other than null, and the value is the empty
text exactly where a sanitizing step behind the required ones left nothing of it. -/
theorem required_value_of_accepted {strict : Bool} {specs : List (String × Spec)} {s : Schema}
    (hs : compileSchema strict specs = .ok s) (hd : (specs.map Prod.fst).Nodup) {r : Record}
    (ha : (s.validate r).accepted = true) {c : Chain} (hc : c ∈ s.chains)
    (hr : .required ∈ c.steps) :
    ∃ v, (s.validate r).record.get? c.field = some v ∧ v ≠ .null ∧
      (v = .string "" ↔ c.CleanedAway r) := by
  have hfields : (s.chains.map Chain.field).Nodup := by
    rwa [fields_of_compileSchema hs]
  have hends := Schema.ends_eq_false_of_accepted hfields hc ha
  rw [Schema.get?_validate hfields hc r, Chain.cleanedAway_iff]
  cases he : Value.isEmpty (Step.valueAfter c.steps (r.get? c.field)) with
  | true =>
      have hcleaned := Step.cleanedAway_of_isEmpty_valueAfter hends hr he
      exact ⟨.string "", hcleaned.valueAfter_eq hends, nofun, fun _ => hcleaned, fun _ => rfl⟩
  | false =>
      cases hv : Step.valueAfter c.steps (r.get? c.field) with
      | none =>
          rw [hv] at he
          cases he
      | some v =>
          refine ⟨v, rfl, ?_, ?_, fun hcleaned => ?_⟩
          · rintro rfl
            rw [hv] at he
            cases he
          · rintro rfl
            rw [hv] at he
            cases he
          · exact Option.some.inj (hv.symm.trans (hcleaned.valueAfter_eq hends))

/-- A name cleaned before it is required, and markup that is cleaned away behind the check. -/
theorem required_value_of_accepted_name_bio :
    ∃ s, compileSchema true
        [("name", .pipe "sanitize|required|string"), ("bio", .pipe "required|sanitize")] = .ok s ∧
      (["name", "bio"]).Nodup ∧
      (s.validate [("name", .string " Ann "), ("bio", .string "<b></b>")]).accepted = true ∧
      ∀ c ∈ s.chains, .required ∈ c.steps ∧
        ∃ v, (s.validate [("name", .string " Ann "), ("bio", .string "<b></b>")]).record.get?
            c.field = some v ∧ v ≠ .null ∧
          (v = .string "" ↔
            c.CleanedAway [("name", .string " Ann "), ("bio", .string "<b></b>")]) := by
  have hs : compileSchema true
      [("name", .pipe "sanitize|required|string"), ("bio", .pipe "required|sanitize")] =
        .ok _ := rfl
  refine ⟨_, hs, by decide, by decide, fun c hc => ?_⟩
  have hr : .required ∈ c.steps := by
    rcases List.mem_cons.1 hc with rfl | hc
    · exact List.mem_cons_of_mem _ List.mem_cons_self
    · rw [List.mem_singleton.1 hc]
      exact List.mem_cons_self
  exact ⟨hr, required_value_of_accepted hs (by decide) (by decide) hc hr⟩

/-- A blank text passes the required step and is cleaned away afterwards. -/
theorem accepted_with_empty_required_field :
    ∃ s, compileSchema false [("bio", .pipe "required|sanitize")] = .ok s ∧
      ([("bio", Spec.pipe "required|sanitize")].map Prod.fst).Nodup ∧
      (s.validate [("bio", .string " ")]).accepted = true ∧
      ∃ c ∈ s.chains, .required ∈ c.steps ∧
        Value.isEmpty ((s.validate [("bio", .string " ")]).record.get? c.field) = true :=
  ⟨_, rfl, by decide, by decide, _, List.mem_singleton_self _, List.mem_cons_self, by decide⟩

end FieldRules
