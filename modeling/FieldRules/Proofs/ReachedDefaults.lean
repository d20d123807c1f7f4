import FieldRules.Proofs.AskedRules
import FieldRules.Proofs.FilledValue

/-!
# The defaults that a field comes to

A field with an empty value ends at its first required rule, so of its defaults only those written
before that rule can fill the value in. Without a rule that sanitizes they decide alone what the
field is returned as, and the checks between them have no say in it.
-/

namespace FieldRules

namespace Rule

def literal? : Rule → Option String
  | default literal => some literal
  | _ => none

def spelled? (token : String) : Option Rule := (ofToken token).toOption

end Rule

namespace Spec

def rules (spec : Spec) : List Rule := spec.tokens.filterMap Rule.spelled?

/-- The literals of the defaults before the first required rule, or of all if no rule is. -/
def reachedLiterals (spec : Spec) : List String :=
  (spec.rules.takeWhile fun rule => rule ≠ .required).filterMap Rule.literal?

end Spec

namespace Setting

variable (s : Setting)

theorem steps_cons (t : String) (rest : List String) :
    s.steps (t :: rest) = ((s.placement? t).bind Placement.step?).toList ++ s.steps rest := by
  cases hp : s.placement? t with
  | none =>
      rw [steps, List.filterMap_cons_none hp]
      rfl
  | some p =>
      rw [steps, List.filterMap_cons_some hp]
      cases p <;> rfl

theorem placement?_eq_bind (t : String) :
    s.placement? t =
      (Rule.spelled? t).bind fun rule => (rule.placement s.field s.measure).toOption := by
  rw [placement?, verdict, Rule.spelled?]
  cases Rule.ofToken t with
  | ok rule => cases hp : rule.placement s.field s.measure <;> simp [hp, Except.toOption]
  | error issue => cases issue <;> cases s.strict <;> rfl

end Setting

namespace Step

/-- The step of one rule before others: only a default has a literal, and only a required rule hides
those that follow. -/
theorem literals_placement_append (rule : Rule) (field : String) (m : Measure) (rest : List Step) :
    literals (((rule.placement field m).toOption.bind Placement.step?).toList ++ rest) =
      if rule = .required then [] else rule.literal?.toList ++ literals rest := by
  cases rule with
  | format pattern =>
      cases hp : (Rule.format pattern).placement field m with
      | error e => rfl
      | ok p =>
          obtain ⟨compiled, rfl⟩ := Rule.exists_of_placement_format hp
          rfl
  | _ => rfl

theorem literals_steps (s : Setting) (tokens : List String) :
    literals (s.steps tokens) =
      ((tokens.filterMap Rule.spelled?).takeWhile fun rule => rule ≠ .required).filterMap
        Rule.literal? := by
  induction tokens with
  | nil => rfl
  | cons t rest ih =>
      rw [s.steps_cons, s.placement?_eq_bind]
      cases ht : Rule.spelled? t with
      | none =>
          rw [List.filterMap_cons_none ht]
          exact ih
      | some rule =>
          rw [List.filterMap_cons_some ht, Option.bind_some, literals_placement_append, ih]
          by_cases hrule : rule = .required
          · simp [hrule]
          · cases hl : rule.literal? <;> simp [hrule, hl]

theorem literals_append_customSteps (steps : List Step) (rules : List CustomRule) :
    literals (steps ++ customSteps rules) = literals steps := by
  induction steps with
  | nil =>
      induction rules with
      | nil => rfl
      | cons rule rest ih => exact ih
  | cons s rest ih =>
      cases s with
      | required => rfl
      | transform t =>
          cases t with
          | default literal => exact congrArg (literal :: ·) ih
          | sanitize san => exact ih
      | check k => exact ih

/-- Among several literals the first that is not empty fills in, or the empty one. -/
theorem filling?_of_ne_nil {steps : List Step} (h : literals steps ≠ []) :
    filling? steps = some (((literals steps).find? fun literal => literal ≠ "").getD "") := by
  rw [filling?]
  cases hfind : (literals steps).find? fun literal => literal ≠ "" with
  | some literal => rfl
  | none =>
      -- all of them are empty, the first one too
      obtain ⟨literal, rest, hcons⟩ := List.exists_cons_of_ne_nil h
      rw [hcons, List.find?_eq_none] at hfind
      have hempty : literal = "" := by simpa using hfind literal List.mem_cons_self
      rw [hcons, hempty]
      rfl

end Step

namespace Spec

variable {spec : Spec} {strict : Bool} {field : String}

theorem literals_steps_chain :
    Step.literals (spec.chain strict field).steps = spec.reachedLiterals := by
  rw [steps_chain_eq, Step.literals_append_customSteps]
  exact Step.literals_steps _ spec.tokens

theorem unsanitized_chain (h : ¬ spec.States .sanitize) :
    (spec.chain strict field).Unsanitized := by
  intro s hs
  by_contra hsanitizer
  obtain ⟨sanitizer, rfl⟩ : ∃ sanitizer, s = .transform (.sanitize sanitizer) := by
    unfold Step.isSanitizer at hsanitizer
    split at hsanitizer
    · exact ⟨_, rfl⟩
    · exact absurd rfl hsanitizer
  -- of the rules only the one of that name is placed as a sanitizing step
  obtain ⟨t, ht, hplaced⟩ | ⟨rule, -, hrule⟩ := mem_steps_chain.1 hs
  · obtain ⟨rule, hrule, hplacement⟩ := Setting.verdict_eq_placed_iff.1 hplaced
    have hsanitize : rule = .sanitize := Rule.eq_of_placement hplacement rfl
    exact h ⟨t, ht, hsanitize ▸ hrule⟩
  · cases hrule

end Spec

/-- Where the fields are distinct, a field that is not sanitized is returned as it was submitted,
unless it was submitted empty and comes to a default. Then it is returned as the first literal that
is not empty among those that it comes to, or as the empty text. This is so whether the record is
accepted or not. -/
theorem returned_value_of_unsanitized {strict : Bool} {specs : List (String × Spec)} {s : Schema}
    (hs : compileSchema strict specs = .ok s) (hd : (specs.map Prod.fst).Nodup) {field : String}
    {spec : Spec} (hmem : (field, spec) ∈ specs) (hsanitize : ¬ spec.States .sanitize) (r : Record) :
    (Value.isEmpty (r.get? field) = false ∨ spec.reachedLiterals = [] →
      (s.validate r).record.get? field = r.get? field) ∧
    (Value.isEmpty (r.get? field) = true → spec.reachedLiterals ≠ [] →
      (s.validate r).record.get? field =
        some (.string ((spec.reachedLiterals.find? fun literal => literal ≠ "").getD ""))) := by
  have hchain : spec.chain strict field ∈ s.chains := by
    rw [(compileSchema_ok_iff.1 hs).2]
    exact List.mem_map_of_mem hmem
  have hfields : (s.chains.map Chain.field).Nodup := by rwa [fields_of_compileSchema hs]
  have hvalue := Schema.get?_validate hfields hchain r
  rw [Step.valueAfter_of_unsanitized (Spec.unsanitized_chain hsanitize), Spec.chain_field] at hvalue
  have hliterals : Step.literals (spec.chain strict field).steps = spec.reachedLiterals :=
    Spec.literals_steps_chain
  rw [hvalue, ← hliterals]
  refine ⟨?_, fun hempty hreached => ?_⟩
  · rintro (hgiven | hnil)
    · rw [hgiven, if_neg Bool.false_ne_true]
    · have hfilling : Step.filling? (spec.chain strict field).steps = none := by
        rw [Step.filling?, hnil]
        rfl
      rw [hfilling]
      split <;> rfl
  · rw [if_pos hempty, Step.filling?_of_ne_nil hreached]
    rfl

/-- A field whose second default fills in, and one whose default stands behind its required rule. -/
theorem returned_value_of_unsanitized_note :
    let note := Spec.pipe "default:|alpha|default:none|required|default:late"
    let lang := Spec.list [.token "required", .custom ⟨"known", fun _ => .ok true⟩,
      .token "default:en"]
    let specs := [("note", note), ("lang", lang)]
    note.reachedLiterals = ["", "none"] ∧ lang.reachedLiterals = [] ∧
      ∃ s, compileSchema true specs = .ok s ∧
        (s.validate [("note", .null)]).accepted = false ∧
        (s.validate [("note", .null)]).record.get? "note" = some (.string "none") ∧
        (s.validate [("note", .null)]).record.get? "lang" = none := by
  intro note lang specs
  have hs : compileSchema true specs = .ok _ := rfl
  have hd : (specs.map Prod.fst).Nodup := by decide
  have hnote : note.reachedLiterals = ["", "none"] := by decide +kernel
  have hlang : lang.reachedLiterals = [] := by decide +kernel
  have hunsanitized : ¬ note.States .sanitize ∧ ¬ lang.States .sanitize := by decide +kernel
  have hfilled := (returned_value_of_unsanitized hs hd List.mem_cons_self hunsanitized.1
    [("note", .null)]).2 rfl (by rw [hnote]; exact List.cons_ne_nil _ _)
  have hkept := (returned_value_of_unsanitized hs hd (List.mem_cons_of_mem _ List.mem_cons_self)
    hunsanitized.2 [("note", .null)]).1 (.inr hlang)
  refine ⟨hnote, hlang, _, hs, rfl, ?_, hkept⟩
  rw [hfilled, hnote]
  rfl

end FieldRules
