import FieldRules.Proofs.RequiredValue
import FieldRules.Proofs.StepMessages

/-!
# Fields without a value

A specification may say that its field is required, optional or nullable, anywhere among its tokens
and any number of times. Where a value is missing and no default fills it in, sanitizing steps leave
it as it is, so every step of the chain meets the value that was submitted. What the chain then does
depends on these flags alone: its checks, custom rules among them, are not run at all.
-/

namespace FieldRules

namespace Placement

def rule? : Placement → Option Rule
  | .step .required => some .required
  | .step (.transform (.default literal)) => some (.default literal)
  | .step (.transform (.sanitize _)) => some .sanitize
  | .step (.check _) => none
  | .optional => some .optional
  | .nullable => some .nullable

theorem isOptional_iff {p : Placement} : p.isOptional = true ↔ p = .optional := by
  cases p <;> simp [isOptional]

theorem isNullable_iff {p : Placement} : p.isNullable = true ↔ p = .nullable := by
  cases p <;> simp [isNullable]

end Placement

theorem Rule.eq_of_placement {field : String} {m : Measure} {rule rule' : Rule} {p : Placement}
    (h : rule.placement field m = .ok p) (hp : p.rule? = some rule') : rule = rule' := by
  cases rule with
  | format pattern =>
      obtain ⟨compiled, rfl⟩ := exists_of_placement_format h
      cases hp
  | _ =>
      cases h
      cases hp <;> rfl

def Rule.isDefault : Rule → Bool
  | default _ => true
  | _ => false

namespace Spec

def Undefaulted (spec : Spec) : Prop :=
  ∀ t ∈ spec.tokens, (Rule.ofToken t).toOption.any Rule.isDefault = false

instance (spec : Spec) : Decidable spec.Undefaulted :=
  inferInstanceAs (Decidable (∀ t ∈ spec.tokens, _))

def States (spec : Spec) (rule : Rule) : Prop := ∃ t ∈ spec.tokens, Rule.ofToken t = .ok rule

instance (spec : Spec) (rule : Rule) : Decidable (spec.States rule) :=
  inferInstanceAs (Decidable (∃ t ∈ spec.tokens, _))

/-- A rule other than a check is placed exactly if it is stated. -/
theorem mem_placements_iff {spec : Spec} (strict : Bool) (field : String) {rule : Rule}
    {p : Placement} (hp : p.rule? = some rule) (hplaced : ∀ m, rule.placement field m = .ok p) :
    p ∈ spec.placements strict field ↔ spec.States rule := by
  rw [placements, List.mem_filterMap, States]
  refine exists_congr fun t => and_congr_right fun _ => ?_
  rw [Setting.placement?_eq_some_iff, Setting.verdict_eq_placed_iff]
  constructor
  · rintro ⟨rule', hrule', h⟩
    rw [hrule', Rule.eq_of_placement h hp]
  · exact fun h => ⟨rule, h, hplaced _⟩

variable {spec : Spec} {strict : Bool} {field : String}

theorem mem_steps_chain_iff {rule : Rule} {step : Step}
    (hstep : (Placement.step step).rule? = some rule)
    (hplaced : ∀ m, rule.placement field m = .ok (.step step)) :
    step ∈ (spec.chain strict field).steps ↔ spec.States rule := by
  rw [← mem_placements_iff strict field hstep hplaced, chain, List.mem_append, List.mem_filterMap,
    List.mem_map]
  simp only [Placement.step?_eq_some_iff, exists_eq_right, or_iff_left_iff_imp]
  rintro ⟨custom, -, rfl⟩
  cases hstep

theorem required_mem_steps_chain :
    .required ∈ (spec.chain strict field).steps ↔ spec.States .required :=
  mem_steps_chain_iff rfl fun _ => rfl

theorem Undefaulted.default_notMem (h : spec.Undefaulted) (literal : String) :
    .transform (.default literal) ∉ (spec.chain strict field).steps := by
  intro hmem
  obtain ⟨t, ht, hrule⟩ : spec.States (.default literal) :=
    (mem_steps_chain_iff rfl fun _ => rfl).1 hmem
  have hnot := h t ht
  rw [hrule] at hnot
  cases hnot

theorem isOptional_chain : (spec.chain strict field).isOptional = true ↔ spec.States .optional := by
  rw [← mem_placements_iff strict field rfl fun _ => rfl, chain, List.any_eq_true]
  simp only [Placement.isOptional_iff, exists_eq_right]

theorem isNullable_chain : (spec.chain strict field).isNullable = true ↔ spec.States .nullable := by
  rw [← mem_placements_iff strict field rfl fun _ => rfl, chain, List.any_eq_true]
  simp only [Placement.isNullable_iff, exists_eq_right]

end Spec

theorem Transform.apply_sanitize_of_isEmpty (s : Sanitizer) {v : Option Value}
    (hv : Value.isEmpty v = true) : (sanitize s).apply v = .ok v := by
  rcases Value.isEmpty_iff.1 hv with rfl | rfl | rfl
  · rfl
  · simp [apply, Sanitizer.sanitize, Sanitizer.cleanWithin, Except.map]
  · have hclean : Cleaning.cleanText "" = "" := rfl
    simp [apply, Sanitizer.sanitize, Sanitizer.cleanWithin, Except.map, hclean]

/-- Sanitizing leaves an empty value as it is. -/
theorem Step.inert_of_isEmpty {steps : List Step}
    (hd : ∀ literal, .transform (.default literal) ∉ steps) {v : Option Value}
    (hv : Value.isEmpty v = true) : Inert steps v := by
  intro t ht
  cases t with
  | default literal => exact absurd ht (hd literal)
  | sanitize s => exact Transform.apply_sanitize_of_isEmpty s hv

/-- A run of the chain on the record gives these messages, leaves the record as it was and asks no
custom rule. -/
structure Chain.OnlyReports (c : Chain) (r : Record) (messages : List String) : Prop where
  messages : messagesOf (c.run r).events = messages
  record : (c.run r).record = r
  unasked : ∀ rule context, .asked rule context ∉ (c.run r).events

namespace Chain

variable {c : Chain} {r : Record} (hd : ∀ literal, .transform (.default literal) ∉ c.steps)
  (hv : Value.isEmpty (r.get? c.field) = true)
include hd hv

theorem onlyReports_required (hc : c.isRequired = true) (hr : .required ∈ c.steps) :
    c.OnlyReports r [s!"{c.field} is required"] := by
  have hrun : c.run r = ⟨r, [.failed c.field (r.get? c.field) s!"{c.field} is required"]⟩ :=
    runSteps_of_isEmpty (Step.inert_of_isEmpty hd hv) hc hr hv
  exact ⟨by rw [hrun]; rfl, by rw [hrun], by simp [hrun]⟩

theorem onlyReports_nil (hr : .required ∉ c.steps) (hskip : c.skips (r.get? c.field) = true) :
    c.OnlyReports r [] := by
  have hrun : c.run r = ⟨r, []⟩ := runSteps_of_skips (Step.inert_of_isEmpty hd hv) hr hskip
  exact ⟨by rw [hrun]; rfl, by rw [hrun], by simp [hrun]⟩

end Chain

/-- Without a default among its tokens, a field is reported once, as required, if it is stated to be
required and is missing, null or the empty text; and not at all if it is optional instead and
missing, or nullable instead and null. In these cases its chain changes nothing and asks no custom
rule, whatever else the specification says and in whatever order. -/
theorem reports_of_absent_value {strict : Bool} {field : String} {spec : Spec} {c : Chain}
    (hc : (compileField strict field spec).result = .ok c) (hd : spec.Undefaulted) (r : Record) :
    (spec.States .required → r.get? field ∈ [none, some .null, some (.string "")] →
      c.OnlyReports r [s!"{field} is required"]) ∧
    (spec.States .optional → ¬ spec.States .required → r.get? field = none →
      c.OnlyReports r []) ∧
    (spec.States .nullable → ¬ spec.States .required → r.get? field = some .null →
      c.OnlyReports r []) := by
  obtain ⟨-, rfl⟩ := compileField_ok_iff.1 hc
  have hstep : .required ∈ (spec.chain strict field).steps ↔ spec.States .required :=
    Spec.required_mem_steps_chain
  have hflag (hnot : ¬ spec.States .required) : (spec.chain strict field).isRequired = false :=
    Bool.eq_false_iff.2 fun h => hnot (hstep.1 (Spec.isRequired_chain.1 h))
  refine ⟨fun hrequired hv => ?_, fun hoptional hnot hv => ?_, fun hnullable hnot hv => ?_⟩
  · have hempty : Value.isEmpty (r.get? field) = true := Value.isEmpty_iff.2 (by simpa using hv)
    exact Chain.onlyReports_required hd.default_notMem hempty
      (Spec.isRequired_chain.2 (hstep.2 hrequired)) (hstep.2 hrequired)
  · have hskips : (spec.chain strict field).skips none = true := by
      simp [Chain.skips, hflag hnot, Spec.isOptional_chain.2 hoptional]
    refine Chain.onlyReports_nil hd.default_notMem ?_ (mt hstep.1 hnot) ?_
    · rw [Spec.chain_field, hv]
      rfl
    · rw [Spec.chain_field, hv, hskips]
  · have hskips : (spec.chain strict field).skips (some .null) = true := by
      simp [Chain.skips, hflag hnot, Spec.isNullable_chain.2 hnullable]
    refine Chain.onlyReports_nil hd.default_notMem ?_ (mt hstep.1 hnot) ?_
    · rw [Spec.chain_field, hv]
      rfl
    · rw [Spec.chain_field, hv, hskips]

/-- A name that is cleaned and checked before it is required, twice, and the same rules without
that; in both a rule of the caller's own stands first. -/
theorem reports_of_absent_value_name :
    let taken : CustomRule := ⟨"taken", fun c => .error s!"{c.field} is taken"⟩
    let spec := Spec.list [.custom taken, .token "same:alias", .token "sanitize", .token "optional",
      .token "nullable"]
    let spec' := Spec.list [.custom taken, .token "same:alias", .token "sanitize", .token "optional",
      .token "required", .token "alpha", .token "required"]
    spec.Undefaulted ∧ spec'.Undefaulted ∧ ∃ c c', (compileField true "name" spec).result = .ok c ∧
      (compileField true "name" spec').result = .ok c' ∧ c.OnlyReports [] [] ∧
      c.OnlyReports [("name", .null)] [] ∧
      c'.OnlyReports [("name", .string "")] ["name is required"] := by
  intro taken spec spec'
  have hc : (compileField true "name" spec).result = .ok _ := rfl
  have hc' : (compileField true "name" spec').result = .ok _ := rfl
  have hd : spec.Undefaulted := by decide +kernel
  have hd' : spec'.Undefaulted := by decide +kernel
  have hstates : spec.States .optional ∧ spec.States .nullable ∧ ¬ spec.States .required ∧
      spec'.States .required := by decide +kernel
  obtain ⟨hoptional, hnullable, hnot, hrequired⟩ := hstates
  exact ⟨hd, hd', _, _, hc, hc', (reports_of_absent_value hc hd _).2.1 hoptional hnot rfl,
    (reports_of_absent_value hc hd _).2.2 hnullable hnot rfl,
    (reports_of_absent_value hc' hd' _).1 hrequired (by decide)⟩

end FieldRules
