import FieldRules.Proofs.PresenceRules
import FieldRules.Proofs.WellFormedChains
import FieldRules.Proofs.WrittenRules

/-!
# What becomes of every token

A lenient compiler takes the tokens of a field in turn. A token makes a step, or sets a flag, or is
left out with a diagnostic, and no token does two of these or none. So the steps and the diagnostics
stand in the order of their tokens, and custom rules follow the steps. The tags of the field are
those of all its tokens, also of the ones left out.
-/

namespace FieldRules

theorem forall₂_filter_filterMap {α β : Type} {R : α → β → Prop} {p : α → Bool} {f : α → Option β}
    {l : List α} (hfilter : ∀ x ∈ l, p x = true → ∃ y, f x = some y ∧ R x y)
    (hmap : ∀ x y, f x = some y → p x = true) : List.Forall₂ R (l.filter p) (l.filterMap f) := by
  induction l with
  | nil => exact .nil
  | cons x rest ih =>
      have hrest := ih fun y hy => hfilter y (List.mem_cons_of_mem x hy)
      by_cases hp : p x = true
      · obtain ⟨y, hy, hR⟩ := hfilter x List.mem_cons_self hp
        rw [List.filter_cons_of_pos hp, List.filterMap_cons_some hy]
        exact .cons hR hrest
      · have hx : f x = none := Option.eq_none_iff_forall_ne_some.2 fun y hy => hp (hmap x y hy)
        rw [List.filter_cons_of_neg hp, List.filterMap_cons_none hx]
        exact hrest

def Rule.isFlag : Rule → Bool
  | optional | nullable => true
  | _ => false

theorem Rule.step?_eq_none_iff {field : String} {m : Measure} {rule : Rule} {p : Placement}
    (h : rule.placement field m = .ok p) : p.step? = none ↔ rule.isFlag = true := by
  cases rule with
  | format pattern =>
      obtain ⟨compiled, rfl⟩ := exists_of_placement_format h
      exact ⟨nofun, nofun⟩
  | optional | nullable =>
      cases h
      exact ⟨fun _ => rfl, fun _ => rfl⟩
  | _ =>
      cases h
      exact ⟨nofun, nofun⟩

inductive TokenRole
  | step
  | flag
  | ignored
  deriving DecidableEq

namespace TokenRole

def of (token : String) : TokenRole :=
  match Rule.ofToken token with
  | .ok rule => if rule.isFlag then flag else step
  | .error _ => ignored

theorem of_eq_step_iff {t : String} :
    of t = step ↔ ∃ rule, Rule.ofToken t = .ok rule ∧ rule.isFlag = false := by
  unfold of
  cases Rule.ofToken t with
  | error issue => exact ⟨nofun, nofun⟩
  | ok rule => cases h : rule.isFlag <;> simp [h]

theorem of_eq_flag_iff {t : String} :
    of t = flag ↔ ∃ rule, Rule.ofToken t = .ok rule ∧ rule.isFlag = true := by
  unfold of
  cases Rule.ofToken t with
  | error issue => exact ⟨nofun, nofun⟩
  | ok rule => cases h : rule.isFlag <;> simp [h]

theorem of_eq_ignored_iff {t : String} : of t = ignored ↔ ∃ issue, Rule.ofToken t = .error issue := by
  unfold of
  cases Rule.ofToken t with
  | error issue => exact ⟨fun _ => ⟨issue, rfl⟩, fun _ => rfl⟩
  | ok rule => cases h : rule.isFlag <;> simp [h]

theorem of_eq_flag_iff_of_isTrimmed {t : String} (ht : Text.IsTrimmed t) :
    of t = flag ↔ t = "optional" ∨ t = "nullable" := by
  have hoptional : Rule.ofToken t = .ok .optional ↔ t = "optional" := Rule.ofToken_eq_ok_iff ht rfl
  have hnullable : Rule.ofToken t = .ok .nullable ↔ t = "nullable" := Rule.ofToken_eq_ok_iff ht rfl
  rw [of_eq_flag_iff, ← hoptional, ← hnullable]
  constructor
  · rintro ⟨rule, hrule, hflag⟩
    cases rule with
    | optional => exact .inl hrule
    | nullable => exact .inr hrule
    | _ => cases hflag
  · rintro (h | h)
    · exact ⟨_, h, rfl⟩
    · exact ⟨_, h, rfl⟩

end TokenRole

namespace Setting

def GivesStep (s : Setting) (token : String) (step : Step) : Prop :=
  ∃ rule, Rule.ofToken token = .ok rule ∧ rule.placement s.field s.measure = .ok (.step step)

def GivesDiagnostic (s : Setting) (token : String) (d : Diagnostic) : Prop :=
  ∃ issue, Rule.ofToken token = .error issue ∧ (issue = .unknown ∨ issue = .malformedCondition) ∧
    d = ⟨s.field, token, issue⟩

variable {s : Setting} {t : String}

theorem exists_givesStep (hc : s.Compiles t) (hrole : TokenRole.of t = .step) :
    ∃ step, (s.placement? t).bind Placement.step? = some step ∧ s.GivesStep t step := by
  obtain ⟨rule, hrule, hflag⟩ := TokenRole.of_eq_step_iff.1 hrole
  cases hp : rule.placement s.field s.measure with
  | error e =>
      have hfailed : s.verdict t = .failed e := by simp only [verdict, hrule, hp]
      exact absurd hfailed (hc e)
  | ok p =>
      have hplaced : s.placement? t = some p :=
        placement?_eq_some_iff.2 (verdict_eq_placed_iff.2 ⟨rule, hrule, hp⟩)
      obtain ⟨step, hstep⟩ : ∃ step, p.step? = some step := by
        rw [← Option.ne_none_iff_exists', ne_eq, Rule.step?_eq_none_iff hp, hflag]
        exact Bool.false_ne_true
      rw [hplaced]
      refine ⟨step, hstep, rule, hrule, ?_⟩
      rw [hp, Placement.step?_eq_some_iff.1 hstep]

theorem role_of_step? {step : Step} (h : (s.placement? t).bind Placement.step? = some step) :
    TokenRole.of t = .step := by
  obtain ⟨p, hplaced, hstep⟩ := Option.bind_eq_some_iff.1 h
  obtain ⟨rule, hrule, hp⟩ := verdict_eq_placed_iff.1 (placement?_eq_some_iff.1 hplaced)
  refine TokenRole.of_eq_step_iff.2 ⟨rule, hrule, Bool.eq_false_iff.2 fun hflag => ?_⟩
  rw [(Rule.step?_eq_none_iff hp).2 hflag] at hstep
  cases hstep

theorem exists_givesDiagnostic (hc : s.Compiles t) (hs : s.strict = false)
    (hrole : TokenRole.of t = .ignored) :
    ∃ d, s.diagnostic? t = some d ∧ s.GivesDiagnostic t d := by
  obtain ⟨issue, hissue⟩ := TokenRole.of_eq_ignored_iff.1 hrole
  have hparameter : ∀ fault, issue ≠ .invalidParameter fault := by
    rintro fault rfl
    have hfailed : s.verdict t = .failed (s.error t (.invalidParameter fault)) := by
      simp only [verdict, hissue]
    exact hc _ hfailed
  refine ⟨⟨s.field, t, issue⟩, ?_, issue, hissue, ?_, rfl⟩
  · exact diagnostic?_eq_some_iff.2
      (verdict_eq_ignored_iff.2 ⟨issue, hissue, hparameter, hs, rfl⟩)
  · cases issue with
    | unknown => exact .inl rfl
    | malformedCondition => exact .inr rfl
    | invalidParameter fault => exact absurd rfl (hparameter fault)

theorem role_of_diagnostic? {d : Diagnostic} (h : s.diagnostic? t = some d) :
    TokenRole.of t = .ignored := by
  obtain ⟨issue, hissue, -⟩ := verdict_eq_ignored_iff.1 (diagnostic?_eq_some_iff.1 h)
  exact TokenRole.of_eq_ignored_iff.2 ⟨issue, hissue⟩

end Setting

theorem pairwise_insertTag {tags : List String} (h : tags.Pairwise (· < ·)) (tag : String) :
    (insertTag tag tags).Pairwise (· < ·) := by
  induction tags with
  | nil => exact List.pairwise_singleton _ tag
  | cons t rest ih =>
      obtain ⟨ht, hrest⟩ := List.pairwise_cons.1 h
      rw [insertTag]
      by_cases heq : tag = t
      · rwa [if_pos heq]
      · rw [if_neg heq]
        by_cases hlt : tag < t
        · rw [if_pos hlt]
          refine List.pairwise_cons.2 ⟨?_, h⟩
          exact List.forall_mem_cons.2 ⟨hlt, fun u hu => String.lt_trans hlt (ht u hu)⟩
        · rw [if_neg hlt]
          refine List.pairwise_cons.2 ⟨fun u hu => ?_, ih hrest⟩
          rcases mem_insertTag.1 hu with rfl | hu
          · exact Std.lt_of_le_of_ne (String.not_lt.1 hlt) (Ne.symm heq)
          · exact ht u hu

theorem pairwise_tagsOf (tokens : List String) : (tagsOf tokens).Pairwise (· < ·) := by
  induction tokens with
  | nil => exact .nil
  | cons token rest ih => exact pairwise_insertTag ih _

namespace Spec

def tokensOf (spec : Spec) (role : TokenRole) : List String :=
  spec.tokens.filter fun t => TokenRole.of t = role

theorem isTrimmed_of_mem_tokens {spec : Spec} {t : String} (h : t ∈ spec.tokens) :
    Text.IsTrimmed t ∧ t ≠ "" := by
  have htidy {texts : List String} (h : t ∈ tidy texts) : Text.IsTrimmed t ∧ t ≠ "" := by
    obtain ⟨htrimmed, hne⟩ := List.mem_filter.1 h
    obtain ⟨text, -, rfl⟩ := List.mem_map.1 htrimmed
    exact ⟨Text.isTrimmed_trimmed text, by simpa using hne⟩
  cases spec with
  | pipe text => exact htidy h
  | list entries => exact htidy h

variable {spec : Spec} {field : String}

theorem states_iff_mem {name : String} {rule : Rule} (hname : rule.token? = some ⟨name, none⟩) :
    spec.States rule ↔ name ∈ spec.tokens := by
  have hread {t : String} (ht : t ∈ spec.tokens) : Rule.ofToken t = .ok rule ↔ t = name :=
    Rule.ofToken_eq_ok_iff (isTrimmed_of_mem_tokens ht).1 hname
  constructor
  · rintro ⟨t, ht, hrule⟩
    rwa [← (hread ht).1 hrule]
  · intro h
    exact ⟨name, h, (hread h).2 rfl⟩

theorem forall₂_steps (h : spec.Compiles false field) :
    List.Forall₂ (spec.setting false field).GivesStep (spec.tokensOf .step)
      (spec.steps false field) := by
  rw [steps, Setting.steps, List.filterMap_filterMap]
  refine forall₂_filter_filterMap (fun t ht hrole => ?_) fun t step hstep => ?_
  · exact Setting.exists_givesStep (h t ht) (of_decide_eq_true hrole)
  · exact decide_eq_true (Setting.role_of_step? hstep)

theorem forall₂_diagnostics (h : spec.Compiles false field) :
    List.Forall₂ (spec.setting false field).GivesDiagnostic (spec.tokensOf .ignored)
      (spec.diagnostics false field) := by
  refine forall₂_filter_filterMap (fun t ht hrole => ?_) fun t d hd => ?_
  · exact Setting.exists_givesDiagnostic (h t ht) rfl (of_decide_eq_true hrole)
  · exact decide_eq_true (Setting.role_of_diagnostic? hd)

end Spec

/-- The tokens and custom rules of a specification are found in a chain and its diagnostics again,
each token in one way. -/
structure Chain.AccountsFor (c : Chain) (diagnostics : List Diagnostic) (spec : Spec) : Prop where
  steps : ∃ steps, c.steps = steps ++ customSteps spec.customs ∧
    List.Forall₂ (Setting.GivesStep ⟨c.field, false, c.measure⟩) (spec.tokensOf .step) steps
  diagnostics : List.Forall₂ (Setting.GivesDiagnostic ⟨c.field, false, c.measure⟩)
    (spec.tokensOf .ignored) diagnostics
  flags : ∀ t ∈ spec.tokens, TokenRole.of t = .flag ↔ t = "optional" ∨ t = "nullable"
  isOptional_iff : c.isOptional = true ↔ "optional" ∈ spec.tokens
  isNullable_iff : c.isNullable = true ↔ "nullable" ∈ spec.tokens
  tags_pairwise : c.tags.Pairwise (· < ·)
  mem_tags_iff : ∀ tag, tag ∈ c.tags ↔ ∃ t ∈ spec.tokens,
    String.ofList (Text.trim (t.toList.takeWhile (· ≠ ':'))) = tag

/-- A field that compiles leniently accounts for every token of its specification. -/
theorem accountsFor_of_compileField {field : String} {spec : Spec} {c : Chain}
    (hc : (compileField false field spec).result = .ok c) :
    c.field = field ∧ c.AccountsFor (compileField false field spec).diagnostics spec := by
  obtain ⟨h, rfl⟩ := compileField_ok_iff.1 hc
  rw [compileField_of_compiles h]
  refine ⟨rfl, ?_⟩
  exact
    { steps := ⟨spec.steps false field, Spec.steps_chain_eq, Spec.forall₂_steps h⟩
      diagnostics := Spec.forall₂_diagnostics h
      flags := fun t ht =>
        TokenRole.of_eq_flag_iff_of_isTrimmed (Spec.isTrimmed_of_mem_tokens ht).1
      isOptional_iff := Spec.isOptional_chain.trans (Spec.states_iff_mem rfl)
      isNullable_iff := Spec.isNullable_chain.trans (Spec.states_iff_mem rfl)
      tags_pairwise := pairwise_tagsOf spec.tokens
      mem_tags_iff := fun tag => by simp only [← Token.tag_ofString, mem_tagsOf, Spec.chain] }

/-- Rules, flags, blank tokens, ignored tokens and a custom rule mixed. -/
theorem accountsFor_of_compileField_size :
    let even : CustomRule := ⟨"even", fun _ => .ok true⟩
    let spec := Spec.list [.token "min:3", .custom even, .token " integer: x", .token "optional",
      .token " ", .token "required_if:kind", .token "required ", .token "optional"]
    spec.tokensOf .step = ["min:3", "required"] ∧
      spec.tokensOf .flag = ["optional", "optional"] ∧
      spec.tokensOf .ignored = ["integer: x", "required_if:kind"] ∧
      ∃ c, (compileField false "size" spec).result = .ok c ∧ c.field = "size" ∧
        c.AccountsFor (compileField false "size" spec).diagnostics spec := by
  intro even spec
  have hsteps : spec.tokensOf .step = ["min:3", "required"] := by decide +kernel
  have hflags : spec.tokensOf .flag = ["optional", "optional"] := by decide +kernel
  have hignored : spec.tokensOf .ignored = ["integer: x", "required_if:kind"] := by decide +kernel
  have hok : (compileField false "size" spec).result.toOption.isSome = true := by decide +kernel
  cases hc : (compileField false "size" spec).result with
  | error e =>
      rw [hc] at hok
      cases hok
  | ok c => exact ⟨hsteps, hflags, hignored, c, rfl, accountsFor_of_compileField hc⟩

end FieldRules
