import FieldRules.Proofs.CompiledChain
import FieldRules.Proofs.CutTexts

/-!
# Specifications without their ignored tokens

What a lenient compiler reports as ignored adds no step and no flag, so deleting it from the
specification leaves a chain with the same rules in the same order. It may have an effect all the
same: its tag is one of the tags of the field, and these decide how the bounds measure. The chain
that remains is therefore the one there was, with its bounds taken by the measure of the tags that
remain.
-/

namespace FieldRules

namespace Spec

def without (spec : Spec) (gone : List String) : Spec :=
  match spec with
  | pipe text =>
    let kept := (text.toList.splitOn '|').filter fun piece => String.ofList (Text.trim piece) ∉ gone
    pipe (String.ofList (['|'].intercalate kept))
  | list entries =>
    list (entries.filter fun e => (e.token?.map Text.trimmed).all fun t => t ∉ gone)

theorem tidy_filter (texts gone : List String) :
    tidy (texts.filter fun t => Text.trimmed t ∉ gone) = (tidy texts).filter fun t => t ∉ gone := by
  simp only [tidy, List.filter_filter, List.filter_map, Function.comp_def, Bool.and_comm]

/-- Texts put together with bars and cut again. No texts give the empty piece, which is blank. -/
theorem tidy_pieces_intercalate {texts : List String} (h : ∀ t ∈ texts, '|' ∉ t.toList) :
    tidy (Text.pieces '|' (String.intercalate "|" texts)) = tidy texts := by
  by_cases hnil : texts = []
  · subst hnil
    rfl
  · exact congrArg tidy (Text.pieces_intercalate h hnil)

theorem tokens_without (spec : Spec) (gone : List String) :
    (spec.without gone).tokens = spec.tokens.filter fun t => t ∉ gone := by
  cases spec with
  | pipe text =>
      rw [tokens, ← tidy_filter, Text.pieces, List.filter_map, without, tokens,
        Text.ofList_intercalate]
      refine (tidy_pieces_intercalate (List.forall_mem_map.2 fun p hp => ?_)).trans ?_
      · rw [String.toList_ofList]
        exact Text.notMem_of_mem_splitOn (List.mem_filter.1 hp).1
      · simp only [Function.comp_def, Text.trimmed, String.toList_ofList]
  | list entries =>
      rw [tokens, ← tidy_filter, without, tokens, List.filterMap_filter, List.filter_filterMap]
      refine congrArg tidy (congrArg (List.filterMap · entries) (funext fun e => ?_))
      cases e with
      | token text => simp [Entry.token?, Option.filter]
      | custom rule => simp [Entry.token?]

theorem customs_without (spec : Spec) (gone : List String) :
    (spec.without gone).customs = spec.customs := by
  cases spec with
  | pipe text => rfl
  | list entries =>
      rw [without, customs, customs, List.filterMap_filter]
      refine congrArg (List.filterMap · entries) (funext fun e => ?_)
      cases e with
      | token text => simp [Entry.custom?]
      | custom rule => simp [Entry.token?, Entry.custom?]

end Spec

namespace Bound

def measure? : Bound → Option Measure
  | min m _ => some m
  | max m _ => some m
  | between m _ _ => some m
  | _ => none

def remeasured (m : Measure) : Bound → Bound
  | min _ limit => min m limit
  | max _ limit => max m limit
  | between _ least most => between m least most
  | b => b

theorem remeasured_eq_self_iff {b : Bound} {m : Measure} :
    b.remeasured m = b ↔ ∀ own, b.measure? = some own → m = own := by
  cases b <;> simp [remeasured, measure?]

end Bound

namespace Step

def measure? : Step → Option Measure
  | .check (.bound b) => b.measure?
  | _ => none

def remeasured (m : Measure) : Step → Step
  | .check (.bound b) => .check (.bound (b.remeasured m))
  | s => s

theorem remeasured_eq_self_iff {s : Step} {m : Measure} :
    s.remeasured m = s ↔ ∀ own, s.measure? = some own → m = own := by
  cases s with
  | required => simp [remeasured, measure?]
  | transform t => simp [remeasured, measure?]
  | check k =>
      cases k with
      | bound b =>
          rw [remeasured, measure?, ← Bound.remeasured_eq_self_iff]
          simp
      | _ => simp [remeasured, measure?]

@[simp] theorem isRequiredStep_remeasured (s : Step) (m : Measure) :
    Chain.isRequiredStep (s.remeasured m) = Chain.isRequiredStep s := by
  cases s with
  | check k => cases k <;> rfl
  | _ => rfl

end Step

namespace Placement

def remeasured (m : Measure) : Placement → Placement
  | .step s => .step (s.remeasured m)
  | p => p

@[simp] theorem isOptional_remeasured (p : Placement) (m : Measure) :
    (p.remeasured m).isOptional = p.isOptional := by cases p <;> rfl

@[simp] theorem isNullable_remeasured (p : Placement) (m : Measure) :
    (p.remeasured m).isNullable = p.isNullable := by cases p <;> rfl

@[simp] theorem step?_remeasured (p : Placement) (m : Measure) :
    (p.remeasured m).step? = p.step?.map (Step.remeasured m) := by cases p <;> rfl

end Placement

theorem Rule.placement_remeasured (field : String) (m m' : Measure) (rule : Rule) :
    rule.placement field m' = (rule.placement field m).map (Placement.remeasured m') := by
  cases rule with
  | format pattern =>
      rw [placement, placement]
      cases compilePattern field pattern <;> rfl
  | _ => rfl

namespace Setting

theorem diagnostic?_remeasured (field : String) (strict : Bool) (m m' : Measure) :
    diagnostic? ⟨field, strict, m'⟩ = diagnostic? ⟨field, strict, m⟩ := by
  funext token
  refine Option.ext fun d => ?_
  simp only [diagnostic?_eq_some_iff, verdict_eq_ignored_iff]

theorem placement?_remeasured (field : String) (strict : Bool) (m m' : Measure) (token : String) :
    placement? ⟨field, strict, m'⟩ token =
      (placement? ⟨field, strict, m⟩ token).map (Placement.remeasured m') := by
  unfold placement? verdict
  cases Rule.ofToken token with
  | ok rule =>
      dsimp only
      rw [rule.placement_remeasured field m m']
      cases rule.placement field m <;> rfl
  | error issue => cases issue <;> cases strict <;> rfl

theorem compiles_remeasured_iff (field : String) (strict : Bool) (m m' : Measure) (token : String) :
    Compiles ⟨field, strict, m'⟩ token ↔ Compiles ⟨field, strict, m⟩ token := by
  unfold Compiles verdict
  cases Rule.ofToken token with
  | ok rule =>
      dsimp only
      rw [rule.placement_remeasured field m m']
      cases rule.placement field m <;> simp [Except.map]
  | error issue => cases issue <;> cases strict <;> simp [error]

theorem placement?_eq_none_of_diagnostic? {s : Setting} {token : String} {d : Diagnostic}
    (h : s.diagnostic? token = some d) : s.placement? token = none := by
  rw [diagnostic?_eq_some_iff] at h
  rw [placement?, h]

end Setting

def Token.isNumeric (t : Token) : Bool := t.tag == "integer" || t.tag == "numeric"

theorem Chain.measureOf_eq_numeric_iff {tags : List String} :
    measureOf tags = .numeric ↔ "integer" ∈ tags ∨ "numeric" ∈ tags := by
  rw [measureOf]
  split <;> simp_all

theorem measureOf_tagsOf_eq_numeric_iff {tokens : List String} :
    Chain.measureOf (tagsOf tokens) = .numeric ↔
      ∃ t ∈ tokens, (Token.ofString t).isNumeric = true := by
  simp only [Chain.measureOf_eq_numeric_iff, mem_tagsOf, Token.isNumeric, Bool.or_eq_true,
    beq_iff_eq, and_or_left, exists_or]

/-- The chain with other tags, and its bounds taken by the measure that these give. -/
def Chain.retagged (c : Chain) (tags : List String) : Chain :=
  { c with tags, steps := c.steps.map (Step.remeasured (measureOf tags)) }

namespace Spec

def ignored (spec : Spec) (field : String) : List String :=
  (compileField false field spec).diagnostics.map Diagnostic.token

def withoutIgnored (spec : Spec) (field : String) : Spec := spec.without (spec.ignored field)

/-- Some ignored token has a tag that makes bounds numeric, and no other token has. -/
def IgnoredDecideMeasure (spec : Spec) (field : String) : Prop :=
  (∃ t ∈ spec.ignored field, (Token.ofString t).isNumeric = true) ∧
    ∀ t ∈ (spec.withoutIgnored field).tokens, (Token.ofString t).isNumeric = false

theorem mem_ignored {spec : Spec} {field : String} (h : spec.Compiles false field) {t : String} :
    t ∈ spec.ignored field ↔
      t ∈ spec.tokens ∧ (spec.setting false field).diagnostic? t ≠ none := by
  rw [ignored, compileField_of_compiles h]
  simp only [diagnostics, List.mem_map, List.mem_filterMap, Option.ne_none_iff_exists']
  constructor
  · rintro ⟨d, ⟨token, htoken, hd⟩, rfl⟩
    obtain ⟨issue, -, -, -, rfl⟩ :=
      Setting.verdict_eq_ignored_iff.1 (Setting.diagnostic?_eq_some_iff.1 hd)
    exact ⟨htoken, _, hd⟩
  · rintro ⟨htoken, d, hd⟩
    obtain ⟨issue, -, -, -, rfl⟩ :=
      Setting.verdict_eq_ignored_iff.1 (Setting.diagnostic?_eq_some_iff.1 hd)
    exact ⟨_, ⟨t, htoken, hd⟩, rfl⟩

theorem tokens_withoutIgnored {spec : Spec} {field : String} (h : spec.Compiles false field) :
    (spec.withoutIgnored field).tokens =
      spec.tokens.filter fun t => ((spec.setting false field).diagnostic? t).isNone := by
  rw [withoutIgnored, tokens_without]
  refine List.filter_congr fun t ht => ?_
  simp [mem_ignored h, ht, ← Option.isNone_iff_eq_none]

section Remaining

variable {spec : Spec} {field : String} (h : spec.Compiles false field)
include h

theorem compiles_withoutIgnored : (spec.withoutIgnored field).Compiles false field := by
  intro t ht
  rw [tokens_withoutIgnored h] at ht
  exact (Setting.compiles_remeasured_iff field false _ _ t).2 (h t (List.mem_filter.1 ht).1)

theorem diagnostics_withoutIgnored : (spec.withoutIgnored field).diagnostics false field = [] := by
  refine List.filterMap_eq_nil_iff.2 fun t ht => ?_
  rw [tokens_withoutIgnored h, List.mem_filter, Option.isNone_iff_eq_none] at ht
  rw [setting, Setting.diagnostic?_remeasured]
  exact ht.2

theorem placements_withoutIgnored :
    (spec.withoutIgnored field).placements false field =
      (spec.placements false field).map
        (Placement.remeasured (Chain.measureOf (tagsOf (spec.withoutIgnored field).tokens))) := by
  have hkept (f : String → Option Placement) : (spec.withoutIgnored field).tokens.filterMap f =
      spec.tokens.filterMap fun t =>
        if ((spec.setting false field).diagnostic? t).isNone then f t else none := by
    rw [tokens_withoutIgnored h, List.filterMap_filter]
  rw [placements, placements, List.map_filterMap, hkept]
  refine congrArg (List.filterMap · spec.tokens) (funext fun t => ?_)
  have hplaced : ((spec.withoutIgnored field).setting false field).placement? t =
      ((spec.setting false field).placement? t).map (Placement.remeasured _) :=
    Setting.placement?_remeasured field false _ _ t
  rw [hplaced]
  cases hd : (spec.setting false field).diagnostic? t with
  | none => rfl
  | some d =>
      rw [Setting.placement?_eq_none_of_diagnostic? hd]
      rfl

theorem chain_withoutIgnored :
    (spec.withoutIgnored field).chain false field =
      (spec.chain false field).retagged (tagsOf (spec.withoutIgnored field).tokens) := by
  have hcustoms : (spec.withoutIgnored field).customs = spec.customs := spec.customs_without _
  have hsteps (ps : List Placement) (m : Measure) :
      (ps.map (Placement.remeasured m)).filterMap Placement.step? =
        (ps.filterMap Placement.step?).map (Step.remeasured m) := by
    simp only [List.filterMap_map, List.map_filterMap, Function.comp_def,
      Placement.step?_remeasured]
  simp only [chain, Chain.retagged, placements_withoutIgnored h, hcustoms, hsteps, List.any_map,
    List.map_append, List.map_map, Function.comp_def, Step.isRequiredStep_remeasured,
    Placement.isOptional_remeasured, Placement.isNullable_remeasured]
  rfl

end Remaining

end Spec
end FieldRules
