import FieldRules.Proofs.CompiledChain
import FieldRules.Proofs.StepMessages
import Mathlib.Data.List.Forall2

/-!
# The order of fields and tokens

Without defaults and sanitizers a run changes nothing in the record, so every step of every field
sees the submitted record, and the messages of a field do not depend on the order of its steps but
for their own order. The measure of the bounds depends on the set of tags.
-/

namespace FieldRules

theorem Chain.measureOf_congr {tags tags' : List String} (h : ∀ t, t ∈ tags ↔ t ∈ tags') :
    measureOf tags = measureOf tags' := by
  simp only [measureOf, List.contains_eq_mem, h]

def Rule.isTransform : Rule → Bool
  | sanitize => true
  | default _ => true
  | _ => false

namespace Spec

def Reorders (a b : Spec) : Prop := a.tokens.Perm b.tokens ∧ a.customs.Perm b.customs

def Untransformed (spec : Spec) : Prop :=
  ∀ t ∈ spec.tokens, (Rule.ofToken t).toOption.any Rule.isTransform = false

instance (spec : Spec) : Decidable spec.Untransformed :=
  inferInstanceAs (Decidable (∀ t ∈ spec.tokens, _))

theorem Reorders.symm {a b : Spec} (h : a.Reorders b) : b.Reorders a := ⟨h.1.symm, h.2.symm⟩

theorem Reorders.setting_eq {a b : Spec} (h : a.Reorders b) (strict : Bool) (field : String) :
    a.setting strict field = b.setting strict field := by
  have htags : Chain.measureOf (tagsOf a.tokens) = Chain.measureOf (tagsOf b.tokens) :=
    Chain.measureOf_congr fun t => by simp only [mem_tagsOf, h.1.mem_iff]
  rw [setting, htags, setting]

theorem Reorders.compiles_iff {a b : Spec} (h : a.Reorders b) (strict : Bool) (field : String) :
    a.Compiles strict field ↔ b.Compiles strict field := by
  simp only [Compiles, h.setting_eq, h.1.mem_iff]

theorem Reorders.placements_perm {a b : Spec} (h : a.Reorders b) (strict : Bool)
    (field : String) : (a.placements strict field).Perm (b.placements strict field) := by
  rw [placements, h.setting_eq, placements]
  exact h.1.filterMap _

theorem Reorders.steps_perm {a b : Spec} (h : a.Reorders b) (strict : Bool) (field : String) :
    (a.chain strict field).steps.Perm (b.chain strict field).steps :=
  ((h.placements_perm strict field).filterMap _).append (h.2.map _)

theorem Reorders.isRequired_eq {a b : Spec} (h : a.Reorders b) (strict : Bool) (field : String) :
    (a.chain strict field).isRequired = (b.chain strict field).isRequired :=
  ((h.placements_perm strict field).filterMap Placement.step?).any_eq

theorem Reorders.skips_eq {a b : Spec} (h : a.Reorders b) (strict : Bool) (field : String)
    (value : Option Value) :
    (a.chain strict field).skips value = (b.chain strict field).skips value := by
  have hoptional : (a.chain strict field).isOptional = (b.chain strict field).isOptional :=
    (h.placements_perm strict field).any_eq
  have hnullable : (a.chain strict field).isNullable = (b.chain strict field).isNullable :=
    (h.placements_perm strict field).any_eq
  simp only [Chain.skips, h.isRequired_eq, hoptional, hnullable]

end Spec

theorem Rule.isTransform_of_placement {field : String} {m : Measure} {rule : Rule} {t : Transform}
    (h : rule.placement field m = .ok (.step (.transform t))) : rule.isTransform = true := by
  cases rule with
  | sanitize => rfl
  | default literal => rfl
  | format pattern =>
      obtain ⟨compiled, hp⟩ := exists_of_placement_format h
      cases hp
  | _ => cases h

theorem Spec.Untransformed.transform_notMem {spec : Spec} (h : spec.Untransformed) (strict : Bool)
    (field : String) (t : Transform) : .transform t ∉ (spec.chain strict field).steps := by
  rw [mem_steps_chain]
  rintro (⟨token, htoken, hv⟩ | ⟨rule, -, hr⟩)
  · obtain ⟨rule, hrule, hp⟩ := Setting.verdict_eq_placed_iff.1 hv
    have hnot := h token htoken
    rw [hrule] at hnot
    exact Bool.false_ne_true (hnot.symm.trans (Rule.isTransform_of_placement hp))
  · cases hr

theorem runChains_of_transform_notMem {cs : List Chain}
    (h : ∀ c ∈ cs, ∀ t, .transform t ∉ c.steps) (r : Record) :
    (runChains cs r).record = r ∧
      messagesOf (runChains cs r).events = cs.flatMap fun c => messagesOf (c.run r).events := by
  induction cs with
  | nil => exact ⟨rfl, rfl⟩
  | cons c rest ih =>
      have hc : (c.run r).record = r :=
        Chain.record_run_of_inert (Step.inert_of_transform_notMem (h c List.mem_cons_self) _)
      obtain ⟨hrecord, hmessages⟩ := ih fun d hd => h d (List.mem_cons_of_mem c hd)
      constructor
      · rw [runChains, hc, hrecord]
      · rw [runChains, messagesOf_append, hc, hmessages, List.flatMap_cons]

namespace Spec

theorem Reorders.untransformed {a b : Spec} (h : a.Reorders b) (hu : a.Untransformed) :
    b.Untransformed := fun t ht => hu t (h.1.mem_iff.2 ht)

theorem Reorders.messagesAt_eq {a b : Spec} (h : a.Reorders b) (strict : Bool) (field : String)
    (r : Record) :
    (a.chain strict field).messagesAt r = (b.chain strict field).messagesAt r := by
  funext s
  cases s with
  | required => rfl
  | transform t => rfl
  | check k =>
      rw [Chain.messagesAt, Chain.messagesAt, chain_field, chain_field, h.skips_eq]

theorem Reorders.messages_perm {a b : Spec} (h : a.Reorders b) (hu : a.Untransformed)
    (strict : Bool) (field : String) (r : Record) :
    (messagesOf ((a.chain strict field).run r).events).Perm
      (messagesOf ((b.chain strict field).run r).events) := by
  have hta := Step.inert_of_transform_notMem (hu.transform_notMem strict field) (r.get? field)
  have htb := Step.inert_of_transform_notMem
    ((h.untransformed hu).transform_notMem strict field) (r.get? field)
  have hsteps := h.steps_perm strict field
  by_cases hv : Value.isEmpty (r.get? field) = false ∨ .required ∉ (a.chain strict field).steps
  · have hv' : Value.isEmpty (r.get? field) = false ∨ .required ∉ (b.chain strict field).steps :=
      hv.imp_right fun hr hb => hr (hsteps.mem_iff.2 hb)
    rw [Chain.run, Chain.messages_runSteps hta hv, Chain.run, Chain.messages_runSteps htb hv',
      h.messagesAt_eq]
    exact hsteps.flatMap_right _
  · simp only [not_or, Bool.not_eq_false, not_not] at hv
    have hrb := hsteps.mem_iff.1 hv.2
    rw [Chain.run, Chain.messages_runSteps_of_isEmpty hta (isRequired_chain.2 hv.2) hv.2 hv.1,
      Chain.run, Chain.messages_runSteps_of_isEmpty htb (isRequired_chain.2 hrb) hrb hv.1]
    exact .refl _

end Spec

/-- The same fields in some order, each with its tokens and custom rules in some order. -/
def ReorderedSpecs (specs specs' : List (String × Spec)) : Prop :=
  ∃ inside, List.Forall₂ (fun p q => p.1 = q.1 ∧ p.2.Reorders q.2) specs inside ∧
    inside.Perm specs'

theorem ReorderedSpecs.forall_iff {specs specs' : List (String × Spec)}
    (h : ReorderedSpecs specs specs') {P : String × Spec → Prop}
    (hP : ∀ p q, p.1 = q.1 → p.2.Reorders q.2 → (P p ↔ P q)) :
    (∀ p ∈ specs, P p) ↔ ∀ p ∈ specs', P p := by
  obtain ⟨inside, hinside, hperm⟩ := h
  simp only [← hperm.mem_iff]
  clear hperm
  induction hinside with
  | nil => simp
  | cons hpq _ ih =>
      rw [List.forall_mem_cons, List.forall_mem_cons]
      exact and_congr (hP _ _ hpq.1 hpq.2) ih

theorem ReorderedSpecs.flatMap_perm {specs specs' : List (String × Spec)}
    (h : ReorderedSpecs specs specs') {f : String × Spec → List String}
    (hf : ∀ p ∈ specs, ∀ q, p.1 = q.1 → p.2.Reorders q.2 → (f p).Perm (f q)) :
    (specs.flatMap f).Perm (specs'.flatMap f) := by
  obtain ⟨inside, hinside, hperm⟩ := h
  refine List.Perm.trans ?_ (hperm.flatMap_right f)
  clear hperm
  induction hinside with
  | nil => exact .refl _
  | cons hpq _ ih =>
      rw [List.flatMap_cons, List.flatMap_cons]
      exact (hf _ List.mem_cons_self _ hpq.1 hpq.2).append
        (ih fun p hp => hf p (List.mem_cons_of_mem _ hp))

theorem validate_of_untransformed {strict : Bool} {specs : List (String × Spec)} {s : Schema}
    (hs : compileSchema strict specs = .ok s) (hu : ∀ p ∈ specs, p.2.Untransformed)
    (r : Record) :
    s.validate r =
      ⟨r, specs.flatMap fun p => messagesOf ((p.2.chain strict p.1).run r).events⟩ := by
  have hchains : ∀ c ∈ s.chains, ∀ t, .transform t ∉ c.steps := by
    rw [(compileSchema_ok_iff.1 hs).2]
    intro c hc
    obtain ⟨p, hp, rfl⟩ := List.mem_map.1 hc
    exact (hu p hp).transform_notMem strict p.1
  obtain ⟨hrecord, hmessages⟩ := runChains_of_transform_notMem hchains r
  rw [Schema.validate, Schema.run, hrecord, hmessages, (compileSchema_ok_iff.1 hs).2,
    List.flatMap_map]

theorem exists_compileSchema_ok_iff {strict : Bool} {specs : List (String × Spec)} :
    (∃ s, compileSchema strict specs = .ok s) ↔ ∀ p ∈ specs, p.2.Compiles strict p.1 := by
  simp only [compileSchema_ok_iff, exists_and_left, exists_eq, and_true]

/-- Fields, tokens and custom rules may stand in any order as long as nothing transforms a value:
whether the rules compile and what they accept stays, the record is returned as it was submitted,
and the messages are the same up to their order. -/
theorem outcomes_of_reorderedSpecs {strict : Bool} {specs specs' : List (String × Spec)}
    (h : ReorderedSpecs specs specs') (hu : ∀ p ∈ specs, p.2.Untransformed) :
    ((∃ s, compileSchema strict specs = .ok s) ↔ ∃ s, compileSchema strict specs' = .ok s) ∧
      ∀ s s', compileSchema strict specs = .ok s → compileSchema strict specs' = .ok s' →
        ∀ r, (s.validate r).record = r ∧ (s'.validate r).record = r ∧
          (s.validate r).accepted = (s'.validate r).accepted ∧
          (s.validate r).errors.Perm (s'.validate r).errors := by
  have hu' : ∀ p ∈ specs', p.2.Untransformed := by
    refine (h.forall_iff fun p q _ hpq => ?_).1 hu
    exact ⟨hpq.untransformed, hpq.symm.untransformed⟩
  constructor
  · rw [exists_compileSchema_ok_iff, exists_compileSchema_ok_iff]
    refine h.forall_iff fun p q hname hpq => ?_
    rw [← hname]
    exact hpq.compiles_iff strict p.1
  · intro s s' hs hs' r
    have hperm : (s.validate r).errors.Perm (s'.validate r).errors := by
      rw [validate_of_untransformed hs hu, validate_of_untransformed hs' hu']
      refine h.flatMap_perm fun p hp q hname hpq => ?_
      rw [← hname]
      exact hpq.messages_perm (hu p hp) strict p.1 r
    refine ⟨?_, ?_, ?_, hperm⟩
    · rw [validate_of_untransformed hs hu]
    · rw [validate_of_untransformed hs' hu']
    · exact hperm.isEmpty_eq

/-- A bar-separated text and a list with a custom rule, with both fields and both inner orders
turned round. -/
theorem outcomes_of_reorderedSpecs_age_name :
    let named : CustomRule := ⟨"named", fun c => .ok c.value.isSome⟩
    let specs := [("age", .pipe "min:18|integer|required"),
      ("name", .list [.token "string", .custom named, .token "optional"])]
    let specs' := [("name", .list [.custom named, .token "optional", .token "string"]),
      ("age", .pipe "required|integer|min:18")]
    ReorderedSpecs specs specs' ∧ (∀ p ∈ specs, p.2.Untransformed) ∧
      ((∃ s, compileSchema false specs = .ok s) ↔ ∃ s, compileSchema false specs' = .ok s) ∧
      ∀ s s', compileSchema false specs = .ok s → compileSchema false specs' = .ok s' →
        ∀ r, (s.validate r).record = r ∧ (s'.validate r).record = r ∧
          (s.validate r).accepted = (s'.validate r).accepted ∧
          (s.validate r).errors.Perm (s'.validate r).errors := by
  intro named specs specs'
  have hage : Spec.Reorders (.pipe "min:18|integer|required") (.pipe "required|integer|min:18") :=
    ⟨by decide +kernel, .refl _⟩
  have hname : Spec.Reorders (.list [.token "string", .custom named, .token "optional"])
      (.list [.custom named, .token "optional", .token "string"]) :=
    ⟨by decide +kernel, .refl _⟩
  have hspecs : ReorderedSpecs specs specs' :=
    ⟨[("age", .pipe "required|integer|min:18"),
      ("name", .list [.custom named, .token "optional", .token "string"])],
      .cons ⟨rfl, hage⟩ (.cons ⟨rfl, hname⟩ .nil), .swap _ _ _⟩
  have hu : ∀ p ∈ specs, p.2.Untransformed := by decide +kernel
  exact ⟨hspecs, hu, outcomes_of_reorderedSpecs hspecs hu⟩

end FieldRules
