import FieldRules.Proofs.RedactedLog
import FieldRules.Proofs.ReturnedKeys
import FieldRules.Proofs.SameValues

/-!
# Fields that must match

A rule may say that a field has the same value as another one. Where no transform touches the two
fields and nothing is said about their presence, the rule passes exactly if the submitted values
have the same content at every path, or are both missing. So of such fields the rule is an
equivalence, wherever in the schema it is stated, and the order of the members of objects does not
matter to it.
-/

namespace FieldRules

namespace Chain

/-- The chain has no transform and no flag about the presence of its field. -/
structure Plain (c : Chain) : Prop where
  transforms : c.transforms = []
  isRequired : c.isRequired = false
  isOptional : c.isOptional = false
  isNullable : c.isNullable = false

instance (c : Chain) : Decidable c.Plain :=
  decidable_of_iff (c.transforms = [] ∧ c.isRequired = false ∧ c.isOptional = false ∧
      c.isNullable = false)
    ⟨fun ⟨h, h', h'', h'''⟩ => ⟨h, h', h'', h'''⟩, fun h =>
      ⟨h.transforms, h.isRequired, h.isOptional, h.isNullable⟩⟩

def OnlyChecks (steps : List Step) : Prop := ∀ step ∈ steps, ∃ k, step = .check k

theorem Plain.skips {c : Chain} (h : c.Plain) (value : Option Value) : c.skips value = false := by
  simp [Chain.skips, h.isRequired, h.isOptional, h.isNullable]

theorem Plain.onlyChecks {c : Chain} (h : c.Plain) (hr : .required ∉ c.steps) :
    OnlyChecks c.steps := by
  intro step hstep
  cases step with
  | required => exact absurd hstep hr
  | transform t =>
      have ht := mem_transforms.2 hstep
      rw [h.transforms] at ht
      cases ht
  | check k => exact ⟨k, rfl⟩

theorem turn_check_eq_next (c : Chain) (r : Record) (k : Check) :
    c.turn r (.check k) = .next ⟨r, (c.turn r (.check k)).events⟩ := by
  simp only [turn]
  split <;> rfl

theorem place_notMem_failedSteps {c : Chain} {number next i : Nat} (hi : i < next)
    (steps : List Step) (r : Record) :
    toLex (number, i) ∉ (c.failedSteps number next steps r).map FailedStep.place := by
  intro hmem
  obtain ⟨f, hf, hplace⟩ := List.mem_map.1 hmem
  have hstep := (place_of_mem_failedSteps hf).2
  have heq : f.step = i := (Prod.mk.inj (toLex.injective hplace)).2
  omega

theorem map_place_ite (number next : Nat) (value : Option Value) (fails : Bool) :
    (if fails then [⟨number, next, value⟩] else []).map FailedStep.place =
      if fails then [toLex (number, next)] else [] := by
  cases fails <;> rfl

theorem events_runSteps_of_onlyChecks {c : Chain} {front : List Step} (h : OnlyChecks front)
    (back : List Step) (r : Record) :
    (c.runSteps (front ++ back) r).events =
      (c.runSteps front r).events ++ (c.runSteps back r).events := by
  induction front with
  | nil => rfl
  | cons s front ih =>
      obtain ⟨⟨k, rfl⟩, hrest⟩ := List.forall_mem_cons.1 h
      rw [List.cons_append, runSteps_check, runSteps_check, ih hrest, List.append_assoc]

/-- Where all steps are checks, each of them is reached with the record that the chain met. -/
theorem mem_failedSteps_iff {c : Chain} {front : List Step} (hfront : OnlyChecks front)
    (number next : Nat) (step : Step) (back : List Step) (r : Record) :
    toLex (number, next + front.length) ∈
        (c.failedSteps number next (front ++ step :: back) r).map FailedStep.place ↔
      c.fails r step = true := by
  induction front generalizing next with
  | nil =>
      rw [List.nil_append, failedSteps, List.map_append, List.mem_append, map_place_ite,
        List.length_nil, Nat.add_zero]
      refine (or_iff_left ?_).trans ?_
      · cases c.turn r step with
        | stop events => exact List.not_mem_nil
        | next p => exact place_notMem_failedSteps (Nat.lt_succ_self next) back p.record
      · cases c.fails r step <;> simp
  | cons s front ih =>
      obtain ⟨⟨k, rfl⟩, hrest⟩ := List.forall_mem_cons.1 hfront
      rw [List.cons_append, failedSteps, turn_check_eq_next, List.map_append, List.mem_append,
        map_place_ite]
      have hother : toLex (number, next + (front.length + 1)) ∉
          if c.fails r (.check k) then [toLex (number, next)] else [] := by
        intro hmem
        split at hmem
        · have heq := (Prod.mk.inj (toLex.injective (List.mem_singleton.1 hmem))).2
          omega
        · cases hmem
      rw [List.length_cons, or_iff_right hother, Nat.add_comm front.length, ← Nat.add_assoc]
      exact ih hrest (next + 1)

end Chain

theorem mem_failedIn_iff (before : List Chain) (next : Nat) (c : Chain) (after : List Chain)
    (i : Nat) (r : Record) :
    toLex (next + before.length, i) ∈
        (failedIn next (before ++ c :: after) r).map FailedStep.place ↔
      toLex (next + before.length, i) ∈ (c.failedSteps (next + before.length) 0 c.steps
        (runChains before r).record).map FailedStep.place := by
  induction before generalizing next r with
  | nil =>
      have hlater : toLex (next, i) ∉
          (failedIn (next + 1) after (c.run r).record).map FailedStep.place := by
        intro hmem
        obtain ⟨f, hf, hplace⟩ := List.mem_map.1 hmem
        have hchain := le_chain_of_mem_failedIn hf
        have heq : f.chain = next := (Prod.mk.inj (toLex.injective hplace)).1
        omega
      rw [List.nil_append, failedIn, List.map_append, List.mem_append]
      exact or_iff_left hlater
  | cons d before ih =>
      have hother : toLex (next + (before.length + 1), i) ∉
          (d.failedSteps next 0 d.steps r).map FailedStep.place := by
        intro hmem
        obtain ⟨f, hf, hplace⟩ := List.mem_map.1 hmem
        have hchain := (Chain.place_of_mem_failedSteps hf).1
        have heq := (Prod.mk.inj (toLex.injective hplace)).1
        omega
      rw [List.cons_append, failedIn, List.map_append, List.mem_append, List.length_cons,
        or_iff_right hother, Nat.add_comm before.length, ← Nat.add_assoc]
      exact ih (next + 1) (d.run r).record

namespace Schema

/-- Where a schema states that a field must match another one: which chain it is, and which step of
the chain. -/
structure Comparison (s : Schema) (field other : String) where
  before : List Chain
  chain : Chain
  after : List Chain
  front : List Step
  back : List Step
  chains_eq : s.chains = before ++ chain :: after
  field_eq : chain.field = field
  steps_eq : chain.steps = front ++ .check (.relation (.same other)) :: back

namespace Comparison

variable {s : Schema} {a b : String}

def place (p : s.Comparison a b) : Nat ×ₗ Nat := toLex (p.before.length, p.front.length)

def Passes (p : s.Comparison a b) (r : Record) : Prop :=
  p.place ∉ (s.failedSteps r).map FailedStep.place

theorem chain_mem (p : s.Comparison a b) : p.chain ∈ s.chains :=
  p.chains_eq ▸ List.mem_append_right _ List.mem_cons_self

section Plain

variable (p : s.Comparison a b) (hrequired : ∀ c ∈ s.chains, c.isRequired = false →
  .required ∉ c.steps) (hplain : ∀ c ∈ s.chains, c.field ∈ [a, b] → c.Plain) (r : Record)
include hplain

theorem get?_before {field : String} (hfield : field ∈ [a, b]) :
    (runChains p.before r).record.get? field = r.get? field :=
  get?_runChains_of_untransformed (fun c hc heq =>
    (hplain c (p.chains_eq ▸ List.mem_append_left _ hc) (heq ▸ hfield)).transforms) r

theorem plain_chain : p.chain.Plain := by
  refine hplain _ p.chain_mem ?_
  rw [p.field_eq]
  exact List.mem_cons_self

theorem events_turn :
    (p.chain.turn (runChains p.before r).record (.check (.relation (.same b)))).events =
      if Value.sameIfAny (r.get? a) (r.get? b) then []
      else [.failed a (r.get? a) s!"{a} must match {b}"] := by
  have ha := p.get?_before hplain r List.mem_cons_self
  have hb := p.get?_before hplain r (List.mem_cons_of_mem a List.mem_cons_self)
  rw [Chain.events_turn_check, (p.plain_chain hplain).skips, if_neg Bool.false_ne_true, p.field_eq,
    ha, Check.run, Relation.accepts, hb]
  rfl

include hrequired

theorem onlyChecks_front : Chain.OnlyChecks p.front := by
  have hc := p.plain_chain hplain
  have hsteps := hc.onlyChecks (hrequired _ p.chain_mem hc.isRequired)
  rw [p.steps_eq] at hsteps
  exact fun step hstep => hsteps step (List.mem_append_left _ hstep)

theorem passes_iff : p.Passes r ↔ Value.sameIfAny (r.get? a) (r.get? b) = true := by
  have hchain := mem_failedIn_iff p.before 0 p.chain p.after p.front.length r
  have hstep := Chain.mem_failedSteps_iff (c := p.chain) (p.onlyChecks_front hrequired hplain)
    p.before.length 0 (.check (.relation (.same b))) p.back (runChains p.before r).record
  rw [Nat.zero_add] at hchain hstep
  rw [Passes, place, Schema.failedSteps, p.chains_eq, hchain, p.steps_eq, hstep, Chain.fails,
    p.events_turn hplain]
  cases Value.sameIfAny (r.get? a) (r.get? b) with
  | true => exact iff_of_true Bool.false_ne_true rfl
  | false => exact iff_of_false (not_not_intro rfl) Bool.false_ne_true

theorem message_mem_errors (h : ¬ p.Passes r) :
    s!"{a} must match {b}" ∈ (s.validate r).errors := by
  rw [p.passes_iff hrequired hplain] at h
  have hturn := p.events_turn hplain r
  rw [if_neg h] at hturn
  simp only [Schema.validate, Schema.run, p.chains_eq, runChains_append, runChains,
    messagesOf_append, List.mem_append]
  refine .inr (.inl ?_)
  rw [Chain.run, p.steps_eq, Chain.events_runSteps_of_onlyChecks
    (p.onlyChecks_front hrequired hplain), Chain.runSteps_check, ← Chain.events_turn_check, hturn,
    messagesOf_append, List.mem_append]
  exact .inr List.mem_cons_self

theorem passes_iff_agree (ha : ∀ v ∈ r.get? a, v.Every Json.KeysDistinct) :
    p.Passes r ↔ Option.Rel Value.Agree (r.get? a) (r.get? b) :=
  (p.passes_iff hrequired hplain r).trans (Value.sameIfAny_iff_agree ha)

theorem passes_iff_of_reordered {r' : Record} (hkeys : ∀ v ∈ r.get? a, v.Every Json.KeysDistinct)
    (hkeys' : ∀ v ∈ r.get? b, v.Every Json.KeysDistinct)
    (ha : Option.Rel Value.Reordered (r.get? a) (r'.get? a))
    (hb : Option.Rel Value.Reordered (r.get? b) (r'.get? b)) : p.Passes r' ↔ p.Passes r := by
  obtain ⟨hkeysA, ha⟩ := Value.rel_agree_of_reordered ha hkeys
  obtain ⟨-, hb⟩ := Value.rel_agree_of_reordered hb hkeys'
  rw [p.passes_iff_agree hrequired hplain r hkeys, p.passes_iff_agree hrequired hplain r' hkeysA]
  constructor
  · intro h
    exact Value.rel_agree_trans ha (Value.rel_agree_trans h (Value.rel_agree_symm hb))
  · intro h
    exact Value.rel_agree_trans (Value.rel_agree_symm ha) (Value.rel_agree_trans h hb)

theorem content_eq_of_passes (ha : ∀ v ∈ r.get? a, v.Every Json.KeysDistinct) (h : p.Passes r)
    (path : List Value.Key) :
    ((Value.object r).reach? (.member a :: path)).map Value.content =
      ((Value.object r).reach? (.member b :: path)).map Value.content := by
  rw [p.passes_iff_agree hrequired hplain r ha, Value.rel_agree_iff] at h
  exact h path

end Plain

end Comparison

theorem required_notMem_of_compileSchema {strict : Bool} {specs : List (String × Spec)} {s : Schema}
    (hs : compileSchema strict specs = .ok s) {c : Chain} (hc : c ∈ s.chains)
    (hflag : c.isRequired = false) : .required ∉ c.steps := by
  obtain ⟨-, rfl⟩ := compileSchema_ok_iff.1 hs
  obtain ⟨spec, -, rfl⟩ := List.mem_map.1 hc
  rw [← Spec.isRequired_chain, hflag]
  exact Bool.false_ne_true

/-- A token that says so of a field gives a step that compares it. -/
theorem comparison_of_token {strict : Bool} {specs : List (String × Spec)} {s : Schema}
    (hs : compileSchema strict specs = .ok s) {a b token : String} {spec : Spec}
    (hspec : (a, spec) ∈ specs) (htoken : token ∈ spec.tokens)
    (hrule : Rule.ofToken token = .ok (.same b)) : Nonempty (s.Comparison a b) := by
  obtain ⟨-, rfl⟩ := compileSchema_ok_iff.1 hs
  have hchain : spec.chain strict a ∈ specs.map fun p => p.2.chain strict p.1 :=
    List.mem_map.2 ⟨_, hspec, rfl⟩
  have hplaced : (spec.setting strict a).verdict token =
      .placed (.step (.check (.relation (.same b)))) :=
    Setting.verdict_eq_placed_iff.2 ⟨_, hrule, rfl⟩
  obtain ⟨before, after, hchains⟩ := List.append_of_mem hchain
  obtain ⟨front, back, hsteps⟩ := List.append_of_mem
    (Spec.mem_steps_chain.2 (.inl ⟨token, htoken, hplaced⟩))
  exact ⟨⟨before, _, after, front, back, hchains, rfl, hsteps⟩⟩

/-- Among fields without transforms and without flags about their presence, to match is an
equivalence, wherever in the schema it is required. A missing field matches exactly a missing one;
the verdict is the same with members of objects reordered anywhere in the two values; an integer
matches no float, wherever they stand; and where the rule fails, its message is given. -/
theorem match_is_equivalence {strict : Bool} {specs : List (String × Spec)} {s : Schema}
    (hs : compileSchema strict specs = .ok s) {a b c : String}
    (hplain : ∀ d ∈ s.chains, d.field ∈ [a, b, c] → d.Plain) {r : Record}
    (hr : (Value.object r).Every Json.KeysDistinct) :
    (∀ p : s.Comparison a a, p.Passes r) ∧
    (∀ (p : s.Comparison a b) (q : s.Comparison b a), p.Passes r ↔ q.Passes r) ∧
    (∀ (p : s.Comparison a b) (q : s.Comparison b c) (t : s.Comparison a c),
      p.Passes r → q.Passes r → t.Passes r) ∧
    ∀ p : s.Comparison a b,
      (r.get? a = none → (p.Passes r ↔ r.get? b = none)) ∧
      (∀ r' : Record, Option.Rel Value.Reordered (r.get? a) (r'.get? a) →
        Option.Rel Value.Reordered (r.get? b) (r'.get? b) → (p.Passes r' ↔ p.Passes r)) ∧
      (∀ path i x, p.Passes r →
        ((Value.object r).reach? (.member a :: path) = some (.number (.integer i)) →
          (Value.object r).reach? (.member b :: path) ≠ some (.number (.float x))) ∧
        ((Value.object r).reach? (.member a :: path) = some (.number (.float x)) →
          (Value.object r).reach? (.member b :: path) ≠ some (.number (.integer i)))) ∧
      (¬ p.Passes r → s!"{a} must match {b}" ∈ (s.validate r).errors) := by
  have hrequired : ∀ d ∈ s.chains, d.isRequired = false → .required ∉ d.steps := fun _ hd hflag =>
    required_notMem_of_compileSchema hs hd hflag
  have hkeys (field : String) : ∀ v ∈ Record.get? r field, v.Every Json.KeysDistinct := fun v hv =>
    hr.within (List.mem_map_of_mem (Record.mem_of_get? hv))
  have hiff {a' b' : String} (hsub : [a', b'] ⊆ [a, b, c]) (p : s.Comparison a' b') :
      p.Passes r ↔ Option.Rel Value.Agree (r.get? a') (r.get? b') :=
    p.passes_iff_agree hrequired (fun d hd hmem => hplain d hd (hsub hmem)) r (hkeys a')
  have haa : [a, a] ⊆ [a, b, c] := by simp
  have hab : [a, b] ⊆ [a, b, c] := by simp
  have hba : [b, a] ⊆ [a, b, c] := by simp
  have hbc : [b, c] ⊆ [a, b, c] := by simp
  have hac : [a, c] ⊆ [a, b, c] := by simp
  have hplain' : ∀ d ∈ s.chains, d.field ∈ [a, b] → d.Plain := fun d hd hmem =>
    hplain d hd (hab hmem)
  refine ⟨fun p => (hiff haa p).2 (Value.rel_agree_refl _), fun p q => ?_, fun p q t hp hq => ?_,
    fun p => ⟨fun hnone => ?_, fun r' ha hb => ?_, fun path i x hp => ?_, fun hp => ?_⟩⟩
  · rw [hiff hab p, hiff hba q]
    exact ⟨Value.rel_agree_symm, Value.rel_agree_symm⟩
  · rw [hiff hab p] at hp
    rw [hiff hbc q] at hq
    exact (hiff hac t).2 (Value.rel_agree_trans hp hq)
  · rw [hiff hab p, hnone]
    cases r.get? b with
    | none => simp
    | some w => simp
  · exact p.passes_iff_of_reordered hrequired hplain' r (hkeys a) (hkeys b) ha hb
  · have hpath := p.content_eq_of_passes hrequired hplain' r (hkeys a) hp path
    constructor
    · intro ha hb
      rw [ha, hb] at hpath
      cases hpath
    · intro ha hb
      rw [ha, hb] at hpath
      cases hpath
  · exact p.message_mem_errors hrequired hplain' r hp

/-- Two deliveries, of which the second has its members in another order in a second record, and a
third one with a float in place of an integer. -/
theorem match_is_equivalence_deliveries :
    let specs := [("first", Spec.pipe "same:second|array|same:third"),
      ("second", Spec.pipe "same:first"), ("note", Spec.pipe "sanitize|required")]
    let delivery (count : Number) : Value :=
      .array [.object [("count", .number count), ("to", .string "x")]]
    let reordered : Value := .array [.object [("to", .string "x"), ("count", .number (.integer 1))]]
    let r : Record := [("first", delivery (.integer 1)), ("second", delivery (.integer 1)),
      ("third", delivery (.float ⟨false, Binary64.one⟩))]
    let r' := r.insert "second" reordered
    ∃ s, compileSchema true specs = .ok s ∧
      (∀ d ∈ s.chains, d.field ∈ ["first", "second", "third"] → d.Plain) ∧
      (Value.object r).Every Json.KeysDistinct ∧
      ∃ (p : s.Comparison "first" "second") (q : s.Comparison "second" "first")
        (third : s.Comparison "first" "third"), q.Passes r ∧ p.Passes r' ∧ ¬ third.Passes r := by
  intro specs delivery reordered r r'
  have hok : (compileSchema true specs).toOption.any (fun s =>
      decide (∀ d ∈ s.chains, d.field ∈ ["first", "second", "third"] → d.Plain)) = true := by
    decide +kernel
  have hscalar {v : Value} (hv : v.parts = []) (hframe : Json.KeysDistinct v.frame) :
      v.Every Json.KeysDistinct := ⟨hframe, hv ▸ List.forall_mem_nil _⟩
  have hdelivery (count : Number) : (delivery count).Every Json.KeysDistinct := by
    have hkeys : ["count", "to"].Nodup := by decide
    refine ⟨trivial, List.forall_mem_singleton.2 ⟨hkeys, ?_⟩⟩
    exact List.forall_mem_cons.2 ⟨hscalar rfl trivial, List.forall_mem_singleton.2
      (hscalar rfl trivial)⟩
  have hr : (Value.object r).Every Json.KeysDistinct := by
    have hkeys : ["first", "second", "third"].Nodup := by decide
    refine ⟨hkeys, List.forall_mem_cons.2 ⟨hdelivery _, ?_⟩⟩
    exact List.forall_mem_cons.2 ⟨hdelivery _, List.forall_mem_singleton.2 (hdelivery _)⟩
  cases hs : compileSchema true specs with
  | error e =>
      rw [hs] at hok
      cases hok
  | ok s =>
      rw [hs] at hok
      have hplain : ∀ d ∈ s.chains, d.field ∈ ["first", "second", "third"] → d.Plain :=
        of_decide_eq_true hok
      have hsecond : Rule.ofToken "same:second" = .ok (.same "second") := rfl
      have hthird : Rule.ofToken "same:third" = .ok (.same "third") := rfl
      have hfirst : Rule.ofToken "same:first" = .ok (.same "first") := rfl
      obtain ⟨p⟩ : Nonempty (s.Comparison "first" "second") :=
        comparison_of_token hs List.mem_cons_self (by decide +kernel) hsecond
      obtain ⟨q⟩ : Nonempty (s.Comparison "second" "first") :=
        comparison_of_token hs (List.mem_cons_of_mem _ List.mem_cons_self) (by decide +kernel)
          hfirst
      obtain ⟨third⟩ : Nonempty (s.Comparison "first" "third") :=
        comparison_of_token hs List.mem_cons_self (by decide +kernel) hthird
      have hp : p.Passes r := by
        refine (p.passes_iff (fun _ => required_notMem_of_compileSchema hs) ?_ r).2 (by decide)
        exact fun d hd hmem => hplain d hd (List.mem_append_left ["third"] hmem)
      have hstep : Value.Reorders (delivery (.integer 1)) reordered :=
        .item [] [] (.here (.swap _ _ _))
      obtain ⟨-, hsymm, -, hall⟩ := match_is_equivalence hs hplain hr
      have hother := match_is_equivalence hs (a := "first") (b := "third") (c := "third")
        (fun d hd hmem => hplain d hd (by simp at hmem ⊢; tauto)) hr
      refine ⟨s, rfl, hplain, hr, p, q, third, (hsymm p q).1 hp, ?_, fun hthird => ?_⟩
      · exact ((hall p).2.1 r' (.some .refl) (.some (.single hstep))).2 hp
      · exact ((hother.2.2.2 third).2.2.1 [.item 0, .member "count"] 1 _ hthird).1 rfl rfl

end Schema
end FieldRules
