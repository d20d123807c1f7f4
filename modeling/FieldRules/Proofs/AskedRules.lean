import FieldRules.Proofs.InsertedTokens
import FieldRules.Proofs.PresenceRules

/-!
# What custom rules are asked

Wherever custom rules are written among the tokens of a field, they are asked last, in the order in
which they are written, and they change nothing. So all of them see one and the same record: the one
in which this field and the earlier ones are as they will be returned, and the later ones as they
were submitted. None of them is asked when a required step has ended the field, or when the field's
checks are left out for the value that the other steps have made.
-/

namespace FieldRules

namespace Event

def question? : Event → Option (String × Context)
  | asked rule context => some (rule, context)
  | _ => none

end Event

def questionsOf (events : List Event) : List (String × Context) :=
  events.filterMap Event.question?

theorem questionsOf_append (a b : List Event) :
    questionsOf (a ++ b) = questionsOf a ++ questionsOf b := List.filterMap_append

theorem CustomRule.questionsOf_ask (rule : CustomRule) (context : Context) :
    questionsOf (rule.ask context) = [(rule.name, context)] := by
  rw [ask]
  split <;> rfl

theorem questionsOf_flatMap_ask (rules : List CustomRule) (context : Context) :
    questionsOf (rules.flatMap fun rule => rule.ask context) =
      rules.map fun rule => (rule.name, context) := by
  induction rules with
  | nil => rfl
  | cons rule rest ih =>
      rw [List.flatMap_cons, questionsOf_append, rule.questionsOf_ask, ih]
      rfl

def customSteps (rules : List CustomRule) : List Step :=
  rules.map fun rule => .check (.custom rule)

theorem Check.questionsOf_run {k : Check} (hk : ∀ rule, k ≠ .custom rule) (field : String)
    (value : Option Value) (r : Record) : questionsOf (k.run field value r) = [] := by
  cases k with
  | custom rule => exact absurd rfl (hk rule)
  | _ =>
      rw [run]
      split <;> rfl

namespace Step

theorem ends_iff {steps : List Step} {v : Option Value} :
    ends steps v = true ↔ ∃ before after, steps = before ++ .required :: after ∧
      Value.isEmpty (valueAfter before v) = true := by
  constructor
  · intro h
    induction steps generalizing v with
    | nil => cases h
    | cons s rest ih =>
        cases s with
        | required =>
            cases hv : Value.isEmpty v with
            | true => exact ⟨[], rest, rfl, hv⟩
            | false =>
                rw [ends, hv, Bool.false_or] at h
                obtain ⟨before, after, rfl, hempty⟩ := ih h
                refine ⟨.required :: before, after, rfl, ?_⟩
                rwa [valueAfter, hv, if_neg Bool.false_ne_true]
        | transform t =>
            obtain ⟨before, after, rfl, hempty⟩ := ih (v := t.result v) h
            exact ⟨.transform t :: before, after, rfl, hempty⟩
        | check k =>
            obtain ⟨before, after, rfl, hempty⟩ := ih (v := v) h
            exact ⟨.check k :: before, after, rfl, hempty⟩
  · rintro ⟨before, after, rfl, hempty⟩
    rw [ends_append, ends, hempty, Bool.true_or, Bool.or_true]

theorem ends_customSteps (rules : List CustomRule) (v : Option Value) :
    ends (customSteps rules) v = false := by
  induction rules with
  | nil => rfl
  | cons rule rest ih => exact ih

theorem valueAfter_customSteps (rules : List CustomRule) (v : Option Value) :
    valueAfter (customSteps rules) v = v := by
  induction rules with
  | nil => rfl
  | cons rule rest ih => exact ih

theorem valueAfter_append_customSteps (steps : List Step) (rules : List CustomRule)
    (v : Option Value) : valueAfter (steps ++ customSteps rules) v = valueAfter steps v := by
  induction steps generalizing v with
  | nil => exact valueAfter_customSteps rules v
  | cons s rest ih =>
      cases s with
      | required => rw [List.cons_append, valueAfter, valueAfter, ih]
      | transform t => exact ih (t.result v)
      | check k => exact ih v

end Step

namespace Chain

theorem questionsOf_turn (c : Chain) (r : Record) {s : Step}
    (hs : ∀ rule, s ≠ .check (.custom rule)) : questionsOf (c.turn r s).events = [] := by
  cases s with
  | required =>
      rw [events_turn_required]
      split <;> rfl
  | transform t =>
      rw [events_turn_transform]
      split <;> rfl
  | check k =>
      rw [events_turn_check]
      split
      · rfl
      · exact Check.questionsOf_run (fun rule hk => hs rule (congrArg Step.check hk)) _ _ _

theorem questionsOf_runSteps (c : Chain) {steps : List Step}
    (h : ∀ rule, .check (.custom rule) ∉ steps) (r : Record) :
    questionsOf (c.runSteps steps r).events = [] := by
  induction steps generalizing r with
  | nil => rfl
  | cons s rest ih =>
      have hs : ∀ rule, s ≠ .check (.custom rule) := by
        rintro rule rfl
        exact h rule List.mem_cons_self
      have hrest : ∀ rule, .check (.custom rule) ∉ rest :=
        fun rule hmem => h rule (List.mem_cons_of_mem s hmem)
      rw [events_runSteps_cons, questionsOf_append, c.questionsOf_turn r hs, List.nil_append]
      split
      · rfl
      · exact ih hrest _

/-- Asking changes nothing, so every rule is asked about the same record. -/
theorem runSteps_customSteps (c : Chain) (rules : List CustomRule) (r : Record) :
    c.runSteps (customSteps rules) r =
      ⟨r, if c.skips (r.get? c.field) then []
        else rules.flatMap fun rule => rule.ask ⟨c.field, r.get? c.field, r⟩⟩ := by
  induction rules with
  | nil => cases h : c.skips (r.get? c.field) <;> simp [customSteps, runSteps]
  | cons rule rest ih =>
      have hcons : customSteps (rule :: rest) = .check (.custom rule) :: customSteps rest := rfl
      rw [hcons, runSteps_check, ih]
      cases h : c.skips (r.get? c.field) <;> rfl

def EndedByRequired (c : Chain) (r : Record) : Prop :=
  ∃ before after, c.steps = before ++ .required :: after ∧
    Value.isEmpty ((c.runSteps before r).record.get? c.field) = true

theorem endedByRequired_iff {c : Chain} {r : Record} :
    c.EndedByRequired r ↔ Step.ends c.steps (r.get? c.field) = true := by
  simp only [EndedByRequired, get?_runSteps_self, Step.ends_iff]

variable {c : Chain} {steps : List Step} {rules : List CustomRule}
  (hsteps : c.steps = steps ++ customSteps rules) (r : Record)
include hsteps

/-- The record behind the chain is the one behind its other steps. -/
theorem record_run_eq : (c.run r).record = (c.runSteps steps r).record := by
  rw [run, record_runSteps, record_runSteps, hsteps, Step.valueAfter_append_customSteps]

theorem events_run_eq_append :
    (c.run r).events = (c.runSteps steps r).events ++
      if Step.ends c.steps (r.get? c.field) ∨ c.skips ((c.run r).record.get? c.field) then []
      else rules.flatMap fun rule =>
        rule.ask ⟨c.field, (c.run r).record.get? c.field, (c.run r).record⟩ := by
  -- custom rules end nothing, so whether they are reached is up to the other steps
  have hends : Step.ends c.steps (r.get? c.field) = Step.ends steps (r.get? c.field) := by
    rw [hsteps, Step.ends_append, Step.ends_customSteps, Bool.or_false]
  rw [hends, record_run_eq hsteps, run, hsteps, events_runSteps_append, record_runSteps]
  cases Step.ends steps (r.get? c.field) with
  | true => simp
  | false => simp [runSteps_customSteps]

end Chain

namespace Spec

/-- The checks of a field are left out for a value: one that is required and empty, or optional and
missing, or nullable and null. -/
def Exempts (spec : Spec) (value : Option Value) : Prop :=
  (spec.States .required ∧ Value.isEmpty value = true) ∨
    (spec.States .optional ∧ value = none) ∨ (spec.States .nullable ∧ value = some .null)

variable {spec : Spec} {strict : Bool} {field : String}

theorem skips_chain_iff {value : Option Value} :
    (spec.chain strict field).skips value = true ↔ spec.Exempts value := by
  have hrequired : (spec.chain strict field).isRequired = true ↔ spec.States .required :=
    isRequired_chain.trans required_mem_steps_chain
  have hoptional : (spec.chain strict field).isOptional = true ↔ spec.States .optional :=
    isOptional_chain
  have hnullable : (spec.chain strict field).isNullable = true ↔ spec.States .nullable :=
    isNullable_chain
  have hnull : (value == some .null) = true ↔ value = some .null := beq_iff_eq
  rw [Exempts, ← hrequired, ← hoptional, ← hnullable, Chain.skips]
  cases hflag : (spec.chain strict field).isRequired with
  | true =>
      have hmissing : value = none → Value.isEmpty value = true := by
        rintro rfl
        rfl
      have hgiven : value = some .null → Value.isEmpty value = true := by
        rintro rfl
        rfl
      simp only [if_true, true_and]
      exact ⟨.inl, fun h => h.elim id fun h => h.elim (fun h => hmissing h.2) fun h => hgiven h.2⟩
  | false => simp [hnull]

def steps (spec : Spec) (strict : Bool) (field : String) : List Step :=
  (spec.setting strict field).steps spec.tokens

theorem custom_notMem_steps (rule : CustomRule) :
    .check (.custom rule) ∉ spec.steps strict field := by
  intro hmem
  obtain ⟨p, hp, hstep⟩ := List.mem_filterMap.1 hmem
  obtain ⟨t, -, hplaced⟩ := List.mem_filterMap.1 hp
  rw [Placement.step?_eq_some_iff] at hstep
  rw [Setting.placement?_eq_some_iff, Setting.verdict_eq_placed_iff] at hplaced
  obtain ⟨rule', -, hplacement⟩ := hplaced
  rw [hstep] at hplacement
  exact Rule.placement_ne_custom hplacement

theorem steps_chain_eq : (spec.chain strict field).steps =
    spec.steps strict field ++ customSteps spec.customs := rfl

theorem questionsOf_runSteps_steps (r : Record) :
    questionsOf ((spec.chain strict field).runSteps (spec.steps strict field) r).events = [] :=
  Chain.questionsOf_runSteps _ custom_notMem_steps r

theorem record_run_chain (r : Record) : ((spec.chain strict field).run r).record =
    ((spec.chain strict field).runSteps (spec.steps strict field) r).record :=
  Chain.record_run_eq steps_chain_eq r

theorem events_run_of_checked {r : Record} (hgoes : ¬ (spec.chain strict field).EndedByRequired r)
    (hchecked : ¬ spec.Exempts (((spec.chain strict field).run r).record.get? field)) :
    ((spec.chain strict field).run r).events =
      ((spec.chain strict field).runSteps (spec.steps strict field) r).events ++
        spec.customs.flatMap fun rule => rule.ask
          ⟨field, ((spec.chain strict field).run r).record.get? field,
            ((spec.chain strict field).run r).record⟩ := by
  rw [Chain.events_run_eq_append steps_chain_eq, if_neg]
  · rfl
  · rw [← Chain.endedByRequired_iff, skips_chain_iff]
    exact not_or.2 ⟨hgoes, hchecked⟩

theorem events_run_of_unchecked {r : Record} (h : (spec.chain strict field).EndedByRequired r ∨
      spec.Exempts (((spec.chain strict field).run r).record.get? field)) :
    ((spec.chain strict field).run r).events =
      ((spec.chain strict field).runSteps (spec.steps strict field) r).events := by
  rw [Chain.events_run_eq_append steps_chain_eq, if_pos, List.append_nil]
  rwa [← Chain.endedByRequired_iff, skips_chain_iff]

end Spec

theorem exists_compileSchema_take {strict : Bool} {specs : List (String × Spec)} {s : Schema}
    (hs : compileSchema strict specs = .ok s) (n : Nat) :
    ∃ t, compileSchema strict (specs.take n) = .ok t ∧ t.chains = s.chains.take n := by
  obtain ⟨hall, rfl⟩ := compileSchema_ok_iff.1 hs
  refine ⟨_, compileSchema_ok_iff.2 ⟨fun p hp => hall p (List.mem_of_mem_take hp), rfl⟩, ?_⟩
  exact List.map_take

theorem getElem?_chains {strict : Bool} {specs : List (String × Spec)} {s : Schema}
    (hs : compileSchema strict specs = .ok s) {i : Nat} {field : String} {spec : Spec}
    (hi : specs[i]? = some (field, spec)) : s.chains[i]? = some (spec.chain strict field) := by
  rw [(compileSchema_ok_iff.1 hs).2, List.getElem?_map, hi]
  rfl

namespace Schema

variable {s earlier cut : Schema} {i : Nat} {c : Chain} (hc : s.chains[i]? = some c)
  (hearlier : earlier.chains = s.chains.take i) (hcut : cut.chains = s.chains.take (i + 1))
  (r : Record)
include hc hearlier hcut

/-- The schema cut behind a chain returns what the chain makes of the record that it meets. -/
theorem record_validate_cut :
    (cut.validate r).record = (c.run (earlier.validate r).record).record := by
  obtain ⟨hlt, hget⟩ := List.getElem?_eq_some_iff.1 hc
  rw [List.take_succ_eq_append_getElem hlt, hget, ← hearlier] at hcut
  rw [validate, run, hcut, runChains_append]
  rfl

theorem events_run_cut :
    (s.run r).events = (earlier.run r).events ++ (c.run (earlier.validate r).record).events ++
      (runChains (s.chains.drop (i + 1)) (cut.validate r).record).events := by
  obtain ⟨hlt, hget⟩ := List.getElem?_eq_some_iff.1 hc
  have hsplit : s.chains = earlier.chains ++ c :: s.chains.drop (i + 1) := by
    rw [hearlier, ← hget, ← List.drop_eq_getElem_cons hlt, List.take_append_drop]
  have hrun : s.run r = runChains (earlier.chains ++ c :: s.chains.drop (i + 1)) r :=
    congrArg (runChains · r) hsplit
  rw [record_validate_cut hc hearlier hcut r, hrun, runChains_append, List.append_assoc]
  rfl

omit hc hearlier in
theorem get?_validate_cut_of_notMem_drop {key : String}
    (h : key ∉ (s.chains.drop (i + 1)).map Chain.field) :
    (cut.validate r).record.get? key = (s.validate r).record.get? key := by
  have hrun : s.run r = runChains (cut.chains ++ s.chains.drop (i + 1)) r := by
    rw [hcut, List.take_append_drop, run]
  have hlater := get?_runChains_of_notMem h (cut.validate r).record
  rw [← hlater, validate, validate, hrun, runChains_append]
  rfl

omit hc hearlier in
theorem get?_validate_cut_of_notMem_take {key : String}
    (h : key ∉ (s.chains.take (i + 1)).map Chain.field) :
    (cut.validate r).record.get? key = r.get? key := by
  rw [← hcut] at h
  exact get?_runChains_of_notMem h r

end Schema

/-- Wherever custom rules stand in the specification of a field, they are asked last, once each and
in their order, about the record that the schema cut behind the field returns; and none is asked if
a required step has ended the field or the field is exempt from its checks. -/
theorem questions_of_field {strict : Bool} {specs : List (String × Spec)} {s : Schema}
    (hs : compileSchema strict specs = .ok s) {i : Nat} {field : String} {spec : Spec}
    (hi : specs[i]? = some (field, spec)) (r : Record) :
    ∃ earlier cut c,
      compileSchema strict (specs.take i) = .ok earlier ∧
      compileSchema strict (specs.take (i + 1)) = .ok cut ∧
      s.chains[i]? = some c ∧
      c.steps = spec.steps strict field ++ customSteps spec.customs ∧
      let met := (earlier.validate r).record
      let seen := (cut.validate r).record
      let own := c.runSteps (spec.steps strict field) met
      let context : Context := ⟨field, seen.get? field, seen⟩
      (s.run r).events = (earlier.run r).events ++ (c.run met).events ++
        (runChains (s.chains.drop (i + 1)) seen).events ∧
      questionsOf own.events = [] ∧
      (¬ c.EndedByRequired met ∧ ¬ spec.Exempts (own.record.get? field) →
        (c.run met).events =
          own.events ++ spec.customs.flatMap (fun rule => rule.ask context) ∧
        questionsOf (c.run met).events = spec.customs.map fun rule => (rule.name, context)) ∧
      (c.EndedByRequired met ∨ spec.Exempts (own.record.get? field) →
        (c.run met).events = own.events ∧ questionsOf (c.run met).events = []) ∧
      ∀ key,
        (key ∉ (specs.drop (i + 1)).map Prod.fst →
          seen.get? key = (s.validate r).record.get? key) ∧
        (key ∉ (specs.take (i + 1)).map Prod.fst → seen.get? key = r.get? key) := by
  obtain ⟨earlier, hearlier, hbefore⟩ := exists_compileSchema_take hs i
  obtain ⟨cut, hcut, hthrough⟩ := exists_compileSchema_take hs (i + 1)
  have hc := getElem?_chains hs hi
  have hfields := fields_of_compileSchema hs
  have hseen := Schema.record_validate_cut hc hbefore hthrough r
  refine ⟨earlier, cut, _, hearlier, hcut, hc, Spec.steps_chain_eq, ?_⟩
  intro met seen own context
  have hquiet : questionsOf own.events = [] := Spec.questionsOf_runSteps_steps met
  -- the custom rules change nothing, so the value that decides is also the one behind the chain
  have hown : own.record = ((spec.chain strict field).run met).record :=
    (Spec.record_run_chain met).symm
  rw [hown]
  refine ⟨Schema.events_run_cut hc hbefore hthrough r, hquiet, ?_, ?_, fun key => ⟨?_, ?_⟩⟩
  · rintro ⟨hgoes, hchecked⟩
    have hevents := Spec.events_run_of_checked hgoes hchecked
    rw [← hseen] at hevents
    refine ⟨hevents, ?_⟩
    rw [hevents, questionsOf_append, questionsOf_flatMap_ask]
    rw [hquiet, List.nil_append]
  · intro hleft
    have hevents := Spec.events_run_of_unchecked hleft
    exact ⟨hevents, by rw [hevents, hquiet]⟩
  · intro hkey
    rw [List.map_drop, ← hfields, ← List.map_drop] at hkey
    exact Schema.get?_validate_cut_of_notMem_drop hthrough r hkey
  · intro hkey
    rw [List.map_take, ← hfields, ← List.map_take] at hkey
    exact Schema.get?_validate_cut_of_notMem_take hthrough r hkey

/-- Two rules that are written before the default of their field, between fields with defaults. -/
theorem questions_of_field_name :
    let known : CustomRule := ⟨"known", fun _ => .ok true⟩
    let free : CustomRule := ⟨"free", fun c => .error s!"{c.field} is taken"⟩
    let spec := Spec.list [.custom known, .token "default:guest", .custom free, .token "required"]
    let specs := [("role", Spec.pipe "default:user"), ("name", spec),
      ("city", Spec.pipe "default:none")]
    let seen : Record := [("city", .null), ("role", .string "user"), ("name", .string "guest")]
    ∃ s c met, compileSchema true specs = .ok s ∧ specs[1]? = some ("name", spec) ∧
      s.chains[1]? = some c ∧
      questionsOf (c.run met).events =
        [("known", ⟨"name", some (.string "guest"), seen⟩),
          ("free", ⟨"name", some (.string "guest"), seen⟩)] := by
  intro known free spec specs seen
  have hs : compileSchema true specs = .ok _ := rfl
  have hi : specs[1]? = some ("name", spec) := rfl
  obtain ⟨earlier, cut, c, hearlier, hcut, hc, -, -, -, hasked, -⟩ :=
    questions_of_field hs hi [("city", .null)]
  obtain rfl : _ = earlier := Except.ok.inj hearlier
  obtain rfl : _ = cut := Except.ok.inj hcut
  obtain rfl : _ = c := Option.some.inj hc
  refine ⟨_, _, _, hs, hi, rfl, (hasked ⟨?_, fun hexempt => ?_⟩).2⟩
  · rw [Chain.endedByRequired_iff, Bool.not_eq_true]
    rfl
  · have hskips : (spec.chain true "name").skips (some (.string "guest")) = true :=
      Spec.skips_chain_iff.2 hexempt
    cases hskips

end FieldRules
