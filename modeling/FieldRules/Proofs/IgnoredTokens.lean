import FieldRules.Proofs.RemainingTokens
import FieldRules.Proofs.StepMessages

/-!
# What ignored tokens change

An ignored `integer:x` or `numeric:y` makes the bounds of its field numeric. Where no other token of
the field does and there is a bound, deleting the ignored tokens changes what the field accepts and
how it words it; in all other cases it changes nothing. A boolean tells the two chains apart: it has
neither a length nor a size, so every bound fails on it, and the messages name the measure.
-/

namespace FieldRules

theorem Measure.eq_iff {m m' : Measure} : m = m' ↔ (m = .numeric ↔ m' = .numeric) := by
  cases m <;> cases m' <;> simp

theorem Chain.steps_retagged_eq_iff {c : Chain} {tags : List String} :
    (c.retagged tags).steps = c.steps ↔ ∀ s ∈ c.steps, s.remeasured (measureOf tags) = s := by
  have hmap : c.steps.map (Step.remeasured (measureOf tags)) = c.steps.map id ↔
      ∀ s ∈ c.steps, s.remeasured (measureOf tags) = id s := List.map_inj_left
  rwa [List.map_id] at hmap

namespace Spec

theorem measure_withoutIgnored_iff {spec : Spec} {field : String} (h : spec.Compiles false field) :
    Chain.measureOf (tagsOf (spec.withoutIgnored field).tokens) =
        Chain.measureOf (tagsOf spec.tokens) ↔ ¬ spec.IgnoredDecideMeasure field := by
  have htokens (t : String) : t ∈ spec.tokens ↔
      t ∈ spec.ignored field ∨ t ∈ (spec.withoutIgnored field).tokens := by
    rw [mem_ignored h, tokens_withoutIgnored h, List.mem_filter, Option.isNone_iff_eq_none]
    by_cases hd : (spec.setting false field).diagnostic? t = none <;> simp [hd]
  rw [Measure.eq_iff, measureOf_tagsOf_eq_numeric_iff, measureOf_tagsOf_eq_numeric_iff,
    IgnoredDecideMeasure]
  simp only [htokens, or_and_right, exists_or]
  constructor
  · rintro hiff ⟨hignored, hrest⟩
    obtain ⟨t, ht, hn⟩ := hiff.2 (Or.inl hignored)
    exact Bool.false_ne_true ((hrest t ht).symm.trans hn)
  · intro hnot
    refine ⟨Or.inr, fun hor => hor.elim (fun hignored => ?_) id⟩
    refine Classical.byContradiction fun hrest => hnot ⟨hignored, fun t ht => ?_⟩
    exact Bool.eq_false_iff.2 fun hn => hrest ⟨t, ht, hn⟩

theorem measure_of_mem_chain {spec : Spec} {strict : Bool} {field : String} {s : Step}
    (hs : s ∈ (spec.chain strict field).steps) {m : Measure} (hm : s.measure? = some m) :
    Chain.measureOf (tagsOf spec.tokens) = m := by
  rcases mem_steps_chain.1 hs with ⟨t, -, hv⟩ | ⟨rule, -, rfl⟩
  · obtain ⟨rule, -, hp⟩ := Setting.verdict_eq_placed_iff.1 hv
    have hown := rule.placement_remeasured field (spec.setting strict field).measure
      (spec.setting strict field).measure
    simp only [setting] at hp hown
    rw [hp] at hown
    have hself : s.remeasured (Chain.measureOf (tagsOf spec.tokens)) = s := by
      simpa [Except.map, Placement.remeasured, eq_comm] using hown
    exact Step.remeasured_eq_self_iff.1 hself m hm
  · cases hm

/-- The steps change when ignored tokens alone made a bound numeric. -/
theorem steps_retagged_iff {spec : Spec} {field : String} (h : spec.Compiles false field) :
    ((spec.chain false field).retagged (tagsOf (spec.withoutIgnored field).tokens)).steps =
        (spec.chain false field).steps ↔
      ¬ (spec.IgnoredDecideMeasure field ∧
        ∃ step ∈ (spec.chain false field).steps, step.measure? ≠ none) := by
  have hmeasure := measure_withoutIgnored_iff h
  rw [Chain.steps_retagged_eq_iff]
  constructor
  · rintro hsteps ⟨hdecide, step, hstep, hsome⟩
    obtain ⟨own, hown⟩ := Option.ne_none_iff_exists'.1 hsome
    have hrest := Step.remeasured_eq_self_iff.1 (hsteps step hstep) own hown
    exact hmeasure.1 (hrest.trans (measure_of_mem_chain hstep hown).symm) hdecide
  · intro hnot step hstep
    refine Step.remeasured_eq_self_iff.2 fun own hown => ?_
    have hkeep : ¬ spec.IgnoredDecideMeasure field := fun hdecide =>
      hnot ⟨hdecide, step, hstep, by simp [hown]⟩
    exact (hmeasure.2 hkeep).trans (measure_of_mem_chain hstep hown)

end Spec

namespace Chain

theorem run_of_steps_retagged {c : Chain} {tags : List String}
    (h : (c.retagged tags).steps = c.steps) : (c.retagged tags).run = c.run := by
  have hfield : (c.retagged tags).field = c.field := rfl
  funext r
  rw [run, h, run]
  exact runSteps_congr hfield (fun _ => rfl) c.steps r

theorem messagesAt_retagged (c : Chain) (tags : List String) (r : Record) :
    (c.retagged tags).messagesAt r = c.messagesAt r := by
  funext s
  cases s <;> rfl

end Chain

theorem Step.inert_bool (steps : List Step) (b : Bool) : Inert steps (some (.bool b)) := by
  intro t _
  cases t with
  | default literal => rfl
  | sanitize s => simp [Transform.apply, Sanitizer.sanitize, Sanitizer.cleanWithin, Except.map]

theorem get?_runChains_bool {cs : List Chain} {r : Record} {field : String} {b : Bool}
    (h : r.get? field = some (.bool b)) : (runChains cs r).record.get? field = some (.bool b) := by
  induction cs generalizing r with
  | nil => exact h
  | cons c rest ih =>
      rw [runChains]
      refine ih ?_
      by_cases hc : c.field = field
      · subst hc
        rw [Chain.record_run_of_inert (by rw [h]; exact Step.inert_bool _ b), h]
      · rw [Chain.run, c.get?_runSteps_of_ne c.steps r hc, h]

namespace Bound

theorem not_accepts_bool {bound : Bound} {m : Measure} (hm : bound.measure? = some m) (b : Bool) :
    bound.accepts (some (.bool b)) = false := by
  have hof (own : Measure) : own.of? (some (.bool b)) = none := by cases own <;> rfl
  cases bound with
  | min _ _ | max _ _ | between _ _ _ => simp only [accepts, measured, hof]
  | length _ _ | oneOf _ | format _ => cases hm

theorem measure?_remeasured {b : Bound} {own : Measure} (hm : b.measure? = some own) (m : Measure) :
    (b.remeasured m).measure? = some m := by
  cases b with
  | min _ _ | max _ _ | between _ _ _ => rfl
  | length _ _ | oneOf _ | format _ => cases hm

/-- The message names the measure. -/
theorem eq_of_message_remeasured {b : Bound} {own m : Measure} {field : String}
    (hm : b.measure? = some own)
    (h : (b.remeasured m).message field = b.message field) : m = own := by
  have hunit : m.unit = own.unit := by
    cases b with
    | min _ _ | max _ _ | between _ _ _ =>
        cases hm
        simp only [remeasured, message, String.append_right_inj] at h
        exact h
    | length _ _ | oneOf _ | format _ => cases hm
  cases m <;> cases own <;> simp [Measure.unit] at hunit ⊢

end Bound

namespace Chain

theorem not_skips_bool (c : Chain) (b : Bool) : c.skips (some (.bool b)) = false := by
  rw [skips]
  split
  · rfl
  · simp

theorem messagesAt_bound_of_bool {c : Chain} {r : Record} {b : Bool}
    (hr : r.get? c.field = some (.bool b)) {bound : Bound} {m : Measure}
    (hm : bound.measure? = some m) :
    c.messagesAt r (.check (.bound bound)) = [bound.message c.field] := by
  rw [messagesAt, hr, c.not_skips_bool, Check.run, Bound.not_accepts_bool hm]
  rfl

/-- Where the messages on a boolean are the same, so are the steps. -/
theorem remeasured_eq_of_messagesAt {c : Chain} {r : Record} {b : Bool}
    (hr : r.get? c.field = some (.bool b)) {m : Measure} {steps : List Step}
    (h : (steps.map (Step.remeasured m)).flatMap (c.messagesAt r) =
      steps.flatMap (c.messagesAt r)) : steps.map (Step.remeasured m) = steps := by
  induction steps with
  | nil => rfl
  | cons s rest ih =>
      rw [List.map_cons, List.flatMap_cons, List.flatMap_cons] at h
      rw [List.map_cons]
      cases hs : s.measure? with
      | none =>
          have hsame : s.remeasured m = s := Step.remeasured_eq_self_iff.2 (by simp [hs])
          rw [hsame] at h ⊢
          rw [ih (List.append_cancel_left h)]
      | some own =>
          -- Both bounds fail, so each side starts with one message of its own.
          obtain ⟨bound, rfl⟩ : ∃ bound, s = .check (.bound bound) := by
            cases s with
            | check k => cases k with
              | bound bound => exact ⟨bound, rfl⟩
              | _ => cases hs
            | _ => cases hs
          rw [Step.measure?] at hs
          rw [Step.remeasured] at h ⊢
          rw [messagesAt_bound_of_bool hr (Bound.measure?_remeasured hs m),
            messagesAt_bound_of_bool hr hs, List.cons_append, List.cons_append, List.cons.injEq]
            at h
          have hsame : bound.remeasured m = bound := by
            refine Bound.remeasured_eq_self_iff.2 fun own' hown => ?_
            rw [Bound.eq_of_message_remeasured hs h.1]
            exact Option.some.inj (hs.symm.trans hown)
          rw [hsame, ih h.2]

/-- Other tags leave the messages on a boolean as they are only if they leave the steps. -/
theorem steps_retagged_of_messages {c : Chain} {tags : List String} {r : Record} {b : Bool}
    (hr : r.get? c.field = some (.bool b))
    (h : messagesOf ((c.retagged tags).run r).events = messagesOf (c.run r).events) :
    (c.retagged tags).steps = c.steps := by
  have hinert (steps : List Step) : Step.Inert steps (r.get? c.field) := by
    rw [hr]
    exact Step.inert_bool steps b
  have hfull : Value.isEmpty (r.get? c.field) = false := by
    rw [hr]
    rfl
  rw [run, run, messages_runSteps (c := c.retagged tags) (hinert _) (Or.inl hfull),
    messages_runSteps (hinert _) (Or.inl hfull), messagesAt_retagged] at h
  exact remeasured_eq_of_messagesAt hr h

end Chain

/-- In a schema, a chain with other tags does the same on every record if and only if it has the
same steps. -/
theorem validate_retagged_iff {before after : List Chain} {c : Chain} {tags : List String}
    {s s' : Schema} (hs : s.chains = before ++ c :: after)
    (hs' : s'.chains = before ++ c.retagged tags :: after) :
    (∀ r, s'.validate r = s.validate r) ↔ (c.retagged tags).steps = c.steps := by
  constructor
  · intro h
    -- No chain changes a boolean, so it reaches this chain and the ones behind it as submitted.
    have hfield : (runChains before [(c.field, .bool true)]).record.get? c.field =
        some (.bool true) := get?_runChains_bool (by simp [Record.get?])
    generalize hbefore : (runChains before [(c.field, .bool true)]).record = r at hfield
    have hinert (steps : List Step) : Step.Inert steps (r.get? c.field) := by
      rw [hfield]
      exact Step.inert_bool steps true
    have hrecord : ((c.retagged tags).run r).record = (c.run r).record :=
      (Chain.record_run_of_inert (c := c.retagged tags) (hinert _)).trans
        (Chain.record_run_of_inert (hinert _)).symm
    have herrors := congrArg Outcome.errors (h [(c.field, .bool true)])
    simp only [Schema.validate, Schema.run, hs, hs', runChains_append, runChains, hbefore,
      messagesOf_append, hrecord] at herrors
    exact Chain.steps_retagged_of_messages hfield
      (List.append_cancel_right (List.append_cancel_left herrors))
  · intro h r
    simp only [Schema.validate, Schema.run, hs, hs', runChains_append, runChains,
      Chain.run_of_steps_retagged h]

/-- Without its ignored tokens a field compiles without a diagnostic, to the same flags and the same
steps but for the measure of the bounds. The measure changes exactly if ignored tokens alone made it
numeric, and every schema with the field keeps its outcomes unless that touches a bound. -/
theorem compile_withoutIgnored {field : String} {spec : Spec} {c : Chain}
    (hc : (compileField false field spec).result = .ok c) :
    ∃ c', compileField false field (spec.withoutIgnored field) = ⟨[], .ok c'⟩ ∧
      c'.isRequired = c.isRequired ∧ c'.isOptional = c.isOptional ∧
      c'.isNullable = c.isNullable ∧ c'.steps = c.steps.map (Step.remeasured c'.measure) ∧
      (c'.steps = c.steps ↔
        ¬ (spec.IgnoredDecideMeasure field ∧ ∃ step ∈ c.steps, step.measure? ≠ none)) ∧
      ∀ before after s, compileSchema false (before ++ (field, spec) :: after) = .ok s →
        ∃ s', compileSchema false (before ++ (field, spec.withoutIgnored field) :: after) = .ok s' ∧
          ((∀ r, s'.validate r = s.validate r) ↔ c'.steps = c.steps) := by
  obtain ⟨h, rfl⟩ := compileField_ok_iff.1 hc
  have hrest := Spec.compiles_withoutIgnored h
  refine ⟨(spec.chain false field).retagged (tagsOf (spec.withoutIgnored field).tokens), ?_, rfl,
    rfl, rfl, rfl, Spec.steps_retagged_iff h, ?_⟩
  · rw [compileField_of_compiles hrest, Spec.diagnostics_withoutIgnored h,
      Spec.chain_withoutIgnored h]
  · intro before after s hs
    obtain ⟨hall, rfl⟩ := compileSchema_ok_iff.1 hs
    simp only [List.forall_mem_append, List.forall_mem_cons] at hall
    refine ⟨_, compileSchema_ok_iff.2 ⟨?_, rfl⟩, ?_⟩
    · simp only [List.forall_mem_append, List.forall_mem_cons]
      exact ⟨hall.1, hrest, hall.2.2⟩
    · refine validate_retagged_iff List.map_append ?_
      rw [List.map_append, List.map_cons, Spec.chain_withoutIgnored h]

/-- A field with an unknown rule and a malformed condition between its rules. -/
theorem compile_withoutIgnored_size :
    let spec := Spec.pipe "required|integer:x|min:3|required_if:kind"
    ∃ c, (compileField false "size" spec).result = .ok c ∧
      ∃ c', compileField false "size" (spec.withoutIgnored "size") = ⟨[], .ok c'⟩ ∧
        c'.isRequired = c.isRequired ∧ c'.isOptional = c.isOptional ∧
        c'.isNullable = c.isNullable ∧ c'.steps = c.steps.map (Step.remeasured c'.measure) ∧
        (c'.steps = c.steps ↔
          ¬ (spec.IgnoredDecideMeasure "size" ∧ ∃ step ∈ c.steps, step.measure? ≠ none)) ∧
        ∀ before after s, compileSchema false (before ++ ("size", spec) :: after) = .ok s →
          ∃ s', compileSchema false (before ++ ("size", spec.withoutIgnored "size") :: after) =
              .ok s' ∧
            ((∀ r, s'.validate r = s.validate r) ↔ c'.steps = c.steps) := by
  intro spec
  have hok : (compileField false "size" spec).result.toOption.isSome = true := by decide +kernel
  cases hc : (compileField false "size" spec).result with
  | error e =>
      rw [hc] at hok
      cases hok
  | ok c => exact ⟨c, rfl, compile_withoutIgnored hc⟩

/-- The ignored token makes the bound numeric, and the number passes; without the token the bound
is one on the length, which a number does not have. -/
theorem ignored_token_decides_outcome :
    let spec := Spec.pipe "integer:x|min:3"
    let errors := fun spec =>
      ((compileSchema false [("f", spec)]).map fun s =>
        (s.validate [("f", .number (.integer 5))]).errors).toOption
    spec.ignored "f" = ["integer:x"] ∧ (spec.withoutIgnored "f").tokens = ["min:3"] ∧
      errors spec = some [] ∧
      errors (spec.withoutIgnored "f") = some ["f must be at least 3 characters"] := by
  decide +kernel

end FieldRules
