import FieldRules.Schema.Compile

/-!
# Compiled chains in closed form

`compileField` places the tokens one by one and stops at the first error. When no token is an error
the result can be written down at once: the steps are those of the tokens in order, followed by the
custom rules, and a flag is set when one of the tokens sets it. `Spec.chain` is that chain; the
statements below tie it to `compileField` and `compileSchema` in both directions.
-/

namespace FieldRules

section Except

variable {ε ε' α β : Type}

theorem bind_eq_ok_iff {x : Except ε α} {f : α → Except ε β} {b : β} :
    x.bind f = .ok b ↔ ∃ a, x = .ok a ∧ f a = .ok b := by
  cases x <;> simp [Except.bind]

theorem map_eq_ok_iff {x : Except ε α} {f : α → β} {b : β} :
    x.map f = .ok b ↔ ∃ a, x = .ok a ∧ f a = b := by
  cases x <;> simp [Except.map]

theorem mapError_eq_ok_iff {x : Except ε α} {f : ε → ε'} {a : α} :
    x.mapError f = .ok a ↔ x = .ok a := by
  cases x with
  | ok b =>
      constructor <;>
      · intro h
        cases h
        rfl
  | error e => exact ⟨nofun, nofun⟩

theorem bind_eq_error_iff {x : Except ε α} {f : α → Except ε β} {e : ε} :
    x.bind f = .error e ↔ x = .error e ∨ ∃ a, x = .ok a ∧ f a = .error e := by
  cases x <;> simp [Except.bind]

theorem mapError_eq_error_iff {x : Except ε α} {f : ε → ε'} {e : ε'} :
    x.mapError f = .error e ↔ ∃ e', x = .error e' ∧ f e' = e := by
  cases x with
  | ok b => exact ⟨nofun, nofun⟩
  | error e' =>
      constructor
      · exact fun h => ⟨e', rfl, Except.error.inj h⟩
      · rintro ⟨_, he, rfl⟩
        cases he
        rfl

theorem toOption_eq_some_iff {x : Except ε α} {a : α} : x.toOption = some a ↔ x = .ok a := by
  cases x <;> simp [Except.toOption]

end Except

namespace Placement

def step? : Placement → Option Step
  | .step s => some s
  | .optional => none
  | .nullable => none

theorem step?_eq_some_iff {p : Placement} {s : Step} : p.step? = some s ↔ p = .step s := by
  cases p <;> simp [step?]

def isOptional : Placement → Bool
  | .optional => true
  | _ => false

def isNullable : Placement → Bool
  | .nullable => true
  | _ => false

end Placement

theorem Rule.exists_of_placement_format {field pattern : String} {m : Measure} {p : Placement}
    (h : (format pattern).placement field m = .ok p) :
    ∃ compiled, p = .step (.check (.bound (.format compiled))) := by
  obtain ⟨compiled, -, hp⟩ := map_eq_ok_iff.1 h
  exact ⟨compiled, hp.symm⟩

namespace Chain

/-- Placing one after another: the steps are appended, and flags are only ever set. -/
theorem foldl_place (ps : List Placement) (c : Chain) :
    ps.foldl place c =
      { c with
        isRequired := c.isRequired || (ps.filterMap Placement.step?).any isRequiredStep
        isOptional := c.isOptional || ps.any Placement.isOptional
        isNullable := c.isNullable || ps.any Placement.isNullable
        steps := c.steps ++ ps.filterMap Placement.step? } := by
  induction ps generalizing c with
  | nil => simp
  | cons p rest ih =>
      rw [List.foldl_cons, ih]
      cases p <;>
        simp [place, List.filterMap_cons, Placement.step?, Placement.isOptional,
          Placement.isNullable, Bool.or_assoc]

end Chain

namespace Setting

def Compiles (s : Setting) (token : String) : Prop := ∀ e, s.verdict token ≠ .failed e

def placement? (s : Setting) (token : String) : Option Placement :=
  match s.verdict token with
  | .placed p => some p
  | _ => none

def diagnostic? (s : Setting) (token : String) : Option Diagnostic :=
  match s.verdict token with
  | .ignored d => some d
  | _ => none

theorem verdict_eq_placed_iff {s : Setting} {token : String} {p : Placement} :
    s.verdict token = .placed p ↔
      ∃ rule, Rule.ofToken token = .ok rule ∧ rule.placement s.field s.measure = .ok p := by
  unfold verdict
  cases hr : Rule.ofToken token with
  | ok rule => cases hp : rule.placement s.field s.measure <;> simp [hp]
  | error issue => cases issue <;> cases s.strict <;> simp

theorem verdict_eq_ignored_iff {s : Setting} {token : String} {d : Diagnostic} :
    s.verdict token = .ignored d ↔
      ∃ issue, Rule.ofToken token = .error issue ∧ (∀ fault, issue ≠ .invalidParameter fault) ∧
        s.strict = false ∧ d = ⟨s.field, token, issue⟩ := by
  unfold verdict
  cases hr : Rule.ofToken token with
  | ok rule => cases hp : rule.placement s.field s.measure <;> simp [hp]
  | error issue => cases issue <;> cases s.strict <;> simp [eq_comm]

theorem placement?_eq_some_iff {s : Setting} {token : String} {p : Placement} :
    s.placement? token = some p ↔ s.verdict token = .placed p := by
  unfold placement?
  cases s.verdict token <;> simp

theorem diagnostic?_eq_some_iff {s : Setting} {token : String} {d : Diagnostic} :
    s.diagnostic? token = some d ↔ s.verdict token = .ignored d := by
  unfold diagnostic?
  cases s.verdict token <;> simp

end Setting

theorem compileTokens_of_compiles {s : Setting} {tokens : List String}
    (h : ∀ t ∈ tokens, s.Compiles t) (c : Chain) :
    compileTokens s tokens c =
      ⟨tokens.filterMap s.diagnostic?,
        .ok ((tokens.filterMap s.placement?).foldl Chain.place c)⟩ := by
  induction tokens generalizing c with
  | nil => rfl
  | cons t rest ih =>
      have hrest := ih (fun u hu => h u (List.mem_cons_of_mem t hu))
      have ht := h t List.mem_cons_self
      cases hv : s.verdict t with
      | placed p => simp [compileTokens, Setting.placement?, Setting.diagnostic?, hv, hrest]
      | ignored d => simp [compileTokens, Setting.placement?, Setting.diagnostic?, hv, hrest]
      | failed e => exact absurd hv (ht e)

theorem compiles_of_compileTokens {s : Setting} {tokens : List String} {c c' : Chain}
    (h : (compileTokens s tokens c).result = .ok c') : ∀ t ∈ tokens, s.Compiles t := by
  induction tokens generalizing c with
  | nil => simp
  | cons t rest ih =>
      rw [compileTokens] at h
      cases hv : s.verdict t with
      | failed e => simp [hv] at h
      | placed p =>
          rw [hv] at h
          exact List.forall_mem_cons.2 ⟨by simp [Setting.Compiles, hv], ih h⟩
      | ignored d =>
          rw [hv] at h
          exact List.forall_mem_cons.2 ⟨by simp [Setting.Compiles, hv], ih h⟩

theorem mem_insertTag {t tag : String} {tags : List String} :
    t ∈ insertTag tag tags ↔ t = tag ∨ t ∈ tags := by
  induction tags with
  | nil => simp [insertTag]
  | cons u rest ih =>
      rw [insertTag]
      split
      · rename_i h
        simp [h]
      · split
        · simp
        · rw [List.mem_cons, ih, List.mem_cons, or_left_comm]

theorem mem_tagsOf {t : String} {tokens : List String} :
    t ∈ tagsOf tokens ↔ ∃ token ∈ tokens, (Token.ofString token).tag = t := by
  induction tokens with
  | nil => simp [tagsOf]
  | cons token rest ih =>
      rw [tagsOf, List.foldr_cons, mem_insertTag]
      change t = _ ∨ t ∈ tagsOf rest ↔ _
      simp only [ih, List.mem_cons, exists_eq_or_imp]
      rw [eq_comm]

namespace Spec

def setting (spec : Spec) (strict : Bool) (field : String) : Setting :=
  ⟨field, strict, Chain.measureOf (tagsOf spec.tokens)⟩

def placements (spec : Spec) (strict : Bool) (field : String) : List Placement :=
  spec.tokens.filterMap (spec.setting strict field).placement?

def diagnostics (spec : Spec) (strict : Bool) (field : String) : List Diagnostic :=
  spec.tokens.filterMap (spec.setting strict field).diagnostic?

def Compiles (spec : Spec) (strict : Bool) (field : String) : Prop :=
  ∀ t ∈ spec.tokens, (spec.setting strict field).Compiles t

def chain (spec : Spec) (strict : Bool) (field : String) : Chain :=
  let placements := spec.placements strict field
  let steps := placements.filterMap Placement.step?
  { field
    tags := tagsOf spec.tokens
    isRequired := steps.any Chain.isRequiredStep
    isOptional := placements.any Placement.isOptional
    isNullable := placements.any Placement.isNullable
    steps := steps ++ spec.customs.map fun rule => .check (.custom rule) }

@[simp] theorem chain_field (spec : Spec) (strict : Bool) (field : String) :
    (spec.chain strict field).field = field := rfl

theorem mem_steps_chain {spec : Spec} {strict : Bool} {field : String} {step : Step} :
    step ∈ (spec.chain strict field).steps ↔
      (∃ t ∈ spec.tokens, (spec.setting strict field).verdict t = .placed (.step step)) ∨
        ∃ rule ∈ spec.customs, .check (.custom rule) = step := by
  simp only [chain, placements, List.mem_append, List.mem_filterMap, List.mem_map,
    Placement.step?_eq_some_iff, exists_eq_right, Setting.placement?_eq_some_iff]

theorem isRequired_chain {spec : Spec} {strict : Bool} {field : String} :
    (spec.chain strict field).isRequired = true ↔ .required ∈ (spec.chain strict field).steps := by
  simp only [chain, List.any_eq_true, List.mem_append, List.mem_map]
  constructor
  · rintro ⟨step, hs, hr⟩
    cases step with
    | required => exact Or.inl hs
    | transform t => cases hr
    | check k => cases hr
  · rintro (hs | ⟨rule, -, hr⟩)
    · exact ⟨.required, hs, rfl⟩
    · cases hr

end Spec

theorem compileField_of_compiles {strict : Bool} {field : String} {spec : Spec}
    (h : spec.Compiles strict field) :
    compileField strict field spec =
      ⟨spec.diagnostics strict field, .ok (spec.chain strict field)⟩ := by
  have ht := compileTokens_of_compiles h (.start field (tagsOf spec.tokens))
  rw [Chain.foldl_place] at ht
  simp only [Spec.setting] at ht
  simp only [compileField, ht]
  simp [Except.map, Spec.chain, Spec.placements, Spec.diagnostics, Spec.setting, Chain.addCustoms,
    Chain.start]

theorem compileField_ok_iff {strict : Bool} {field : String} {spec : Spec} {c : Chain} :
    (compileField strict field spec).result = .ok c ↔
      spec.Compiles strict field ∧ c = spec.chain strict field := by
  constructor
  · intro h
    have hc : spec.Compiles strict field := by
      obtain ⟨c', hc', -⟩ := map_eq_ok_iff.1 h
      exact compiles_of_compileTokens hc'
    rw [compileField_of_compiles hc] at h
    exact ⟨hc, (Except.ok.inj h).symm⟩
  · rintro ⟨hc, rfl⟩
    rw [compileField_of_compiles hc]

theorem error?_eq_none_iff {r : FieldReport} : r.error? = none ↔ ∃ c, r.result = .ok c := by
  cases h : r.result <;> simp [FieldReport.error?, h]

theorem Schema.ofReports_ok_iff {reports : List FieldReport} {s : Schema} :
    Schema.ofReports reports = .ok s ↔
      (∀ r ∈ reports, r.error? = none) ∧
        s = ⟨reports.filterMap FieldReport.chain?, reports.flatMap FieldReport.diagnostics⟩ := by
  rw [← List.filterMap_eq_nil_iff, ofReports]
  split
  · rename_i h
    rw [h]
    exact ⟨fun he => ⟨rfl, (Except.ok.inj he).symm⟩, fun he => he.2 ▸ rfl⟩
  · rename_i h
    simp [h]
  · rename_i hnil _
    exact ⟨nofun, fun h => absurd h.1 hnil⟩

/-- A schema comes out when all fields compile, and it is put together from them in order. -/
theorem compileSchema_ok_iff {strict : Bool} {specs : List (String × Spec)} {s : Schema} :
    compileSchema strict specs = .ok s ↔
      (∀ p ∈ specs, p.2.Compiles strict p.1) ∧
        s = ⟨specs.map fun p => p.2.chain strict p.1,
          specs.flatMap fun p => p.2.diagnostics strict p.1⟩ := by
  have hcompiles (p : String × Spec) :
      (compileField strict p.1 p.2).error? = none ↔ p.2.Compiles strict p.1 := by
    simp only [error?_eq_none_iff, compileField_ok_iff, exists_and_left, exists_eq, and_true]
  rw [compileSchema, Schema.ofReports_ok_iff, compileFields, List.forall_mem_map]
  simp only [hcompiles]
  refine and_congr_right fun hall => ?_
  have hreports : specs.map (fun p => compileField strict p.1 p.2) =
      specs.map fun p => ⟨p.2.diagnostics strict p.1, .ok (p.2.chain strict p.1)⟩ :=
    List.map_congr_left fun p hp => compileField_of_compiles (hall p hp)
  rw [hreports, List.filterMap_map, List.flatMap_map]
  simp only [Function.comp_def, FieldReport.chain?, Except.toOption, List.filterMap_eq_map']

/-- Fields in another order compile to the same chains and diagnostics in another order. -/
theorem exists_compileSchema_of_perm {strict : Bool} {specs specs' : List (String × Spec)}
    (h : specs.Perm specs') {s : Schema} (hs : compileSchema strict specs = .ok s) :
    ∃ s', compileSchema strict specs' = .ok s' ∧ s.chains.Perm s'.chains ∧
      s.diagnostics.Perm s'.diagnostics := by
  obtain ⟨hall, rfl⟩ := compileSchema_ok_iff.1 hs
  exact ⟨_, compileSchema_ok_iff.2 ⟨fun p hp => hall p (h.mem_iff.2 hp), rfl⟩, h.map _,
    h.flatMap_right _⟩

theorem fields_of_compileSchema {strict : Bool} {specs : List (String × Spec)} {s : Schema}
    (h : compileSchema strict specs = .ok s) : s.chains.map Chain.field = specs.map Prod.fst := by
  rw [(compileSchema_ok_iff.1 h).2, List.map_map]
  rfl

end FieldRules
