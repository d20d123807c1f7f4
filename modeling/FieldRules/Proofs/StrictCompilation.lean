import FieldRules.Proofs.CompiledChain

/-!
# Strict and lenient compilation

The two modes differ in one verdict only: what a lenient compiler leaves out with a diagnostic is an
error to a strict one. A token that is placed is placed in the same way, so the chains agree, and a
strict compiler succeeds on the rules that a lenient one compiles without a diagnostic.
-/

namespace FieldRules

namespace Setting

theorem placement?_strict (field : String) (m : Measure) :
    placement? ⟨field, true, m⟩ = placement? ⟨field, false, m⟩ := by
  funext token
  refine Option.ext fun p => ?_
  simp only [placement?_eq_some_iff, verdict_eq_placed_iff]

theorem diagnostic?_strict (field : String) (m : Measure) (token : String) :
    diagnostic? ⟨field, true, m⟩ token = none := by
  refine Option.eq_none_iff_forall_ne_some.2 fun d hd => ?_
  obtain ⟨issue, -, -, hstrict, -⟩ := verdict_eq_ignored_iff.1 (diagnostic?_eq_some_iff.1 hd)
  cases hstrict

/-- To a strict compiler a token is an error where it is one to a lenient compiler or is left out
by it. -/
theorem compiles_strict_iff {field : String} {m : Measure} {token : String} :
    Compiles ⟨field, true, m⟩ token ↔
      Compiles ⟨field, false, m⟩ token ∧ diagnostic? ⟨field, false, m⟩ token = none := by
  unfold Compiles diagnostic? verdict
  cases Rule.ofToken token with
  | ok rule => cases hp : rule.placement field m <;> simp [hp]
  | error issue => cases issue <;> simp

end Setting

namespace Spec

theorem chain_strict (spec : Spec) (field : String) :
    spec.chain true field = spec.chain false field := by
  simp only [chain, placements, setting, Setting.placement?_strict]

theorem diagnostics_strict (spec : Spec) (field : String) : spec.diagnostics true field = [] :=
  List.filterMap_eq_nil_iff.2 fun t _ => Setting.diagnostic?_strict field _ t

theorem compiles_strict_iff {spec : Spec} {field : String} :
    spec.Compiles true field ↔ spec.Compiles false field ∧ spec.diagnostics false field = [] := by
  have htoken (t : String) : (spec.setting true field).Compiles t ↔
      (spec.setting false field).Compiles t ∧ (spec.setting false field).diagnostic? t = none :=
    Setting.compiles_strict_iff
  simp only [Compiles, diagnostics, List.filterMap_eq_nil_iff, htoken]
  exact ⟨fun h => ⟨fun t ht => (h t ht).1, fun t ht => (h t ht).2⟩,
    fun h t ht => ⟨h.1 t ht, h.2 t ht⟩⟩

end Spec

/-- Strict compilation gives the schema that lenient compilation gives without a diagnostic, and
fails on all other rules. -/
theorem strict_iff_lenient_without_diagnostics (specs : List (String × Spec)) :
    (∀ s, compileSchema true specs = .ok s ↔
      compileSchema false specs = .ok s ∧ s.diagnostics = []) ∧
    ∀ e, compileSchema false specs = .error e → ∃ e', compileSchema true specs = .error e' := by
  have hiff (s : Schema) : compileSchema true specs = .ok s ↔
      compileSchema false specs = .ok s ∧ s.diagnostics = [] := by
    rw [compileSchema_ok_iff, compileSchema_ok_iff]
    simp only [Spec.compiles_strict_iff, Spec.chain_strict, Spec.diagnostics_strict]
    have hnil : specs.flatMap (fun _ => ([] : List Diagnostic)) = [] :=
      List.flatMap_eq_nil_iff.2 fun _ _ => rfl
    rw [hnil]
    constructor
    · rintro ⟨hall, rfl⟩
      have hnone := List.flatMap_eq_nil_iff.2 fun p hp => (hall p hp).2
      exact ⟨⟨fun p hp => (hall p hp).1, by rw [hnone]⟩, rfl⟩
    · rintro ⟨⟨hall, rfl⟩, hnone⟩
      exact ⟨fun p hp => ⟨hall p hp, List.flatMap_eq_nil_iff.1 hnone p hp⟩, congrArg _ hnone⟩
  refine ⟨hiff, fun e he => ?_⟩
  cases hs : compileSchema true specs with
  | error e' => exact ⟨e', rfl⟩
  | ok s =>
      have hlenient := ((hiff s).1 hs).1
      rw [he] at hlenient
      cases hlenient

/-- Fields that both modes take, and one that a lenient compiler refuses behind ignored tokens. -/
theorem strict_iff_lenient_without_diagnostics_name :
    let taken := [("name", Spec.pipe "required|string"), ("nick", .pipe "optional|same:name")]
    let refused := [("name", Spec.pipe "shiny|required_if:x|same: ")]
    (∃ s, compileSchema true taken = .ok s ∧ compileSchema false taken = .ok s ∧
      s.diagnostics = []) ∧
      (∃ e, compileSchema false refused = .error e) ∧
      ∃ e', compileSchema true refused = .error e' := by
  intro taken refused
  have hstrict : compileSchema true taken = .ok _ := rfl
  have hlenient : compileSchema false refused = .error _ := rfl
  exact ⟨⟨_, hstrict, ((strict_iff_lenient_without_diagnostics taken).1 _).1 hstrict⟩,
    ⟨_, hlenient⟩, (strict_iff_lenient_without_diagnostics refused).2 _ hlenient⟩

end FieldRules
