import FieldRules.Proofs.AskedRules
import FieldRules.Proofs.ReadRules

/-!
# Well-formed chains

A run takes some things about a chain for granted: that the flag for a required field and the
required steps agree, that all bounds measure alike and have finite limits, and that custom rules
come last. None of it is checked when a record is validated. It holds because every compiled chain
is well formed: each step has what the reader of tokens made sure of, and the rest follows from how
steps are placed.
-/

namespace FieldRules

namespace Bound

def WellFormed : Bound → Prop
  | min _ limit => limit.Representable
  | max _ limit => limit.Representable
  | between _ least most => least.Representable ∧ most.Representable
  | length least most => least.Representable ∧ most.Representable
  | oneOf allowed => Rule.WellFormedEntries allowed
  | format pattern => pattern.source.utf8ByteSize ≤ 500

end Bound

namespace Relation

def WellFormed : Relation → Prop
  | same other => other ≠ "" ∧ Text.IsTrimmed other
  | requiredIf c => c.WellFormed
  | requiredUnless c => c.WellFormed
  | prohibitedIf c => c.WellFormed

end Relation

namespace Step

def WellFormed : Step → Prop
  | .check (.bound b) => b.WellFormed
  | .check (.relation r) => r.WellFormed
  | _ => True

end Step

structure Chain.WellFormed (c : Chain) : Prop where
  isRequired_iff : c.isRequired = true ↔ .required ∈ c.steps
  measure_eq : ∀ step ∈ c.steps, ∀ m, step.measure? = some m → m = c.measure
  numeric_iff : c.measure = .numeric ↔ "integer" ∈ c.tags ∨ "numeric" ∈ c.tags
  customs_last : ∃ steps customs, c.steps = steps ++ customSteps customs ∧
    ∀ rule, .check (.custom rule) ∉ steps
  step : ∀ step ∈ c.steps, step.WellFormed

theorem utf8ByteSize_of_compilePattern {field pattern : String} {p : Pattern}
    (h : compilePattern field pattern = .ok p) : p.source.utf8ByteSize ≤ 500 := by
  rw [compilePattern] at h
  split at h
  · cases h
  · rename_i hsize
    split at h
    · rename_i p' hp'
      cases h
      rw [Pattern.source_of_ofString hp']
      exact Nat.le_of_not_lt hsize
    · cases h

theorem Step.wellFormed_of_placement {field : String} {m : Measure} {rule : Rule} {step : Step}
    (hrule : rule.WellFormed) (h : rule.placement field m = .ok (.step step)) :
    step.WellFormed := by
  cases rule with
  | format pattern =>
      obtain ⟨p, hp, hstep⟩ := map_eq_ok_iff.1 h
      cases hstep
      exact utf8ByteSize_of_compilePattern hp
  | optional | nullable => cases h
  | _ =>
      cases h
      exact hrule

namespace Spec

variable {spec : Spec} {strict : Bool} {field : String}

theorem wellFormed_of_mem_chain {step : Step} (h : step ∈ (spec.chain strict field).steps) :
    step.WellFormed := by
  rcases mem_steps_chain.1 h with ⟨t, -, hplaced⟩ | ⟨rule, -, rfl⟩
  · obtain ⟨rule, hrule, hplacement⟩ := Setting.verdict_eq_placed_iff.1 hplaced
    exact Step.wellFormed_of_placement (Rule.wellFormed_of_ofToken hrule) hplacement
  · trivial

theorem wellFormed_chain : (spec.chain strict field).WellFormed where
  isRequired_iff := isRequired_chain
  measure_eq := fun _ hstep _ hm => (measure_of_mem_chain hstep hm).symm
  numeric_iff := Chain.measureOf_eq_numeric_iff
  customs_last := ⟨_, _, steps_chain_eq, custom_notMem_steps⟩
  step := fun _ hstep => wellFormed_of_mem_chain hstep

end Spec

/-- All chains of a schema that is compiled, in either mode, are well formed. -/
theorem wellFormed_of_compileSchema {strict : Bool} {specs : List (String × Spec)} {s : Schema}
    (hs : compileSchema strict specs = .ok s) : ∀ c ∈ s.chains, c.WellFormed := by
  rw [(compileSchema_ok_iff.1 hs).2]
  intro c hc
  obtain ⟨p, -, rfl⟩ := List.mem_map.1 hc
  exact Spec.wellFormed_chain

/-- A field whose bounds an ignored token makes numeric, and one with conditions and a list of
alternatives. -/
theorem wellFormed_of_compileSchema_size_kind :
    let even : CustomRule := ⟨"even", fun _ => .ok true⟩
    let specs := [("size", Spec.list [.custom even, .token "integer:x", .token "between:-1.5, 1e3",
        .token "required", .token "max:20"]),
      ("kind", .pipe "in: a , b|required_if: size , x,y |regex:/^a,b$/|same: name |length:1,9")]
    ∃ s, compileSchema false specs = .ok s ∧ s.chains.length = 2 ∧ ∀ c ∈ s.chains, c.WellFormed := by
  intro even specs
  have hok : (compileSchema false specs).toOption.any (fun s => s.chains.length == 2) = true := by
    decide +kernel
  cases hs : compileSchema false specs with
  | error e =>
      rw [hs] at hok
      cases hok
  | ok s =>
      rw [hs] at hok
      exact ⟨s, rfl, by simpa [Except.toOption] using hok, wellFormed_of_compileSchema hs⟩

end FieldRules
