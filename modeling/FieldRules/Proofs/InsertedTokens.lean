import FieldRules.Proofs.ChainSteps
import FieldRules.Proofs.IgnoredTokens

/-!
# A token put into a field

A token that is put among the tokens of a field adds what it spells at its place, and a tag. The
other steps of the chain are the same as before unless that tag makes the bounds numeric, which only
the tags of two types do.
-/

namespace FieldRules

namespace Setting

def steps (s : Setting) (tokens : List String) : List Step :=
  (tokens.filterMap s.placement?).filterMap Placement.step?

theorem steps_append (s : Setting) (a b : List String) :
    s.steps (a ++ b) = s.steps a ++ s.steps b := by
  rw [steps, List.filterMap_append, List.filterMap_append, steps, steps]

end Setting

namespace Spec

/-- Of two specifications with the same custom rules, the second has one more token, which stands
between the tokens `front` and `back` of the first. -/
structure Inserts (spec spec' : Spec) (front : List String) (token : String)
    (back : List String) : Prop where
  tokens : spec.tokens = front ++ back
  tokens' : spec'.tokens = front ++ token :: back
  customs : spec'.customs = spec.customs

namespace Inserts

variable {spec spec' : Spec} {front back : List String} {token : String}

theorem steps_chain (h : spec.Inserts spec' front token back) (strict : Bool)
    (field : String) :
    (spec.chain strict field).steps =
      (spec.setting strict field).steps front ++ ((spec.setting strict field).steps back
        ++ spec.customs.map fun rule => .check (.custom rule)) := by
  rw [← List.append_assoc, ← Setting.steps_append, ← h.tokens]
  rfl

section Measure

variable (h : spec.Inserts spec' front token back)
  (hnot : (Token.ofString token).isNumeric = false) {strict : Bool} {field : String}
include h hnot

theorem setting_eq : spec'.setting strict field = spec.setting strict field := by
  have hmeasure : Chain.measureOf (tagsOf spec'.tokens) = Chain.measureOf (tagsOf spec.tokens) := by
    rw [Measure.eq_iff, measureOf_tagsOf_eq_numeric_iff, measureOf_tagsOf_eq_numeric_iff,
      h.tokens, h.tokens']
    simp only [List.mem_append, List.mem_cons, or_and_right, exists_or, exists_eq_left, hnot,
      Bool.false_eq_true, false_or]
  rw [setting, setting, hmeasure]

theorem compiles_iff_and : spec'.Compiles strict field ↔
    spec.Compiles strict field ∧ (spec.setting strict field).Compiles token := by
  simp only [Compiles, h.setting_eq hnot, h.tokens, h.tokens', List.forall_mem_append,
    List.forall_mem_cons, and_assoc]
  exact and_congr_right fun _ => and_comm

/-- The new chain is the old one with a step in the place of the token. -/
theorem chain_eq_of_placed {step : Step}
    (hplaced : (spec.setting strict field).verdict token = .placed (.step step)) :
    spec'.chain strict field =
      { spec.chain strict field with
        tags := tagsOf spec'.tokens
        isRequired := (spec.chain strict field).isRequired || Chain.isRequiredStep step
        steps := (spec.setting strict field).steps front ++
          step :: ((spec.setting strict field).steps back
            ++ spec.customs.map fun rule => .check (.custom rule)) } := by
  have hplacement : (spec.setting strict field).placement? token = some (.step step) :=
    Setting.placement?_eq_some_iff.2 hplaced
  simp [chain, placements, h.setting_eq hnot, h.tokens, h.tokens', h.customs, Setting.steps,
    hplacement, Placement.step?, Placement.isOptional, Placement.isNullable, Bool.or_comm,
    Bool.or_left_comm]

end Measure

end Inserts
end Spec

end FieldRules
