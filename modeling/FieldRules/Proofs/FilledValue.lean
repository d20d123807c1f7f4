import FieldRules.Proofs.FieldValue

/-!
# What defaults make of a value

Without sanitizing steps a chain can change an empty value only, and what it makes of one depends on
a few literals alone: those of the default steps before the first required step, which an empty
value does not pass. The first literal that is not empty takes the value's place; if all of them are
empty the value becomes the empty text; and without such a literal it stays. So the value behind a
chain is one that the chain leaves alone, and it is still one when another chain has been over it.
-/

namespace FieldRules

@[simp] theorem Value.isEmpty_string (text : String) :
    isEmpty (some (.string text)) = (text == "") := rfl

namespace Step

def isDefault : Step → Bool
  | .transform (.default _) => true
  | _ => false

def isSanitizer : Step → Bool
  | .transform (.sanitize _) => true
  | _ => false

/-- The literals of the default steps that an empty value comes to. -/
def literals : List Step → List String
  | [] => []
  | .required :: _ => []
  | .transform (.default literal) :: rest => literal :: literals rest
  | .transform (.sanitize _) :: rest => literals rest
  | .check _ :: rest => literals rest

def filling? (steps : List Step) : Option String :=
  ((literals steps).find? fun literal => literal ≠ "").or (literals steps).head?

theorem filling?_default_cons (literal : String) (rest : List Step) :
    filling? (.transform (.default literal) :: rest) =
      some (if literal = "" then (filling? rest).getD "" else literal) := by
  by_cases hl : literal = ""
  · subst hl
    rw [if_pos rfl, filling?, filling?, literals, List.find?_cons_of_neg (by simp)]
    cases hfind : (literals rest).find? fun literal => literal ≠ "" with
    | some text => simp
    | none =>
        -- no literal is left but the empty one
        cases hrest : literals rest with
        | nil => simp
        | cons text texts =>
            rw [hrest, List.find?_eq_none] at hfind
            have htext : text = "" := by simpa using hfind text List.mem_cons_self
            simp [htext]
  · rw [if_neg hl, filling?, literals, List.find?_cons_of_pos (by simpa using hl)]
    rfl

/-- The value behind steps that do not sanitize, in closed form. -/
theorem valueAfter_of_unsanitized {steps : List Step} (h : ∀ s ∈ steps, s.isSanitizer = false)
    (v : Option Value) :
    valueAfter steps v =
      if Value.isEmpty v then ((filling? steps).map Value.string).or v else v := by
  induction steps generalizing v with
  | nil => cases Value.isEmpty v <;> rfl
  | cons s rest ih =>
      have hrest := ih (fun t ht => h t (List.mem_cons_of_mem s ht))
      cases s with
      | required =>
          rw [valueAfter, hrest]
          cases Value.isEmpty v <;> rfl
      | check k => exact hrest v
      | transform t =>
          cases t with
          | sanitize san => cases h _ List.mem_cons_self
          | default literal =>
              rw [valueAfter, Transform.result_default, filling?_default_cons]
              cases hv : Value.isEmpty v with
              | false => simp [hrest, hv]
              | true =>
                  by_cases hl : literal = ""
                  · subst hl
                    cases hf : filling? rest <;> simp [hrest, hf]
                  · simp [hrest, hl]

theorem valueAfter_eq_self_iff {steps : List Step} (h : ∀ s ∈ steps, s.isSanitizer = false)
    {v : Option Value} :
    valueAfter steps v = v ↔
      (Value.isEmpty v = true → ∀ text, filling? steps = some text → v = some (.string text)) := by
  rw [valueAfter_of_unsanitized h]
  cases hv : Value.isEmpty v with
  | false => simp
  | true =>
      cases hf : filling? steps with
      | none => simp
      | some text => simp [eq_comm]

theorem valueAfter_valueAfter {steps : List Step} (h : ∀ s ∈ steps, s.isSanitizer = false)
    (v : Option Value) : valueAfter steps (valueAfter steps v) = valueAfter steps v := by
  refine (valueAfter_eq_self_iff h).2 fun hempty text htext => ?_
  rw [valueAfter_of_unsanitized h] at hempty ⊢
  cases hv : Value.isEmpty v with
  | false => simp [hv] at hempty
  | true => simp [htext]

/-- What some steps leave alone, they leave alone when other steps have changed it. -/
theorem valueAfter_eq_self_of_eq_self {a b : List Step} (ha : ∀ s ∈ a, s.isSanitizer = false)
    (hb : ∀ s ∈ b, s.isSanitizer = false) {v : Option Value} (h : valueAfter a v = v) :
    valueAfter a (valueAfter b v) = valueAfter b v := by
  refine (valueAfter_eq_self_iff ha).2 fun hempty text hfilling => ?_
  rw [valueAfter_of_unsanitized hb] at hempty ⊢
  cases hv : Value.isEmpty v with
  | false => simp [hv] at hempty
  | true =>
      have hvalue := (valueAfter_eq_self_iff ha).1 h hv text hfilling
      cases hf : filling? b with
      | none => simpa using hvalue
      | some other =>
          -- both texts are empty, since neither value counts as provided
          have hother : other = "" := by simpa [hv, hf] using hempty
          have htext : text = "" := by simpa [hvalue] using hv
          simp [hother, htext]

end Step

namespace Chain

def Unsanitized (c : Chain) : Prop := ∀ s ∈ c.steps, s.isSanitizer = false

instance (c : Chain) : Decidable c.Unsanitized :=
  inferInstanceAs (Decidable (∀ s ∈ c.steps, s.isSanitizer = false))

end Chain
end FieldRules
