import FieldRules.Proofs.FieldValue

/-!
# The messages of a chain, step by step

Where no transform changes the value of the field, every step of its chain sees the same record. The
messages are then those of the steps on that record, one step at a time, except that an empty
required field has one message however many checks there are.
-/

namespace FieldRules

namespace Step

def Inert (steps : List Step) (v : Option Value) : Prop :=
  ∀ t, .transform t ∈ steps → t.apply v = .ok v

theorem inert_cons {s : Step} {rest : List Step} {v : Option Value} :
    Inert (s :: rest) v ↔ (∀ t, s = .transform t → t.apply v = .ok v) ∧ Inert rest v := by
  simp only [Inert, List.mem_cons, or_imp, forall_and, eq_comm]

theorem inert_of_transform_notMem {steps : List Step} (h : ∀ t, .transform t ∉ steps)
    (v : Option Value) : Inert steps v := fun t ht => absurd ht (h t)

theorem valueAfter_of_inert {steps : List Step} {v : Option Value} (h : Inert steps v) :
    valueAfter steps v = v := by
  induction steps with
  | nil => rfl
  | cons s rest ih =>
      obtain ⟨hs, hrest⟩ := inert_cons.1 h
      cases s with
      | required => rw [valueAfter, ih hrest, ite_self]
      | transform t => rw [valueAfter, Transform.result, hs t rfl, ih hrest]
      | check k => exact ih hrest

end Step

namespace Chain

def messagesAt (c : Chain) (r : Record) : Step → List String
  | .required => if Value.isEmpty (r.get? c.field) then [s!"{c.field} is required"] else []
  | .transform _ => []
  | .check k =>
    if c.skips (r.get? c.field) then [] else messagesOf (k.run c.field (r.get? c.field) r)

theorem runSteps_transform_of_inert (c : Chain) {t : Transform} (rest : List Step) {r : Record}
    (h : t.apply (r.get? c.field) = .ok (r.get? c.field)) :
    c.runSteps (.transform t :: rest) r = c.runSteps rest r := by
  rw [runSteps, turn, h]
  cases hv : r.get? c.field with
  | none => rfl
  | some v =>
      dsimp only
      rw [Record.insert_of_get? hv]
      rfl

theorem record_run_of_inert {c : Chain} {r : Record} (h : Step.Inert c.steps (r.get? c.field)) :
    (c.run r).record = r := by
  rw [run, record_runSteps, Step.valueAfter_of_inert h, r.put_get?]

/-- Unless an empty required value ends the field, every step is run on the same record. -/
theorem messages_runSteps {c : Chain} {steps : List Step} {r : Record}
    (ht : Step.Inert steps (r.get? c.field))
    (hv : Value.isEmpty (r.get? c.field) = false ∨ .required ∉ steps) :
    messagesOf (c.runSteps steps r).events = steps.flatMap (c.messagesAt r) := by
  induction steps with
  | nil => rfl
  | cons s rest ih =>
      obtain ⟨hs, htr⟩ := Step.inert_cons.1 ht
      have hrest := ih htr (hv.imp_right fun hr h => hr (List.mem_cons_of_mem s h))
      rw [List.flatMap_cons, ← hrest]
      cases s with
      | required =>
          have he := hv.resolve_right fun h => h List.mem_cons_self
          rw [c.runSteps_required_of_not_isEmpty rest he, messagesAt, he]
          rfl
      | transform t =>
          rw [c.runSteps_transform_of_inert rest (hs t rfl)]
          rfl
      | check k =>
          rw [runSteps_check, messagesOf_append, messagesAt]
          split <;> rfl

/-- The checks of an empty required field are left out, and its first required step ends it. -/
theorem runSteps_of_isEmpty {c : Chain} {steps : List Step} {r : Record}
    (ht : Step.Inert steps (r.get? c.field)) (hc : c.isRequired = true) (hr : .required ∈ steps)
    (hv : Value.isEmpty (r.get? c.field) = true) :
    c.runSteps steps r = ⟨r, [.failed c.field (r.get? c.field) s!"{c.field} is required"]⟩ := by
  induction steps with
  | nil => cases hr
  | cons s rest ih =>
      obtain ⟨hs, htr⟩ := Step.inert_cons.1 ht
      have hrest : s ≠ .required → .required ∈ rest := fun hs =>
        (List.mem_cons.1 hr).resolve_left (Ne.symm hs)
      cases s with
      | required => exact c.runSteps_required_of_isEmpty rest hv
      | transform t =>
          rw [c.runSteps_transform_of_inert rest (hs t rfl)]
          exact ih htr (hrest nofun)
      | check k =>
          have hskip : c.skips (r.get? c.field) = true := by rw [skips, if_pos hc, hv]
          rw [runSteps_check, hskip, ih htr (hrest nofun)]
          rfl

theorem messages_runSteps_of_isEmpty {c : Chain} {steps : List Step} {r : Record}
    (ht : Step.Inert steps (r.get? c.field)) (hc : c.isRequired = true) (hr : .required ∈ steps)
    (hv : Value.isEmpty (r.get? c.field) = true) :
    messagesOf (c.runSteps steps r).events = [s!"{c.field} is required"] := by
  rw [runSteps_of_isEmpty ht hc hr hv]
  rfl

/-- Where checks are left out and nothing is required, nothing happens. -/
theorem runSteps_of_skips {c : Chain} {steps : List Step} {r : Record}
    (ht : Step.Inert steps (r.get? c.field)) (hr : .required ∉ steps)
    (hskip : c.skips (r.get? c.field) = true) : c.runSteps steps r = ⟨r, []⟩ := by
  induction steps with
  | nil => rfl
  | cons s rest ih =>
      obtain ⟨hs, htr⟩ := Step.inert_cons.1 ht
      have hrest := ih htr fun h => hr (List.mem_cons_of_mem s h)
      cases s with
      | required => exact absurd List.mem_cons_self hr
      | transform t => rw [c.runSteps_transform_of_inert rest (hs t rfl), hrest]
      | check k =>
          rw [runSteps_check, hskip, hrest]
          rfl

end Chain
end FieldRules
