import FieldRules.Schema.Run

/-!
# The value of a field along its chain

A chain writes to its own field only, and what it writes there depends on the value the field had
before and on the steps alone: not on the other fields, not on the checks. This module states both
for `Chain.run` itself and carries them through `runChains`.
-/

namespace FieldRules

namespace Record

theorem get?_insert_self (r : Record) (key : String) (value : Value) :
    (r.insert key value).get? key = some value := by
  rw [get?_insert, if_pos rfl]

theorem get?_insert_of_ne (r : Record) {key other : String} (value : Value) (h : key ≠ other) :
    (r.insert key value).get? other = r.get? other := by
  rw [get?_insert, if_neg h]

theorem insert_insert (r : Record) (key : String) (v w : Value) :
    (r.insert key v).insert key w = r.insert key w := by
  induction r with
  | nil => simp [insert]
  | cons m r ih =>
      obtain ⟨k, u⟩ := m
      by_cases hk : k = key
      · simp [insert, hk]
      · simp [insert, hk, ih]

theorem insert_of_get? {r : Record} {key : String} {value : Value} (h : r.get? key = some value) :
    r.insert key value = r := by
  induction r with
  | nil => simp [get?] at h
  | cons m r ih =>
      obtain ⟨k, u⟩ := m
      by_cases hk : k = key
      · rw [get?, if_pos hk] at h
        rw [insert, if_pos hk, Option.some.inj h]
      · rw [get?, if_neg hk] at h
        rw [insert, if_neg hk, ih h]

/-- The record with a value under a key; a missing value changes nothing. -/
def put (r : Record) (key : String) : Option Value → Record
  | some v => r.insert key v
  | none => r

theorem put_get? (r : Record) (key : String) : r.put key (r.get? key) = r := by
  cases h : r.get? key with
  | none => rfl
  | some v => exact insert_of_get? h

theorem get?_put_self {r : Record} {key : String} {value : Option Value}
    (h : value = none → r.get? key = none) : (r.put key value).get? key = value := by
  cases value with
  | none => exact h rfl
  | some v => exact get?_insert_self r key v

theorem get?_put_of_ne (r : Record) {key other : String} (value : Option Value)
    (h : key ≠ other) : (r.put key value).get? other = r.get? other := by
  cases value with
  | none => rfl
  | some v => exact get?_insert_of_ne r v h

theorem put_put {r : Record} {key : String} {v w : Option Value}
    (h : w = none → v = none) : (r.put key v).put key w = r.put key w := by
  cases w with
  | none => rw [h rfl]; rfl
  | some w =>
      cases v with
      | none => rfl
      | some v => exact insert_insert r key v w

end Record

theorem messagesOf_append (a b : List Event) :
    messagesOf (a ++ b) = messagesOf a ++ messagesOf b := List.filterMap_append

namespace Transform

/-- The field's value behind a transform. A value that the sanitizer refuses stays. -/
def result (t : Transform) (value : Option Value) : Option Value :=
  match t.apply value with
  | .ok v => v
  | .error _ => value

theorem result_default (literal : String) (value : Option Value) :
    (default literal).result value =
      if Value.isEmpty value then some (.string literal) else value := rfl

/-- No transform takes a value away. -/
theorem eq_none_of_result_eq_none {t : Transform} {value : Option Value}
    (h : t.result value = none) : value = none := by
  cases value with
  | none => rfl
  | some v =>
      cases t with
      | default literal =>
          rw [result_default] at h
          split at h <;> cases h
      | sanitize s =>
          simp only [result, apply] at h
          cases hs : s.sanitize v <;> simp [hs, Except.map] at h

end Transform

namespace Step

def valueAfter : List Step → Option Value → Option Value
  | [], v => v
  | .required :: rest, v => if Value.isEmpty v then v else valueAfter rest v
  | .transform t :: rest, v => valueAfter rest (t.result v)
  | .check _ :: rest, v => valueAfter rest v

def ends : List Step → Option Value → Bool
  | [], _ => false
  | .required :: rest, v => Value.isEmpty v || ends rest v
  | .transform t :: rest, v => ends rest (t.result v)
  | .check _ :: rest, v => ends rest v

theorem eq_none_of_valueAfter_eq_none {steps : List Step} {v : Option Value}
    (h : valueAfter steps v = none) : v = none := by
  induction steps generalizing v with
  | nil => exact h
  | cons s rest ih =>
      cases s with
      | required =>
          rw [valueAfter] at h
          split at h
          · exact h
          · exact ih h
      | transform t => exact Transform.eq_none_of_result_eq_none (ih h)
      | check k => exact ih h

theorem valueAfter_append {a : List Step} {v : Option Value} (h : ends a v = false)
    (b : List Step) : valueAfter (a ++ b) v = valueAfter b (valueAfter a v) := by
  induction a generalizing v with
  | nil => rfl
  | cons s rest ih =>
      cases s with
      | required =>
          rw [ends, Bool.or_eq_false_iff] at h
          simp only [List.cons_append, valueAfter, h.1, Bool.false_eq_true, if_false, ih h.2]
      | transform t => exact ih h
      | check k => exact ih h

theorem ends_append (a b : List Step) (v : Option Value) :
    ends (a ++ b) v = (ends a v || ends b (valueAfter a v)) := by
  induction a generalizing v with
  | nil => rfl
  | cons s rest ih =>
      cases s with
      | required =>
          rw [List.cons_append, ends, ends, valueAfter, ih]
          cases Value.isEmpty v <;> simp
      | transform t => exact ih (t.result v)
      | check k => exact ih v

end Step

namespace Chain

theorem turn_congr {c c' : Chain} (hfield : c'.field = c.field)
    (hskips : ∀ value, c'.skips value = c.skips value) (r : Record) (s : Step) :
    c'.turn r s = c.turn r s := by
  cases s <;> simp only [turn, hfield, hskips]

theorem runSteps_congr {c c' : Chain} (hfield : c'.field = c.field)
    (hskips : ∀ value, c'.skips value = c.skips value) (steps : List Step) (r : Record) :
    c'.runSteps steps r = c.runSteps steps r := by
  induction steps generalizing r with
  | nil => rfl
  | cons s rest ih => simp only [runSteps, turn_congr hfield hskips, ih]

/-- A transform puts its result into the field, and the run goes on. -/
theorem turn_transform (c : Chain) (r : Record) (t : Transform) :
    ∃ events, c.turn r (.transform t) =
      .next ⟨r.put c.field (t.result (r.get? c.field)), events⟩ := by
  simp only [turn, Transform.result]
  cases h : t.apply (r.get? c.field) with
  | error e => exact ⟨_, by simp only [Record.put_get?]; rfl⟩
  | ok v =>
      cases v with
      | none => exact ⟨[], rfl⟩
      | some w => exact ⟨[], rfl⟩

theorem runSteps_required_of_isEmpty (c : Chain) (rest : List Step) {r : Record}
    (h : Value.isEmpty (r.get? c.field) = true) :
    c.runSteps (.required :: rest) r =
      ⟨r, [.failed c.field (r.get? c.field) s!"{c.field} is required"]⟩ := by
  simp only [runSteps, turn, h, if_true]

theorem runSteps_required_of_not_isEmpty (c : Chain) (rest : List Step) {r : Record}
    (h : Value.isEmpty (r.get? c.field) = false) :
    c.runSteps (.required :: rest) r = c.runSteps rest r := by
  simp only [runSteps, turn, h, Bool.false_eq_true, if_false, List.nil_append]

theorem runSteps_check (c : Chain) (k : Check) (rest : List Step) (r : Record) :
    c.runSteps (.check k :: rest) r =
      ⟨(c.runSteps rest r).record,
        (if c.skips (r.get? c.field) then [] else k.run c.field (r.get? c.field) r)
          ++ (c.runSteps rest r).events⟩ := by
  cases h : c.skips (r.get? c.field) <;> simp [runSteps, turn, h]

theorem runSteps_transform (c : Chain) (t : Transform) (rest : List Step) (r : Record) :
    ∃ events, c.runSteps (.transform t :: rest) r =
      ⟨(c.runSteps rest (r.put c.field (t.result (r.get? c.field)))).record,
        events ++ (c.runSteps rest (r.put c.field (t.result (r.get? c.field)))).events⟩ := by
  obtain ⟨events, ht⟩ := c.turn_transform r t
  exact ⟨events, by rw [runSteps, ht]⟩

theorem get?_put_result (c : Chain) (t : Transform) (r : Record) :
    (r.put c.field (t.result (r.get? c.field))).get? c.field = t.result (r.get? c.field) :=
  Record.get?_put_self Transform.eq_none_of_result_eq_none

/-- A chain leaves the record as it was, with one value put into its own field. -/
theorem record_runSteps (c : Chain) (steps : List Step) (r : Record) :
    (c.runSteps steps r).record = r.put c.field (Step.valueAfter steps (r.get? c.field)) := by
  induction steps generalizing r with
  | nil => exact (r.put_get? c.field).symm
  | cons s rest ih =>
      cases s with
      | required =>
          cases h : Value.isEmpty (r.get? c.field) with
          | true =>
              rw [c.runSteps_required_of_isEmpty rest h, Step.valueAfter, if_pos h, r.put_get?]
          | false =>
              rw [c.runSteps_required_of_not_isEmpty rest h, Step.valueAfter, h, if_neg nofun]
              exact ih r
      | transform t =>
          obtain ⟨events, ht⟩ := c.runSteps_transform t rest r
          rw [ht, Step.valueAfter]
          dsimp only
          rw [ih, get?_put_result, Record.put_put Step.eq_none_of_valueAfter_eq_none]
      | check k =>
          rw [runSteps_check]
          exact ih r

theorem get?_runSteps_self (c : Chain) (steps : List Step) (r : Record) :
    (c.runSteps steps r).record.get? c.field = Step.valueAfter steps (r.get? c.field) := by
  rw [record_runSteps]
  exact Record.get?_put_self Step.eq_none_of_valueAfter_eq_none

theorem get?_runSteps_of_ne (c : Chain) (steps : List Step) (r : Record) {other : String}
    (h : c.field ≠ other) : (c.runSteps steps r).record.get? other = r.get? other := by
  rw [record_runSteps]
  exact Record.get?_put_of_ne r _ h

/-- A required step that ends the field leaves a message. -/
theorem ends_eq_false_of_messages_eq_nil {c : Chain} {steps : List Step} {r : Record}
    (h : messagesOf (c.runSteps steps r).events = []) :
    Step.ends steps (r.get? c.field) = false := by
  induction steps generalizing r with
  | nil => rfl
  | cons s rest ih =>
      cases s with
      | required =>
          cases he : Value.isEmpty (r.get? c.field) with
          | true =>
              rw [c.runSteps_required_of_isEmpty rest he] at h
              cases h
          | false =>
              rw [c.runSteps_required_of_not_isEmpty rest he] at h
              rw [Step.ends, he, ih h, Bool.or_false]
      | transform t =>
          obtain ⟨events, ht⟩ := c.runSteps_transform t rest r
          rw [ht, messagesOf_append, List.append_eq_nil_iff] at h
          rw [Step.ends, ← c.get?_put_result t r]
          exact ih h.2
      | check k =>
          rw [runSteps_check, messagesOf_append, List.append_eq_nil_iff] at h
          exact ih h.2

end Chain

theorem runChains_append (a b : List Chain) (r : Record) :
    runChains (a ++ b) r =
      ⟨(runChains b (runChains a r).record).record,
        (runChains a r).events ++ (runChains b (runChains a r).record).events⟩ := by
  induction a generalizing r with
  | nil => rfl
  | cons c rest ih => simp only [List.cons_append, runChains, ih, List.append_assoc]

theorem get?_runChains_of_notMem {cs : List Chain} {field : String}
    (h : field ∉ cs.map Chain.field) (r : Record) :
    (runChains cs r).record.get? field = r.get? field := by
  induction cs generalizing r with
  | nil => rfl
  | cons c rest ih =>
      simp only [List.map_cons, List.mem_cons, not_or] at h
      have hc := c.get?_runSteps_of_ne c.steps r (Ne.symm h.1)
      exact (ih h.2 (c.run r).record).trans hc

namespace Schema

/-- A chain of a schema whose fields are distinct meets the submitted value of its field. -/
theorem get?_before_chain {s : Schema} (hd : (s.chains.map Chain.field).Nodup) {c : Chain}
    {before after : List Chain} (hs : s.chains = before ++ c :: after) (r : Record) :
    (runChains before r).record.get? c.field = r.get? c.field := by
  rw [hs, List.map_append, List.map_cons, List.nodup_append] at hd
  exact get?_runChains_of_notMem (fun h => hd.2.2 _ h _ List.mem_cons_self rfl) r

/-- Where the fields are distinct, the returned value of a field is what the steps of its chain
make of the submitted one. -/
theorem get?_validate {s : Schema} (hd : (s.chains.map Chain.field).Nodup) {c : Chain}
    (hc : c ∈ s.chains) (r : Record) :
    (s.validate r).record.get? c.field = Step.valueAfter c.steps (r.get? c.field) := by
  obtain ⟨before, after, hs⟩ := List.append_of_mem hc
  have hafter : c.field ∉ after.map Chain.field := by
    rw [hs, List.map_append, List.map_cons, List.nodup_append, List.nodup_cons] at hd
    exact hd.2.1.1
  rw [← get?_before_chain hd hs r, ← c.get?_runSteps_self]
  simp only [validate, run, hs, runChains_append, runChains]
  exact get?_runChains_of_notMem hafter _

theorem ends_eq_false_of_accepted {s : Schema} (hd : (s.chains.map Chain.field).Nodup) {c : Chain}
    (hc : c ∈ s.chains) {r : Record} (ha : (s.validate r).accepted = true) :
    Step.ends c.steps (r.get? c.field) = false := by
  obtain ⟨before, after, hs⟩ := List.append_of_mem hc
  have hm : messagesOf (runChains s.chains r).events = [] := List.isEmpty_iff.1 ha
  rw [hs, runChains_append, messagesOf_append, List.append_eq_nil_iff] at hm
  have hc : messagesOf (c.run (runChains before r).record).events = [] := by
    have h := hm.2
    rw [runChains, messagesOf_append, List.append_eq_nil_iff] at h
    exact h.1
  rw [← get?_before_chain hd hs r]
  exact Chain.ends_eq_false_of_messages_eq_nil hc

end Schema
end FieldRules
