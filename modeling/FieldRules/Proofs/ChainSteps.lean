import FieldRules.Proofs.CompiledChain
import FieldRules.Proofs.FieldValue

/-!
# A chain, one step at a time

What a step adds to the events depends on the record that it meets; what it leaves behind depends on
the value of its field alone. `Chain.events_runSteps_cons` says so in one equation, from which
statements about a step carry over to the run of a chain. All events of a chain are about its own
field, and a failure is reported with the value that its step met.
-/

namespace FieldRules

namespace Event

def field : Event → String
  | refused field _ => field
  | asked _ context => context.field
  | objected _ field _ => field
  | failed field _ _ => field

/-- The event is about this field, and if it is a failure, about this value of it. -/
def IsOn (field : String) (value : Option Value) : Event → Prop
  | failed field' value' _ => field' = field ∧ value' = value
  | e => e.field = field

theorem IsOn.field_eq {field : String} {value : Option Value} {e : Event} (h : e.IsOn field value) :
    e.field = field := by
  cases e with
  | failed field' value' message => exact h.1
  | _ => exact h

end Event

theorem messagesOf_eq_nil_iff {events : List Event} :
    messagesOf events = [] ↔ ∀ e ∈ events, e.message? = none := List.filterMap_eq_nil_iff

namespace Turn

def events : Turn → List Event
  | next p => p.events
  | stop events => events

end Turn

namespace Chain

theorem events_turn_required (c : Chain) (r : Record) :
    (c.turn r .required).events =
      if Value.isEmpty (r.get? c.field) then
        [.failed c.field (r.get? c.field) s!"{c.field} is required"]
      else [] := by
  simp only [turn]
  split <;> rfl

theorem events_turn_transform (c : Chain) (r : Record) (t : Transform) :
    (c.turn r (.transform t)).events =
      match t.apply (r.get? c.field) with
      | .ok _ => []
      | .error e =>
        [.refused c.field e, .failed c.field (r.get? c.field) s!"{c.field} is nested too deeply"] := by
  simp only [turn]
  cases t.apply (r.get? c.field) with
  | error e => rfl
  | ok v => cases v <;> rfl

theorem events_turn_check (c : Chain) (r : Record) (k : Check) :
    (c.turn r (.check k)).events =
      if c.skips (r.get? c.field) then [] else k.run c.field (r.get? c.field) r := by
  simp only [turn]
  split <;> rfl

/-- Behind a step that does not end the field, the run goes on with the value that the step left. -/
theorem events_runSteps_cons (c : Chain) (s : Step) (rest : List Step) (r : Record) :
    (c.runSteps (s :: rest) r).events = (c.turn r s).events ++
      if Step.ends [s] (r.get? c.field) then []
      else (c.runSteps rest (r.put c.field (Step.valueAfter [s] (r.get? c.field)))).events := by
  cases s with
  | required =>
      rw [events_turn_required]
      cases h : Value.isEmpty (r.get? c.field) with
      | true => simp [c.runSteps_required_of_isEmpty rest h, Step.ends, h]
      | false =>
          simp [c.runSteps_required_of_not_isEmpty rest h, Step.ends, Step.valueAfter, h,
            r.put_get?]
  | transform t =>
      obtain ⟨events, ht⟩ := c.turn_transform r t
      simp [runSteps, ht, Turn.events, Step.ends, Step.valueAfter]
  | check k =>
      rw [events_turn_check, runSteps_check]
      simp [Step.ends, Step.valueAfter, r.put_get?]

theorem events_runSteps_append (c : Chain) (a b : List Step) (r : Record) :
    (c.runSteps (a ++ b) r).events = (c.runSteps a r).events ++
      if Step.ends a (r.get? c.field) then []
      else (c.runSteps b (r.put c.field (Step.valueAfter a (r.get? c.field)))).events := by
  induction a generalizing r with
  | nil => simp [runSteps, Step.ends, Step.valueAfter, r.put_get?]
  | cons s rest ih =>
      rw [List.cons_append, events_runSteps_cons, events_runSteps_cons, List.append_assoc]
      have hends := Step.ends_append [s] rest (r.get? c.field)
      rw [List.singleton_append] at hends
      cases he : Step.ends [s] (r.get? c.field) with
      | true => simp [hends, he]
      | false =>
          have hvalue := Step.valueAfter_append he rest
          have hget : (r.put c.field (Step.valueAfter [s] (r.get? c.field))).get? c.field =
              Step.valueAfter [s] (r.get? c.field) :=
            Record.get?_put_self Step.eq_none_of_valueAfter_eq_none
          rw [List.singleton_append] at hvalue
          rw [ih, hget, Record.put_put Step.eq_none_of_valueAfter_eq_none, hends, he, hvalue]
          simp

/-- Steps in two parts give no message when neither part does. -/
theorem messages_runSteps_append_eq_nil_iff {c : Chain} {a b : List Step} {r : Record} :
    messagesOf (c.runSteps (a ++ b) r).events = [] ↔
      messagesOf (c.runSteps a r).events = [] ∧
        messagesOf (c.runSteps b
          (r.put c.field (Step.valueAfter a (r.get? c.field)))).events = [] := by
  rw [events_runSteps_append, messagesOf_append, List.append_eq_nil_iff]
  refine and_congr_right fun ha => ?_
  rw [ends_eq_false_of_messages_eq_nil ha]
  exact Iff.rfl

end Chain

theorem Check.isOn_of_mem_run (k : Check) (field : String) (value : Option Value) (r : Record) :
    ∀ e ∈ k.run field value r, e.IsOn field value := by
  cases k with
  | custom rule =>
      rw [run, CustomRule.ask, List.forall_mem_cons]
      refine ⟨rfl, ?_⟩
      split <;> simp [Event.IsOn, Event.field]
  | _ =>
      rw [run]
      split <;> simp [Event.IsOn]

namespace Chain

theorem isOn_of_mem_turn (c : Chain) (r : Record) (s : Step) :
    ∀ e ∈ (c.turn r s).events, e.IsOn c.field (r.get? c.field) := by
  cases s with
  | required =>
      rw [events_turn_required]
      split <;> simp [Event.IsOn]
  | transform t =>
      rw [events_turn_transform]
      split <;> simp [Event.IsOn, Event.field]
  | check k =>
      rw [events_turn_check]
      split
      · exact List.forall_mem_nil _
      · exact k.isOn_of_mem_run _ _ _

theorem field_of_mem_runSteps {c : Chain} {steps : List Step} {r : Record} {e : Event}
    (he : e ∈ (c.runSteps steps r).events) : e.field = c.field := by
  induction steps generalizing r with
  | nil => cases he
  | cons s rest ih =>
      rw [events_runSteps_cons, List.mem_append] at he
      rcases he with he | he
      · exact (c.isOn_of_mem_turn r s e he).field_eq
      · split at he
        · cases he
        · exact ih he

def Uncustomized (c : Chain) : Prop := ∀ rule, .check (.custom rule) ∉ c.steps

end Chain

theorem Rule.placement_ne_custom {field : String} {m : Measure} {rule : Rule} {custom : CustomRule} :
    rule.placement field m ≠ .ok (.step (.check (.custom custom))) := by
  intro h
  cases rule with
  | format pattern =>
      obtain ⟨compiled, hp⟩ := exists_of_placement_format h
      cases hp
  | _ => cases h

theorem uncustomized_of_compileSchema {strict : Bool} {specs : List (String × Spec)} {s : Schema}
    (hs : compileSchema strict specs = .ok s) (hcustoms : ∀ p ∈ specs, p.2.customs = []) :
    ∀ c ∈ s.chains, c.Uncustomized := by
  rw [(compileSchema_ok_iff.1 hs).2]
  intro c hc rule hrule
  obtain ⟨p, hp, rfl⟩ := List.mem_map.1 hc
  rcases Spec.mem_steps_chain.1 hrule with ⟨t, -, hv⟩ | ⟨custom, hcustom, -⟩
  · obtain ⟨rule', -, hp⟩ := Setting.verdict_eq_placed_iff.1 hv
    exact Rule.placement_ne_custom hp
  · rw [hcustoms p hp] at hcustom
    cases hcustom

end FieldRules
