import FieldRules.Proofs.InsertedTokens
import FieldRules.Proofs.PossibleMessages

/-!
# A check put into a field

A check reads and does not write. A token that spells one, put anywhere among the tokens of a field,
therefore changes no record that another step meets, in its own chain or in a later one; all it can
add is its message, once. Two types are different: their tags also make the bounds of the field
numeric, and with them a bound may fail that has passed, or pass.
-/

namespace FieldRules

namespace Rule

/-- The rule is a check, and not one whose tag makes bounds numeric. -/
def onlyChecks : Rule → Bool
  | type name => name != .integer && name != .numeric
  | min _ | max _ | between _ _ | length _ _ | oneOf _ | format _ => true
  | same _ | requiredIf _ | requiredUnless _ | prohibitedIf _ => true
  | required | optional | nullable | sanitize | default _ => false

theorem exists_check_of_placement {field : String} {m : Measure} {rule : Rule} {p : Placement}
    (hrule : rule.onlyChecks = true) (h : rule.placement field m = .ok p) :
    ∃ k, p = .step (.check k) ∧ ∀ custom, k ≠ .custom custom := by
  have hcheck : ∃ k, p = .step (.check k) := by
    cases rule with
    | required | optional | nullable | sanitize | default literal => cases hrule
    | format pattern =>
        obtain ⟨compiled, hp⟩ := exists_of_placement_format h
        exact ⟨_, hp⟩
    | _ => exact ⟨_, (Except.ok.inj h).symm⟩
  obtain ⟨k, rfl⟩ := hcheck
  refine ⟨k, rfl, ?_⟩
  rintro custom rfl
  exact placement_ne_custom h

end Rule

theorem Token.isNumeric_of_onlyChecks {token : String} {rule : Rule}
    (h : Rule.ofToken token = .ok rule) (hrule : rule.onlyChecks = true) :
    (ofString token).isNumeric = false := by
  rw [Rule.ofToken] at h
  cases ht : ofString token with
  | mk tag params =>
      rw [ht] at h
      refine Bool.eq_false_iff.2 fun hnumeric => ?_
      rw [isNumeric, Bool.or_eq_true, beq_iff_eq, beq_iff_eq] at hnumeric
      rcases hnumeric with rfl | rfl <;> cases params <;> cases h <;> cases hrule

namespace Setting

theorem exists_verdict_eq_check {s : Setting} {token : String} {rule : Rule}
    (h : Rule.ofToken token = .ok rule) (hrule : rule.onlyChecks = true) (hc : s.Compiles token) :
    ∃ k, s.verdict token = .placed (.step (.check k)) ∧ ∀ custom, k ≠ .custom custom := by
  cases hp : rule.placement s.field s.measure with
  | error e =>
      refine absurd ?_ (hc e)
      rw [verdict, h]
      simp only [hp]
  | ok p =>
      obtain ⟨k, rfl, hk⟩ := Rule.exists_check_of_placement hrule hp
      exact ⟨k, verdict_eq_placed_iff.2 ⟨rule, h, hp⟩, hk⟩

end Setting

/-- The second list has the messages of the first in their order, and one more at most. -/
structure AtMostOneMore (old new : List String) : Prop where
  sublist : old.Sublist new
  length_le : new.length ≤ old.length + 1

namespace AtMostOneMore

variable {old new : List String}

theorem refl (old : List String) : AtMostOneMore old old := ⟨.refl old, Nat.le_succ _⟩

theorem of_append {added : List String} (h : added.length ≤ 1) (old : List String) :
    AtMostOneMore old (added ++ old) := by
  refine ⟨List.sublist_append_right _ _, ?_⟩
  rw [List.length_append, Nat.add_comm]
  exact Nat.add_le_add_left h _

theorem append_left (h : AtMostOneMore old new) (front : List String) :
    AtMostOneMore (front ++ old) (front ++ new) := by
  refine ⟨h.sublist.append_left front, ?_⟩
  rw [List.length_append, List.length_append, Nat.add_assoc]
  exact Nat.add_le_add_left h.length_le _

theorem append_right (h : AtMostOneMore old new) (back : List String) :
    AtMostOneMore (old ++ back) (new ++ back) := by
  refine ⟨h.sublist.append_right back, ?_⟩
  rw [List.length_append, List.length_append, Nat.add_right_comm]
  exact Nat.add_le_add_right h.length_le _

theorem isEmpty_eq_false (h : AtMostOneMore old new) (hold : old.isEmpty = false) :
    new.isEmpty = false := by
  rw [List.isEmpty_eq_false_iff] at hold ⊢
  rintro rfl
  exact hold (List.sublist_nil.1 h.sublist)

end AtMostOneMore

theorem Step.valueAfter_insert_check (a : List Step) (k : Check) (b : List Step)
    (v : Option Value) : valueAfter (a ++ .check k :: b) v = valueAfter (a ++ b) v := by
  induction a generalizing v with
  | nil => rfl
  | cons s rest ih =>
      cases s with
      | required => rw [List.cons_append, List.cons_append, valueAfter, valueAfter, ih]
      | transform t => exact ih (t.result v)
      | check k' => exact ih v

namespace Chain

theorem length_messages_turn_check_le {k : Check} (hk : ∀ custom, k ≠ .custom custom) (c : Chain)
    (r : Record) : (messagesOf (c.turn r (.check k)).events).length ≤ 1 := by
  have hstep (rule : CustomRule) : Step.check k ≠ .check (.custom rule) := fun h =>
    hk rule (Step.check.inj h)
  calc
    _ ≤ (Step.message? c.field (.check k)).toList.length :=
      (messages_turn_sublist hstep c r).length_le
    _ ≤ 1 := by cases Step.message? c.field (.check k) <;> simp

/-- Behind the check the run goes on as it would without it. -/
theorem messages_insert_check (c : Chain) (a : List Step) {k : Check}
    (hk : ∀ custom, k ≠ .custom custom) (b : List Step) (r : Record) :
    AtMostOneMore (messagesOf (c.runSteps (a ++ b) r).events)
      (messagesOf (c.runSteps (a ++ .check k :: b) r).events) := by
  rw [events_runSteps_append, events_runSteps_append, messagesOf_append, messagesOf_append]
  refine AtMostOneMore.append_left ?_ _
  split
  · exact .refl _
  · rw [runSteps_check, ← events_turn_check, messagesOf_append]
    exact .of_append (c.length_messages_turn_check_le hk _) _

section Inserted

variable {c c' : Chain} {a b : List Step} {k : Check} (hfield : c'.field = c.field)
  (hsteps : c.steps = a ++ b) (hsteps' : c'.steps = a ++ .check k :: b)
include hfield hsteps hsteps'

theorem record_run_insert_check (r : Record) : (c'.run r).record = (c.run r).record := by
  rw [run, run, record_runSteps, record_runSteps, hfield, hsteps, hsteps',
    Step.valueAfter_insert_check]

theorem messages_run_insert_check (hskips : ∀ value, c'.skips value = c.skips value)
    (hk : ∀ custom, k ≠ .custom custom) (r : Record) :
    AtMostOneMore (messagesOf (c.run r).events) (messagesOf (c'.run r).events) := by
  rw [run, run, runSteps_congr hfield hskips, hsteps, hsteps']
  exact c.messages_insert_check a hk b r

end Inserted
end Chain

/-- Where a chain leaves the same record as the one it replaces and has one message more at most, so
it is with the schema. -/
theorem Schema.validate_of_replaced {c c' : Chain}
    (hrecord : ∀ r, (c'.run r).record = (c.run r).record)
    (hmessages : ∀ r, AtMostOneMore (messagesOf (c.run r).events) (messagesOf (c'.run r).events))
    {before after : List Chain} {s s' : Schema} (hs : s.chains = before ++ c :: after)
    (hs' : s'.chains = before ++ c' :: after) (r : Record) :
    (s'.validate r).record = (s.validate r).record ∧
      AtMostOneMore (s.validate r).errors (s'.validate r).errors ∧
      ((s.validate r).accepted = false → (s'.validate r).accepted = false) := by
  have herrors : AtMostOneMore (s.validate r).errors (s'.validate r).errors := by
    simp only [validate, run, hs, hs', runChains_append, runChains, messagesOf_append, hrecord]
    exact ((hmessages _).append_right _).append_left _
  refine ⟨?_, herrors, herrors.isEmpty_eq_false⟩
  simp only [validate, run, hs, hs', runChains_append, runChains, hrecord]

/-- With a check put anywhere among the tokens of a field, every record is returned as before, and
told what it was told before with one message more at most; so a rejected record stays rejected. -/
theorem errors_of_inserted_check {strict : Bool} {before after : List (String × Spec)}
    {field : String} {spec spec' : Spec} {front back : List String} {token : String} {rule : Rule}
    (h : spec.Inserts spec' front token back) (hrule : Rule.ofToken token = .ok rule)
    (hchecks : rule.onlyChecks = true) (htoken : (spec.setting strict field).Compiles token)
    {s : Schema} (hs : compileSchema strict (before ++ (field, spec) :: after) = .ok s) :
    ∃ s', compileSchema strict (before ++ (field, spec') :: after) = .ok s' ∧
      ∀ r, (s'.validate r).record = (s.validate r).record ∧
        AtMostOneMore (s.validate r).errors (s'.validate r).errors ∧
        ((s.validate r).accepted = false → (s'.validate r).accepted = false) := by
  have hnot := Token.isNumeric_of_onlyChecks hrule hchecks
  obtain ⟨k, hplaced, hk⟩ := Setting.exists_verdict_eq_check hrule hchecks htoken
  obtain ⟨hall, rfl⟩ := compileSchema_ok_iff.1 hs
  simp only [List.forall_mem_append, List.forall_mem_cons] at hall
  refine ⟨_, compileSchema_ok_iff.2 ⟨?_, rfl⟩, fun r => ?_⟩
  · simp only [List.forall_mem_append, List.forall_mem_cons]
    exact ⟨hall.1, (h.compiles_iff_and hnot).2 ⟨hall.2.1, htoken⟩, hall.2.2⟩
  · have hchain := h.chain_eq_of_placed hnot hplaced
    have hfield : (spec'.chain strict field).field = (spec.chain strict field).field := rfl
    have hsteps := h.steps_chain strict field
    have hsteps' := congrArg Chain.steps hchain
    have hskips (value : Option Value) :
        (spec'.chain strict field).skips value = (spec.chain strict field).skips value := by
      rw [hchain, Chain.skips, Chain.skips]
      simp only [Chain.isRequiredStep, Bool.or_false]
    exact Schema.validate_of_replaced (Chain.record_run_insert_check hfield hsteps hsteps')
      (Chain.messages_run_insert_check hfield hsteps hsteps' hskips hk) List.map_append
      List.map_append r

/-- The check reads another field, and stands between a default and the steps behind it; the field
stands twice in the list, and a later one reads it. -/
theorem errors_of_inserted_check_nick :
    let spec := Spec.pipe "default:Guest|required|string"
    let spec' := Spec.pipe "default:Guest|same:name|required|string"
    let before := [("name", Spec.pipe "required"), ("nick", Spec.pipe "sanitize")]
    let after := [("copy", Spec.pipe "same:nick")]
    spec.Inserts spec' ["default:Guest"] "same:name" ["required", "string"] ∧
      ∃ s, compileSchema true (before ++ ("nick", spec) :: after) = .ok s ∧
        ∃ s', compileSchema true (before ++ ("nick", spec') :: after) = .ok s' ∧
          ∀ r, (s'.validate r).record = (s.validate r).record ∧
            AtMostOneMore (s.validate r).errors (s'.validate r).errors ∧
            ((s.validate r).accepted = false → (s'.validate r).accepted = false) := by
  intro spec spec' before after
  have hinserts : spec.Inserts spec' ["default:Guest"] "same:name" ["required", "string"] :=
    ⟨by decide +kernel, by decide +kernel, rfl⟩
  have hrule : Rule.ofToken "same:name" = .ok (.same "name") := rfl
  have hplaced := Setting.verdict_eq_placed_iff (s := spec.setting true "nick").2
    ⟨.same "name", hrule, rfl⟩
  have htoken : (spec.setting true "nick").Compiles "same:name" := by
    simp [Setting.Compiles, hplaced]
  have hok : (compileSchema true (before ++ ("nick", spec) :: after)).toOption.isSome = true := by
    decide +kernel
  cases hs : compileSchema true (before ++ ("nick", spec) :: after) with
  | error e =>
      rw [hs] at hok
      cases hok
  | ok s => exact ⟨hinserts, s, rfl, errors_of_inserted_check hinserts hrule rfl htoken hs⟩

end FieldRules
