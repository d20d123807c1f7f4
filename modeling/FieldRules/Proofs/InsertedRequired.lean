import FieldRules.Proofs.ChainSteps
import FieldRules.Proofs.InsertedTokens

/-!
# A required token put into a field

A required token adds a step that an empty value does not pass, and it relieves the checks of the
field: they are left out while the value is empty. So it may turn a rejected record into an accepted
one, where all that was wrong was found by checks of the field on an empty value, and the value is
not empty where the new step meets it. `OnlyEmptyChecked` is that case, and in all others a rejected
record stays rejected.
-/

namespace FieldRules

theorem Setting.verdict_required (s : Setting) :
    s.verdict "required" = .placed (.step .required) :=
  verdict_eq_placed_iff.2 ⟨.required, rfl, rfl⟩

theorem Token.isNumeric_required : (ofString "required").isNumeric = false := by decide +kernel

namespace Spec.Inserts

variable {spec spec' : Spec} {front back : List String}

theorem compiles_iff (h : spec.Inserts spec' front "required" back) (strict : Bool)
    (field : String) : spec'.Compiles strict field ↔ spec.Compiles strict field := by
  rw [h.compiles_iff_and Token.isNumeric_required]
  refine and_iff_left ?_
  simp [Setting.Compiles, Setting.verdict_required]

/-- The new chain is the old one with the required step in the place of the token. -/
theorem chain_eq (h : spec.Inserts spec' front "required" back) (strict : Bool) (field : String) :
    spec'.chain strict field =
      { spec.chain strict field with
        tags := tagsOf spec'.tokens
        isRequired := true
        steps := (spec.setting strict field).steps front ++
          .required :: ((spec.setting strict field).steps back
            ++ spec.customs.map fun rule => .check (.custom rule)) } := by
  rw [h.chain_eq_of_placed Token.isNumeric_required (Setting.verdict_required _)]
  simp [Chain.isRequiredStep]

end Spec.Inserts

def FailOnEmpty (events : List Event) : Prop :=
  ∀ field value message, .failed field value message ∈ events → Value.isEmpty value = true

theorem failOnEmpty_append {a b : List Event} :
    FailOnEmpty (a ++ b) ↔ FailOnEmpty a ∧ FailOnEmpty b := by
  simp only [FailOnEmpty, List.mem_append, or_imp, forall_and]

theorem failOnEmpty_of_messages_eq_nil {events : List Event} (h : messagesOf events = []) :
    FailOnEmpty events := by
  intro field value message he
  cases messagesOf_eq_nil_iff.1 h _ he

/-- Where all that is reported is about one value that is not empty, no failure is on an empty value
unless there is none. -/
theorem messages_eq_nil_iff_failOnEmpty {events : List Event} {field : String}
    {value : Option Value} (hv : Value.isEmpty value = false)
    (h : ∀ e ∈ events, e.IsOn field value) : messagesOf events = [] ↔ FailOnEmpty events := by
  refine ⟨failOnEmpty_of_messages_eq_nil, fun he => messagesOf_eq_nil_iff.2 fun e hmem => ?_⟩
  cases e with
  | failed field' value' message =>
      have hempty := he field' value' message hmem
      rw [(h _ hmem).2, hv] at hempty
      cases hempty
  | _ => rfl

/-- What the sanitizer refuses is an array or an object. -/
theorem Transform.isEmpty_of_apply_error {t : Transform} {value : Option Value} {e : TooDeep}
    (h : t.apply value = .error e) : Value.isEmpty value = false := by
  cases t with
  | default literal => cases h
  | sanitize s =>
      cases value with
      | none => cases h
      | some v =>
          cases v with
          | null | string _ =>
              simp [apply, Sanitizer.sanitize, Sanitizer.cleanWithin, Except.map] at h
          | _ => rfl

namespace Chain

theorem isEmpty_of_skips {c : Chain} {value : Option Value} (h : c.skips value = true) :
    Value.isEmpty value = true := by
  rw [skips] at h
  split at h
  · exact h
  · cases value with
    | none => rfl
    | some v =>
        have hnull : c.isNullable = true ∧ v = .null := by simpa using h
        rw [hnull.2]
        rfl

section Relieved

variable {c c' : Chain} (hfield : c'.field = c.field) (hc' : c'.isRequired = true)
include hfield hc'

/-- To a required chain, a step other than a required one gives no message when the failures it
leads to in the chain that is not required are on an empty value. -/
theorem messages_turn_relieved {s : Step} (hs : s ≠ .required) (r : Record) :
    messagesOf (c'.turn r s).events = [] ↔ FailOnEmpty (c.turn r s).events := by
  have hon := c.isOn_of_mem_turn r s
  cases s with
  | required => exact absurd rfl hs
  | transform t =>
      rw [events_turn_transform] at hon ⊢
      rw [events_turn_transform, hfield]
      cases h : t.apply (r.get? c.field) with
      | ok v => exact ⟨failOnEmpty_of_messages_eq_nil, fun _ => rfl⟩
      | error e =>
          rw [h] at hon
          exact messages_eq_nil_iff_failOnEmpty (Transform.isEmpty_of_apply_error h) hon
  | check k =>
      have hskips' : c'.skips (r.get? c.field) = Value.isEmpty (r.get? c.field) := by
        rw [skips, if_pos hc']
      rw [events_turn_check c', hfield, hskips']
      cases hv : Value.isEmpty (r.get? c.field) with
      | true =>
          refine ⟨fun _ field value message he => ?_, fun _ => rfl⟩
          rw [(hon _ he).2, hv]
      | false =>
          have hskips : c.skips (r.get? c.field) = false := by
            refine Bool.eq_false_iff.2 fun hskip => ?_
            exact Bool.false_ne_true (hv.symm.trans (isEmpty_of_skips hskip))
          rw [events_turn_check, hskips] at hon ⊢
          exact messages_eq_nil_iff_failOnEmpty hv hon

theorem messages_runSteps_relieved {steps : List Step} (hs : .required ∉ steps) (r : Record) :
    messagesOf (c'.runSteps steps r).events = [] ↔ FailOnEmpty (c.runSteps steps r).events := by
  induction steps generalizing r with
  | nil => exact ⟨failOnEmpty_of_messages_eq_nil, fun _ => rfl⟩
  | cons s rest ih =>
      have hne : s ≠ .required := fun h => hs (h ▸ List.mem_cons_self)
      have hends (v : Option Value) : Step.ends [s] v = false := by
        cases s with
        | required => exact absurd rfl hne
        | _ => rfl
      rw [events_runSteps_cons, events_runSteps_cons, hends, hends, messagesOf_append,
        List.append_eq_nil_iff, failOnEmpty_append, messages_turn_relieved hfield hc' hne, hfield]
      exact and_congr_right fun _ => ih (fun h => hs (List.mem_cons_of_mem s h)) _

end Relieved

/-- A required step gives no message when it meets a value that is not empty, and then it changes
nothing. -/
theorem messages_insert_required_eq_nil_iff {c : Chain} {a b : List Step} {r : Record} :
    messagesOf (c.runSteps (a ++ .required :: b) r).events = [] ↔
      Value.isEmpty (Step.valueAfter a (r.get? c.field)) = false ∧
        messagesOf (c.runSteps (a ++ b) r).events = [] := by
  have hget : (r.put c.field (Step.valueAfter a (r.get? c.field))).get? c.field =
      Step.valueAfter a (r.get? c.field) :=
    Record.get?_put_self Step.eq_none_of_valueAfter_eq_none
  rw [messages_runSteps_append_eq_nil_iff, messages_runSteps_append_eq_nil_iff, and_left_comm]
  refine and_congr_right fun _ => ?_
  cases hv : Value.isEmpty (Step.valueAfter a (r.get? c.field)) with
  | true =>
      rw [c.runSteps_required_of_isEmpty b (by rw [hget, hv])]
      simp [messagesOf, Event.message?]
  | false =>
      rw [c.runSteps_required_of_not_isEmpty b (by rw [hget, hv])]
      simp

end Chain

theorem Step.valueAfter_insert_required {a b : List Step} {v : Option Value}
    (h : ends (a ++ .required :: b) v = false) :
    valueAfter (a ++ .required :: b) v = valueAfter (a ++ b) v := by
  rw [ends_append, ends, Bool.or_eq_false_iff, Bool.or_eq_false_iff] at h
  rw [valueAfter_append h.1, valueAfter_append h.1, valueAfter, h.2.1]
  rfl

/-- On the record, the chain between `before` and `after` is not required, nothing fails but checks
of it on an empty value, and the value that its steps `front` leave is not empty. -/
structure OnlyEmptyChecked (before : List Chain) (c : Chain) (front : List Step)
    (after : List Chain) (r : Record) : Prop where
  silentBefore : messagesOf (runChains before r).events = []
  notRequired : c.isRequired = false
  failOnEmpty : FailOnEmpty (c.run (runChains before r).record).events
  filled : Value.isEmpty
    ((c.runSteps front (runChains before r).record).record.get? c.field) = false
  silentAfter : messagesOf (runChains after (c.run (runChains before r).record).record).events = []

namespace Schema

theorem accepted_iff {s : Schema} {before after : List Chain} {c : Chain}
    (hs : s.chains = before ++ c :: after) {r : Record} :
    (s.validate r).accepted = true ↔
      messagesOf (runChains before r).events = [] ∧
        messagesOf (c.run (runChains before r).record).events = [] ∧
        messagesOf (runChains after (c.run (runChains before r).record).record).events = [] := by
  simp only [Outcome.accepted, validate, run, hs, runChains_append, runChains, messagesOf_append,
    List.isEmpty_iff, List.append_eq_nil_iff]

end Schema

section Inserted

variable {c c' : Chain} {a b : List Step} (hfield : c'.field = c.field)
  (hsteps : c.steps = a ++ b) (hsteps' : c'.steps = a ++ .required :: b)
include hfield hsteps hsteps'

/-- Where it gives no message, a chain with a required step more leaves the same record. -/
theorem Chain.record_run_insert_required {r : Record}
    (h : messagesOf (c'.run r).events = []) : (c'.run r).record = (c.run r).record := by
  have hends := ends_eq_false_of_messages_eq_nil h
  rw [hsteps'] at hends
  rw [run, run, record_runSteps, record_runSteps, hsteps', hsteps,
    Step.valueAfter_insert_required hends, hfield]

/-- What a required step more makes of a rejected record. -/
theorem accepted_insert_required_iff (hc' : c'.isRequired = true)
    (hskips : c.isRequired = true → ∀ value, c'.skips value = c.skips value)
    (hc : c.isRequired = true ↔ .required ∈ c.steps) {before after : List Chain} {s s' : Schema}
    (hs : s.chains = before ++ c :: after) (hs' : s'.chains = before ++ c' :: after) {r : Record}
    (hr : (s.validate r).accepted = false) :
    (s'.validate r).accepted = true ↔ OnlyEmptyChecked before c a after r := by
  rw [Schema.accepted_iff hs']
  have hreject : ¬ _ := fun h => Bool.false_ne_true (hr.symm.trans ((Schema.accepted_iff hs).2 h))
  have hrecord := fun h => Chain.record_run_insert_required hfield hsteps hsteps'
    (r := (runChains before r).record) h
  have hinsert : messagesOf (c'.run (runChains before r).record).events = [] ↔
      Value.isEmpty ((c.runSteps a (runChains before r).record).record.get? c.field) = false ∧
        messagesOf (c'.runSteps c.steps (runChains before r).record).events = [] := by
    rw [Chain.run, hsteps', hsteps, Chain.messages_insert_required_eq_nil_iff, hfield,
      Chain.get?_runSteps_self]
  have hrelieved (hnot : c.isRequired = false) :
      messagesOf (c'.runSteps c.steps (runChains before r).record).events = [] ↔
        FailOnEmpty (c.run (runChains before r).record).events :=
    Chain.messages_runSteps_relieved hfield hc'
      (fun h => Bool.false_ne_true (hnot.symm.trans (hc.2 h))) _
  constructor
  · rintro ⟨hbefore, hown, hafter⟩
    obtain ⟨hfilled, hrun⟩ := hinsert.1 hown
    have hnot : c.isRequired = false := by
      -- A chain that was required before leaves out the same checks, so nothing failed in it.
      refine Bool.eq_false_iff.2 fun hreq => hreject ⟨hbefore, ?_, ?_⟩
      · rwa [Chain.runSteps_congr hfield (hskips hreq)] at hrun
      · rwa [hrecord hown] at hafter
    exact ⟨hbefore, hnot, (hrelieved hnot).1 hrun, hfilled, hrecord hown ▸ hafter⟩
  · rintro ⟨hbefore, hnot, hfail, hfilled, hafter⟩
    have hown := hinsert.2 ⟨hfilled, (hrelieved hnot).2 hfail⟩
    exact ⟨hbefore, hown, hrecord hown ▸ hafter⟩

end Inserted

/-- With a required token put among the tokens of a field, the fields still compile, and a rejected
record stays rejected but in one case: the field was not required, all that failed was checks of it
on an empty value, and the value is not empty where the token stands. -/
theorem rejected_of_inserted_required {strict : Bool} {before after : List (String × Spec)}
    {field : String} {spec spec' : Spec} {front back : List String}
    (h : spec.Inserts spec' front "required" back) {s : Schema}
    (hs : compileSchema strict (before ++ (field, spec) :: after) = .ok s) :
    ∃ s', compileSchema strict (before ++ (field, spec') :: after) = .ok s' ∧
      ∀ r, (s.validate r).accepted = false →
        ((s'.validate r).accepted = true ↔
          OnlyEmptyChecked (before.map fun p => p.2.chain strict p.1) (spec.chain strict field)
            ((spec.setting strict field).steps front) (after.map fun p => p.2.chain strict p.1)
            r) := by
  obtain ⟨hall, rfl⟩ := compileSchema_ok_iff.1 hs
  simp only [List.forall_mem_append, List.forall_mem_cons] at hall
  refine ⟨_, compileSchema_ok_iff.2 ⟨?_, rfl⟩, fun r hr => ?_⟩
  · simp only [List.forall_mem_append, List.forall_mem_cons]
    exact ⟨hall.1, (h.compiles_iff strict field).2 hall.2.1, hall.2.2⟩
  · have hchain := h.chain_eq strict field
    have hskips : (spec.chain strict field).isRequired = true → ∀ value,
        (spec'.chain strict field).skips value = (spec.chain strict field).skips value := by
      intro hreq value
      rw [hchain, Chain.skips, Chain.skips, hreq]
    have hfield : (spec'.chain strict field).field = (spec.chain strict field).field := rfl
    exact accepted_insert_required_iff hfield (h.steps_chain strict field) (by rw [hchain])
      (by rw [hchain]) hskips Spec.isRequired_chain List.map_append List.map_append hr

/-- The nickname is missing where its bound is checked, and has its default where the token stands;
the fields around it have no failure. -/
theorem rejected_of_inserted_required_nick :
    let spec := Spec.pipe "min:3|default:Guest|string"
    let spec' := Spec.pipe "min:3|default:Guest|required|string"
    let before := [("name", Spec.pipe "required")]
    let after := [("copy", Spec.pipe "same:nick")]
    let r : Record := [("name", .string "Ann"), ("copy", .string "Guest")]
    spec.Inserts spec' ["min:3", "default:Guest"] "required" ["string"] ∧
      ∃ s, compileSchema false (before ++ ("nick", spec) :: after) = .ok s ∧
        (s.validate r).accepted = false ∧
        ∃ s', compileSchema false (before ++ ("nick", spec') :: after) = .ok s' ∧
          ((s'.validate r).accepted = true ↔
            OnlyEmptyChecked (before.map fun p => p.2.chain false p.1) (spec.chain false "nick")
              ((spec.setting false "nick").steps ["min:3", "default:Guest"])
              (after.map fun p => p.2.chain false p.1) r) := by
  intro spec spec' before after r
  have hinserts : spec.Inserts spec' ["min:3", "default:Guest"] "required" ["string"] :=
    ⟨by decide +kernel, by decide +kernel, rfl⟩
  have hrejected : ((compileSchema false (before ++ ("nick", spec) :: after)).map
      fun s => (s.validate r).accepted).toOption = some false := by decide +kernel
  cases hs : compileSchema false (before ++ ("nick", spec) :: after) with
  | error e =>
      rw [hs] at hrejected
      cases hrejected
  | ok s =>
      rw [hs] at hrejected
      have hr : (s.validate r).accepted = false := Option.some.inj hrejected
      obtain ⟨s', hs', hiff⟩ := rejected_of_inserted_required hinserts hs
      exact ⟨hinserts, s, rfl, hr, s', hs', hiff r hr⟩

/-- The bound fails on the missing value, but the default fills it in before the required step. -/
theorem required_token_decides_acceptance :
    let accepts := fun spec =>
      ((compileSchema false [("f", spec)]).map fun s => (s.validate []).accepted).toOption
    (Spec.pipe "min:3|default:abc").Inserts (.pipe "min:3|default:abc|required")
        ["min:3", "default:abc"] "required" [] ∧
      accepts (.pipe "min:3|default:abc") = some false ∧
      accepts (.pipe "min:3|default:abc|required") = some true :=
  ⟨⟨by decide +kernel, by decide +kernel, rfl⟩, by decide +kernel, by decide +kernel⟩

end FieldRules
