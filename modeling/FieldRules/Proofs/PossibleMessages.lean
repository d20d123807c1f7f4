import FieldRules.Proofs.ChainSteps
import FieldRules.Schema.Compile
import Mathlib.Data.List.Basic
import Mathlib.Data.List.Forall2

/-!
# The messages that a schema can give

A message names the field and repeats what the rule says; nothing of the submitted value goes into
it. So the messages of a schema can be listed before any record is seen, one for each step that can
fail, and what a record is told is a part of that list in its order. Custom rules word their own
messages and are left out here.
-/

namespace FieldRules

namespace Check

def message? (field : String) : Check → Option String
  | type name => some (name.message field)
  | bound b => some (b.message field)
  | relation k => some (k.message field)
  | custom _ => none

end Check

namespace Step

def canFail : Step → Bool
  | .transform (.default _) => false
  | _ => true

def message? (field : String) : Step → Option String
  | .required => some s!"{field} is required"
  | .transform (.default _) => none
  | .transform (.sanitize _) => some s!"{field} is nested too deeply"
  | .check k => k.message? field

def refusal? : Step → Option TooDeep
  | .transform (.sanitize s) => some ⟨s.maxDepth⟩
  | _ => none

def failureEvents (field : String) (value : Option Value) (s : Step) : List Event :=
  s.refusal?.toList.map (.refused field) ++ (s.message? field).toList.map (.failed field value)

theorem messagesOf_failureEvents (field : String) (value : Option Value) (s : Step) :
    messagesOf (s.failureEvents field value) = (s.message? field).toList := by
  rw [failureEvents, messagesOf_append]
  cases s.refusal? <;> cases s.message? field <;> rfl

end Step

theorem Transform.refusal_of_apply_error {t : Transform} {value : Option Value} {e : TooDeep}
    (h : t.apply value = .error e) : Step.refusal? (.transform t) = some e := by
  cases t with
  | default literal => cases h
  | sanitize s =>
      cases value with
      | none => cases h
      | some v =>
          rw [apply, Sanitizer.sanitize] at h
          cases hv : Sanitizer.cleanWithin s.maxDepth v with
          | none =>
              rw [hv] at h
              exact congrArg some (Except.error.inj h)
          | some w =>
              rw [hv] at h
              cases h

theorem Check.run_eq_nil_or {k : Check} (hk : ∀ rule, k ≠ .custom rule) (field : String)
    (value : Option Value) (r : Record) :
    k.run field value r = [] ∨
      k.run field value r = Step.failureEvents field value (.check k) := by
  cases k with
  | custom rule => exact absurd rfl (hk rule)
  | _ =>
      rw [run]
      split
      · exact .inl rfl
      · exact .inr rfl

namespace Chain

/-- A step does nothing but change the record, or it fails. -/
theorem events_turn_eq_nil_or {s : Step} (hs : ∀ rule, s ≠ .check (.custom rule)) (c : Chain)
    (r : Record) :
    (c.turn r s).events = [] ∨ (c.turn r s).events = s.failureEvents c.field (r.get? c.field) := by
  cases s with
  | required =>
      rw [events_turn_required]
      split
      · exact .inr rfl
      · exact .inl rfl
  | transform t =>
      rw [events_turn_transform]
      cases h : t.apply (r.get? c.field) with
      | ok v => exact .inl rfl
      | error e =>
          refine .inr ?_
          rw [Step.failureEvents, Transform.refusal_of_apply_error h]
          cases t with
          | default literal => cases h
          | sanitize s => rfl
  | check k =>
      rw [events_turn_check]
      split
      · exact .inl rfl
      · exact Check.run_eq_nil_or (fun rule hk => hs rule (congrArg _ hk)) _ _ r

/-- A step gives at most one message, and not another one than its own. -/
theorem messages_turn_sublist {s : Step} (hs : ∀ rule, s ≠ .check (.custom rule)) (c : Chain)
    (r : Record) : (messagesOf (c.turn r s).events).Sublist (s.message? c.field).toList := by
  rcases c.events_turn_eq_nil_or hs r with h | h
  · rw [h]
    exact List.nil_sublist _
  · rw [h, Step.messagesOf_failureEvents]

theorem messages_runSteps_sublist {c : Chain} {steps : List Step}
    (hs : ∀ rule, .check (.custom rule) ∉ steps) (r : Record) :
    (messagesOf (c.runSteps steps r).events).Sublist
      (steps.filterMap (Step.message? c.field)) := by
  induction steps generalizing r with
  | nil => exact .refl _
  | cons s rest ih =>
      have hstep := c.messages_turn_sublist (s := s)
        (fun rule hrule => hs rule (hrule ▸ List.mem_cons_self)) r
      rw [events_runSteps_cons, messagesOf_append, List.filterMap_eq_flatMap_toList,
        List.flatMap_cons, ← List.filterMap_eq_flatMap_toList]
      refine hstep.append ?_
      split
      · exact List.nil_sublist _
      · exact ih (fun rule hrule => hs rule (List.mem_cons_of_mem s hrule)) _

end Chain

namespace Schema

def fallible (s : Schema) : List (String × Step) :=
  s.chains.flatMap fun c => (c.steps.filter Step.canFail).map fun step => (c.field, step)

def possibleMessages (s : Schema) : List String :=
  s.chains.flatMap fun c => c.steps.filterMap (Step.message? c.field)

end Schema

theorem Step.forall₂_filterMap_message? {steps : List Step} {field : String}
    (hs : ∀ rule, .check (.custom rule) ∉ steps) :
    List.Forall₂ (fun (p : String × Step) message => p.2.message? p.1 = some message)
      ((steps.filter Step.canFail).map fun step => (field, step))
      (steps.filterMap (Step.message? field)) := by
  induction steps with
  | nil => exact .nil
  | cons s rest ih =>
      have hrest := ih fun rule hrule => hs rule (List.mem_cons_of_mem s hrule)
      cases s with
      | required => exact .cons rfl hrest
      | transform t =>
          cases t with
          | default literal => exact hrest
          | sanitize san => exact .cons rfl hrest
      | check k =>
          cases k with
          | custom rule => exact absurd List.mem_cons_self (hs rule)
          | _ => exact .cons rfl hrest

theorem messages_runChains_sublist {cs : List Chain} (hc : ∀ c ∈ cs, c.Uncustomized)
    (r : Record) :
    (messagesOf (runChains cs r).events).Sublist
      (cs.flatMap fun c => c.steps.filterMap (Step.message? c.field)) := by
  induction cs generalizing r with
  | nil => exact .refl _
  | cons c rest ih =>
      rw [runChains, messagesOf_append, List.flatMap_cons]
      exact (Chain.messages_runSteps_sublist (hc c List.mem_cons_self) r).append
        (ih (fun d hd => hc d (List.mem_cons_of_mem c hd)) _)

/-- Without custom rules the messages are known from the schema alone: the list has one for each
required, sanitizing and checking step, and every record is told a part of it in its order. -/
theorem errors_sublist_possibleMessages {s : Schema} (hs : ∀ c ∈ s.chains, c.Uncustomized) :
    List.Forall₂ (fun (p : String × Step) message => p.2.message? p.1 = some message)
        s.fallible s.possibleMessages ∧
      ∀ r, (s.validate r).errors.Sublist s.possibleMessages := by
  refine ⟨?_, fun r => messages_runChains_sublist hs r⟩
  rw [Schema.fallible, Schema.possibleMessages]
  generalize s.chains = cs at hs
  induction cs with
  | nil => exact .nil
  | cons c rest ih =>
      rw [List.flatMap_cons, List.flatMap_cons]
      exact List.rel_append (Step.forall₂_filterMap_message? (hs c List.mem_cons_self))
        (ih fun d hd => hs d (List.mem_cons_of_mem c hd))

/-- Steps of all kinds over two fields. -/
theorem errors_sublist_possibleMessages_name_role :
    ∃ s, compileSchema true
        [("name", .pipe "sanitize|required|min:3|default:x"),
          ("role", .pipe "in:a,b|required_if:name,Ann")] = .ok s ∧
      (∀ c ∈ s.chains, c.Uncustomized) ∧
      List.Forall₂ (fun (p : String × Step) message => p.2.message? p.1 = some message)
        s.fallible s.possibleMessages ∧
      ∀ r, (s.validate r).errors.Sublist s.possibleMessages := by
  have hok : (compileSchema true
      [("name", .pipe "sanitize|required|min:3|default:x"),
        ("role", .pipe "in:a,b|required_if:name,Ann")]).toOption.isSome = true := by
    decide +kernel
  cases hs : compileSchema true
      [("name", .pipe "sanitize|required|min:3|default:x"),
        ("role", .pipe "in:a,b|required_if:name,Ann")] with
  | error e =>
      rw [hs] at hok
      cases hok
  | ok s =>
      have hplain : ∀ c ∈ s.chains, c.Uncustomized :=
        uncustomized_of_compileSchema hs (by simp [Spec.customs])
      exact ⟨s, rfl, hplain, errors_sublist_possibleMessages hplain⟩

example : ((compileSchema true [("name", .pipe "sanitize|required|min:3|default:x")]).map
    Schema.possibleMessages).toOption =
      some ["name is nested too deeply", "name is required",
        "name must be at least 3 characters"] := by
  decide +kernel

end FieldRules
