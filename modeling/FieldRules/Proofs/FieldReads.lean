import FieldRules.Proofs.ChainSteps
import FieldRules.Value.Equality

/-!
# What a field depends on

A field reads its own value and the values of the fields that its relations name, and nothing else.
Chains share one record and earlier ones rewrite what later ones read, but each writes to its own
field, and what it writes there depends on that field's value alone. So two records that agree on
some fields agree on them behind every chain, and a field is treated alike in two records that agree
on all that it reads.
-/

namespace FieldRules

namespace Record

def AgreeOn (keys : List String) (r r' : Record) : Prop := ∀ key ∈ keys, r.get? key = r'.get? key

instance (keys : List String) (r r' : Record) : Decidable (AgreeOn keys r r') :=
  inferInstanceAs (Decidable (∀ key ∈ keys, _))

theorem get?_put (r : Record) (key other : String) (value : Option Value) :
    (r.put key value).get? other = if key = other then value.or (r.get? other) else r.get? other := by
  cases value with
  | none => simp [put]
  | some v => simp [put, get?_insert]

theorem AgreeOn.put {keys : List String} {r r' : Record} (h : AgreeOn keys r r') (key : String)
    (value : Option Value) : AgreeOn keys (r.put key value) (r'.put key value) := by
  intro other hother
  rw [get?_put, get?_put, h other hother]

end Record

open Record (AgreeOn)

namespace Relation

def other : Relation → String
  | same other => other
  | requiredIf c => c.field
  | requiredUnless c => c.field
  | prohibitedIf c => c.field

theorem accepts_congr {k : Relation} {r r' : Record} (h : r.get? k.other = r'.get? k.other)
    (value : Option Value) : k.accepts value r = k.accepts value r' := by
  cases k with
  | same other =>
      simp only [accepts]
      rw [show r.get? other = r'.get? other from h]
  | requiredIf c | requiredUnless c | prohibitedIf c =>
      have hc : c.holds r = c.holds r' := by
        simp only [Condition.holds]
        rw [show r.get? c.field = r'.get? c.field from h]
      simp only [accepts, hc]

end Relation

namespace Step

def other? : Step → Option String
  | .check (.relation k) => some k.other
  | _ => none

end Step

namespace Chain

/-- The fields that the chain reads: its own and those that its relations name. -/
def reads (c : Chain) : List String := c.field :: c.steps.filterMap Step.other?

theorem events_turn_congr {c : Chain} {s : Step} (hs : ∀ rule, s ≠ .check (.custom rule))
    {r r' : Record} (hfield : r.get? c.field = r'.get? c.field)
    (hother : ∀ other, s.other? = some other → r.get? other = r'.get? other) :
    (c.turn r s).events = (c.turn r' s).events := by
  cases s with
  | required => rw [events_turn_required, events_turn_required, hfield]
  | transform t => rw [events_turn_transform, events_turn_transform, hfield]
  | check k =>
      rw [events_turn_check, events_turn_check, hfield]
      cases k with
      | relation k => rw [Check.run, Check.run, Relation.accepts_congr (hother k.other rfl)]
      | custom rule => exact absurd rfl (hs rule)
      | _ => rfl

theorem events_runSteps_congr {c : Chain} {steps : List Step}
    (hs : ∀ rule, .check (.custom rule) ∉ steps) {r r' : Record}
    (h : AgreeOn (c.field :: steps.filterMap Step.other?) r r') :
    (c.runSteps steps r).events = (c.runSteps steps r').events := by
  induction steps generalizing r r' with
  | nil => rfl
  | cons s rest ih =>
      have hfield : r.get? c.field = r'.get? c.field := h c.field List.mem_cons_self
      have hstep : (c.turn r s).events = (c.turn r' s).events := by
        refine events_turn_congr (fun rule hrule => hs rule (hrule ▸ List.mem_cons_self)) hfield
          fun other hother => h other (List.mem_cons_of_mem _ ?_)
        exact List.mem_filterMap.2 ⟨s, List.mem_cons_self, hother⟩
      have hrest : AgreeOn (c.field :: rest.filterMap Step.other?) r r' := fun key hkey =>
        h key ((List.sublist_cons_self s rest).filterMap _ |>.cons_cons _ |>.mem hkey)
      rw [events_runSteps_cons, events_runSteps_cons, hstep, hfield,
        ih (fun rule hrule => hs rule (List.mem_cons_of_mem s hrule)) (hrest.put c.field _)]

theorem agreeOn_run (c : Chain) {keys : List String} {r r' : Record} (h : AgreeOn keys r r') :
    AgreeOn keys (c.run r).record (c.run r').record := by
  intro key hkey
  by_cases hc : c.field = key
  · subst hc
    rw [run, run, get?_runSteps_self, get?_runSteps_self, h c.field hkey]
  · rw [run, run, get?_runSteps_of_ne _ _ _ hc, get?_runSteps_of_ne _ _ _ hc, h key hkey]

end Chain

theorem agreeOn_runChains (cs : List Chain) {keys : List String} {r r' : Record}
    (h : AgreeOn keys r r') : AgreeOn keys (runChains cs r).record (runChains cs r').record := by
  induction cs generalizing r r' with
  | nil => exact h
  | cons c rest ih => exact ih (c.agreeOn_run h)

/-- The events on a field are the same in two records that agree on all that its chains read. -/
theorem events_on_runChains_congr {cs : List Chain} {field : String} {keys : List String}
    (hcs : ∀ c ∈ cs, c.field = field → c.Uncustomized ∧ ∀ key ∈ c.reads, key ∈ keys)
    {r r' : Record} (h : AgreeOn keys r r') :
    (runChains cs r).events.filter (fun e => e.field = field) =
      (runChains cs r').events.filter fun e => e.field = field := by
  induction cs generalizing r r' with
  | nil => rfl
  | cons c rest ih =>
      have hrest := ih (fun d hd => hcs d (List.mem_cons_of_mem c hd)) (c.agreeOn_run h)
      rw [runChains, runChains, List.filter_append, List.filter_append, hrest]
      by_cases hc : c.field = field
      · obtain ⟨hplain, hreads⟩ := hcs c List.mem_cons_self hc
        have hrun : (c.run r).events = (c.run r').events :=
          Chain.events_runSteps_congr hplain fun key hkey => h key (hreads key hkey)
        rw [hrun]
      · have hnone (r : Record) : (c.run r).events.filter (fun e => e.field = field) = [] := by
          refine List.filter_eq_nil_iff.2 fun e he => ?_
          rw [Chain.field_of_mem_runSteps he]
          simpa using hc
        rw [hnone, hnone]

namespace Schema

/-- The fields that decide about a field: the field itself and those that its relations name. -/
def reads (s : Schema) (field : String) : List String :=
  field :: (s.chains.filter fun c => c.field = field).flatMap fun c => c.steps.filterMap Step.other?

def messagesOn (s : Schema) (field : String) (r : Record) : List String :=
  messagesOf ((s.run r).events.filter fun e => e.field = field)

end Schema

/-- However two records differ elsewhere, a field that reads the same in both has the same value
and the same messages in the end. -/
theorem field_outcome_of_agreeOn_reads {s : Schema} {field : String}
    (hs : ∀ c ∈ s.chains, c.field = field → c.Uncustomized) {r r' : Record}
    (h : AgreeOn (s.reads field) r r') :
    (s.validate r).record.get? field = (s.validate r').record.get? field ∧
      s.messagesOn field r = s.messagesOn field r' := by
  have hreads : ∀ c ∈ s.chains, c.field = field → ∀ key ∈ c.reads, key ∈ s.reads field := by
    rintro c hc rfl key hkey
    rcases List.mem_cons.1 hkey with rfl | hkey
    · exact List.mem_cons_self
    · refine List.mem_cons_of_mem _ (List.mem_flatMap.2 ⟨c, ?_, hkey⟩)
      exact List.mem_filter.2 ⟨hc, by simp⟩
  constructor
  · exact agreeOn_runChains s.chains h field List.mem_cons_self
  · exact congrArg messagesOf
      (events_on_runChains_congr (fun c hc hf => ⟨hs c hc hf, hreads c hc hf⟩) h)

/-- The name is compared with a cleaned alias; the age, which differs, is read by neither. -/
theorem field_outcome_of_agreeOn_reads_name :
    let r : Record := [("alias", .string " Ann "), ("age", .null), ("name", .string "Bob")]
    let r' : Record := [("name", .string "Bob"), ("alias", .string " Ann ")]
    ∃ s, compileSchema true
        [("alias", .pipe "sanitize"), ("age", .pipe "default:7|integer"),
          ("name", .pipe "string|same:alias|prohibited_if:alias,Ann")] = .ok s ∧
      (∀ c ∈ s.chains, c.field = "name" → c.Uncustomized) ∧ AgreeOn (s.reads "name") r r' ∧
      (s.validate r).record.get? "name" = (s.validate r').record.get? "name" ∧
      s.messagesOn "name" r = s.messagesOn "name" r' := by
  intro r r'
  have hs : compileSchema true
      [("alias", .pipe "sanitize"), ("age", .pipe "default:7|integer"),
        ("name", .pipe "string|same:alias|prohibited_if:alias,Ann")] = .ok _ := rfl
  have hplain := uncustomized_of_compileSchema hs (by simp [Spec.customs])
  exact ⟨_, hs, fun c hc _ => hplain c hc, by decide +kernel,
    field_outcome_of_agreeOn_reads (fun c hc _ => hplain c hc) (by decide +kernel)⟩

end FieldRules
