import FieldRules.Proofs.FieldOrder
import FieldRules.Proofs.FilledValue
import Mathlib.Data.List.TakeWhile

/-!
# Validating a returned record

A record that a schema without sanitizing steps has returned is left alone by each of its chains, by
the earlier ones of a field as well as by the last: what one chain has made of the value, the later
ones may fill in, but not so that an earlier one would change it again. So validating the returned
record returns it once more.

The messages may differ, since in the first run a step may meet a value that a default replaces
later. They do not where every step meets final values: where the defaults of a field come first in
its chain, and fields with defaults come before the fields that read them.
-/

namespace FieldRules

namespace Chain

def Leaves (c : Chain) (r : Record) : Prop := (c.run r).record = r

theorem leaves_iff {c : Chain} {r : Record} :
    c.Leaves r ↔ Step.valueAfter c.steps (r.get? c.field) = r.get? c.field := by
  constructor
  · intro h
    rw [← get?_runSteps_self]
    exact congrArg (·.get? c.field) h
  · intro h
    rw [Leaves, run, record_runSteps, h, r.put_get?]

theorem leaves_run {c : Chain} (h : c.Unsanitized) (r : Record) : c.Leaves (c.run r).record := by
  rw [leaves_iff, run, get?_runSteps_self]
  exact Step.valueAfter_valueAfter h _

theorem Leaves.run {c d : Chain} (hc : c.Unsanitized) (hd : d.Unsanitized) {r : Record}
    (h : c.Leaves r) : c.Leaves (d.run r).record := by
  rw [leaves_iff] at h ⊢
  by_cases hfield : d.field = c.field
  · rw [← hfield] at h ⊢
    rw [Chain.run, get?_runSteps_self]
    exact Step.valueAfter_eq_self_of_eq_self hc hd h
  · rw [Chain.run, get?_runSteps_of_ne _ _ _ hfield]
    exact h

end Chain

theorem leaves_runChains_of_leaves {c : Chain} (hc : c.Unsanitized) {cs : List Chain}
    (hcs : ∀ d ∈ cs, d.Unsanitized) {r : Record} (h : c.Leaves r) :
    c.Leaves (runChains cs r).record := by
  induction cs generalizing r with
  | nil => exact h
  | cons d rest ih =>
      exact ih (fun e he => hcs e (List.mem_cons_of_mem d he)) (h.run hc (hcs d List.mem_cons_self))

/-- Each of the chains leaves alone what they have returned together. -/
theorem leaves_runChains {cs : List Chain} (hcs : ∀ c ∈ cs, c.Unsanitized) (r : Record) :
    ∀ c ∈ cs, c.Leaves (runChains cs r).record := by
  induction cs generalizing r with
  | nil => exact List.forall_mem_nil _
  | cons c rest ih =>
      obtain ⟨hc, hrest⟩ := List.forall_mem_cons.1 hcs
      refine List.forall_mem_cons.2 ⟨?_, ih hrest (c.run r).record⟩
      exact leaves_runChains_of_leaves hc hrest (c.leaves_run hc r)

theorem record_runChains_of_leaves {cs : List Chain} {r : Record} (h : ∀ c ∈ cs, c.Leaves r) :
    (runChains cs r).record = r := by
  induction cs with
  | nil => rfl
  | cons c rest ih =>
      obtain ⟨hc, hrest⟩ := List.forall_mem_cons.1 h
      rw [runChains, show (c.run r).record = r from hc]
      exact ih hrest

/-- Accepted or not, a record that a schema without sanitizing steps returned is returned again: the
same keys in the same order with the same values. -/
theorem record_of_returned_record {s : Schema} (h : ∀ c ∈ s.chains, c.Unsanitized) (r : Record) :
    (s.validate (s.validate r).record).record = (s.validate r).record :=
  record_runChains_of_leaves (leaves_runChains h r)

/-- A nickname with two chains, of which the first may end before its second default, and a rule of
the caller's own. -/
theorem record_of_returned_record_nick :
    let free : CustomRule := ⟨"free", fun c => .ok (c.value != some (.string "Guest"))⟩
    let specs := [("nick", Spec.pipe "default:|required|default:Guest"),
      ("nick", .list [.custom free, .token "alpha", .token "default:Guest"])]
    ∃ s, compileSchema true specs = .ok s ∧ (∀ c ∈ s.chains, c.Unsanitized) ∧
      ∀ r, (s.validate (s.validate r).record).record = (s.validate r).record := by
  intro free specs
  let s : Schema := ⟨(compileFields true specs).filterMap FieldReport.chain?, []⟩
  have hs : compileSchema true specs = .ok s := rfl
  have hclean : ∀ c ∈ s.chains, c.Unsanitized := by decide +kernel
  exact ⟨s, hs, hclean, record_of_returned_record hclean⟩

namespace Chain

/-- Behind its leading default steps the chain has none. -/
def DefaultsFirst (c : Chain) : Prop :=
  ∀ s ∈ c.steps.dropWhile Step.isDefault, s.isDefault = false

instance (c : Chain) : Decidable c.DefaultsFirst :=
  inferInstanceAs (Decidable (∀ s ∈ c.steps.dropWhile Step.isDefault, s.isDefault = false))

end Chain

namespace Step

theorem ends_of_isDefault {steps : List Step} (h : ∀ s ∈ steps, s.isDefault = true)
    (v : Option Value) : ends steps v = false := by
  induction steps generalizing v with
  | nil => rfl
  | cons s rest ih =>
      obtain ⟨hs, hrest⟩ := List.forall_mem_cons.1 h
      cases s with
      | transform t => exact ih hrest (t.result v)
      | required => cases hs
      | check k => cases hs

theorem ne_transform {s : Step} (hdefault : s.isDefault = false) (hclean : s.isSanitizer = false)
    (t : Transform) : s ≠ .transform t := by
  rintro rfl
  cases t with
  | default literal => cases hdefault
  | sanitize san => cases hclean

end Step

namespace Chain

theorem events_runSteps_of_isDefault (c : Chain) {steps : List Step}
    (h : ∀ s ∈ steps, s.isDefault = true) (r : Record) : (c.runSteps steps r).events = [] := by
  induction steps generalizing r with
  | nil => rfl
  | cons s rest ih =>
      obtain ⟨hs, hrest⟩ := List.forall_mem_cons.1 h
      rw [events_runSteps_cons, ih hrest, ite_self, List.append_nil]
      cases s with
      | required => cases hs
      | check k => cases hs
      | transform t =>
          cases t with
          | default literal => rw [events_turn_transform]; rfl
          | sanitize san => cases hs

theorem hasDefault_iff {c : Chain} :
    c.hasDefault = true ↔ ∃ s ∈ c.steps, s.isDefault = true := by
  simp only [hasDefault, List.any_eq_true, mem_transforms]
  constructor
  · rintro ⟨t, ht, htrue⟩
    cases t with
    | default literal => exact ⟨_, ht, rfl⟩
    | sanitize san => cases htrue
  · rintro ⟨s, hs, htrue⟩
    cases s with
    | transform t =>
        cases t with
        | default literal => exact ⟨_, hs, rfl⟩
        | sanitize san => cases htrue
    | required => cases htrue
    | check k => cases htrue

/-- The steps behind the defaults all meet the value that the chain leaves. -/
theorem events_run_of_defaultsFirst {c : Chain} (hclean : c.Unsanitized)
    (hfirst : c.DefaultsFirst) (r : Record) :
    (c.run r).events = (c.runSteps (c.steps.dropWhile Step.isDefault) (c.run r).record).events := by
  have hsteps := List.takeWhile_append_dropWhile (p := Step.isDefault) (l := c.steps)
  have hfront : ∀ s ∈ c.steps.takeWhile Step.isDefault, s.isDefault = true :=
    fun s hs => List.mem_takeWhile_imp hs
  have hback : ∀ t, .transform t ∉ c.steps.dropWhile Step.isDefault := fun t ht =>
    Step.ne_transform (hfirst _ ht) (hclean _ ((List.dropWhile_sublist _).mem ht)) t rfl
  have hends := Step.ends_of_isDefault hfront (r.get? c.field)
  have hvalue := Step.valueAfter_append hends (c.steps.dropWhile Step.isDefault)
  rw [hsteps, Step.valueAfter_of_inert (Step.inert_of_transform_notMem hback _)] at hvalue
  have hevents := c.events_runSteps_append (c.steps.takeWhile Step.isDefault)
    (c.steps.dropWhile Step.isDefault) r
  rw [hsteps, c.events_runSteps_of_isDefault hfront, hends, if_neg Bool.false_ne_true,
    List.nil_append] at hevents
  rw [run, hevents, record_runSteps, hvalue]

/-- Such a chain reports the same on its own result, and on any record that agrees with it on what
the chain reads. -/
theorem events_run_eq {c : Chain} (hclean : c.Unsanitized) (hplain : c.Uncustomized)
    (hfirst : c.DefaultsFirst) {q r : Record} (hleaves : c.Leaves r)
    (hagree : Record.AgreeOn c.reads (c.run q).record r) : (c.run q).events = (c.run r).events := by
  rw [events_run_of_defaultsFirst hclean hfirst, events_run_of_defaultsFirst hclean hfirst,
    show (c.run r).record = r from hleaves]
  have hsub := List.dropWhile_sublist (l := c.steps) Step.isDefault
  refine events_runSteps_congr (fun rule hrule => hplain rule (hsub.mem hrule)) ?_
  exact fun key hkey => hagree key (((hsub.filterMap _).cons_cons c.field).mem hkey)

end Chain

namespace Schema

/-- A field with a default stands before every other field that names it. -/
def DefaultsAhead (s : Schema) : Prop :=
  ∀ d ∈ s.chains, d.hasDefault = true → ∀ c ∈ s.chains, d.field ∈ c.reads → d.field ≠ c.field →
    [d.field, c.field].Sublist (s.chains.map Chain.field)

instance (s : Schema) : Decidable s.DefaultsAhead :=
  inferInstanceAs (Decidable (∀ d ∈ s.chains, _ → ∀ c ∈ s.chains, _ → _ → _))

variable {s : Schema} {c : Chain} {front back : List Chain}

/-- A chain finds in the other fields that it reads what the run returns in them. -/
theorem agreeOn_reads (hd : (s.chains.map Chain.field).Nodup)
    (hclean : ∀ c ∈ s.chains, c.Unsanitized) (hahead : s.DefaultsAhead)
    (hs : s.chains = front ++ c :: back) (r : Record) :
    Record.AgreeOn c.reads (c.run (runChains front r).record).record (s.validate r).record := by
  have hc : c ∈ s.chains := hs ▸ List.mem_append_right _ List.mem_cons_self
  intro key hkey
  by_cases hown : c.field = key
  · subst hown
    rw [get?_validate hd hc, Chain.run, Chain.get?_runSteps_self, get?_before_chain hd hs]
  · rw [Chain.run, Chain.get?_runSteps_of_ne _ _ _ hown]
    by_cases hdefault : ∃ d ∈ s.chains, d.field = key ∧ d.hasDefault = true
    · -- the other field has its final value already
      obtain ⟨d, hdmem, rfl, htrue⟩ := hdefault
      have hbefore := hahead d hdmem htrue c hc hkey (Ne.symm hown)
      have hmem : d.field ∈ front.map Chain.field := by
        rw [hs, List.map_append, List.map_cons] at hd hbefore
        exact (mem_front_iff hd).2 hbefore
      have hsub : front.Sublist s.chains := hs ▸ List.sublist_append_left _ _
      exact get?_runChains_congr hd (fun e he => hsub.mem he) (fun e he => he)
        ((hsub.map _).nodup hd) hd (iff_of_true hmem (List.mem_map_of_mem hdmem)) r
    · -- no chain of the schema writes to the other field
      have huntouched : ∀ e ∈ s.chains, e.field = key → e.transforms = [] := by
        intro e he hfield
        refine List.eq_nil_iff_forall_not_mem.2 fun t ht => ?_
        have hstep := Chain.mem_transforms.1 ht
        cases hkind : Step.isDefault (.transform t) with
        | true => exact hdefault ⟨e, he, hfield, Chain.hasDefault_iff.2 ⟨_, hstep, hkind⟩⟩
        | false => exact Step.ne_transform hkind (hclean e he _ hstep) t rfl
      have hfront : ∀ e ∈ front, e.field = key → e.transforms = [] := fun e he =>
        huntouched e (hs ▸ List.mem_append_left _ he)
      rw [get?_runChains_of_untransformed hfront]
      exact (get?_runChains_of_untransformed huntouched r).symm

theorem messagesOn_of_returned_record (hd : (s.chains.map Chain.field).Nodup)
    (hclean : ∀ c ∈ s.chains, c.Unsanitized) (hplain : ∀ c ∈ s.chains, c.Uncustomized)
    (hfirst : ∀ c ∈ s.chains, c.DefaultsFirst) (hahead : s.DefaultsAhead) (hc : c ∈ s.chains)
    (r : Record) :
    s.messagesOn c.field (s.validate r).record = s.messagesOn c.field r := by
  obtain ⟨front, back, hs⟩ := List.append_of_mem hc
  have hleaves := leaves_runChains hclean r
  have hfront : (runChains front (s.validate r).record).record = (s.validate r).record :=
    record_runChains_of_leaves fun e he => hleaves e (hs ▸ List.mem_append_left _ he)
  have hagree := agreeOn_reads hd hclean hahead hs r
  have hevents := Chain.events_run_eq (hclean c hc) (hplain c hc) (hfirst c hc) (hleaves c hc)
    hagree
  rw [hs] at hd
  rw [messagesOn, messagesOn, run, run, hs, filter_events_runChains hd, filter_events_runChains hd,
    hfront, hevents]
  rfl

end Schema

/-- Where the defaults of every field come first, and before the other fields that name it, a record
that was returned has its outcome again: the same record, and the same messages in the same order.
-/
theorem outcome_of_returned_record {s : Schema} (hd : (s.chains.map Chain.field).Nodup)
    (hclean : ∀ c ∈ s.chains, c.Unsanitized) (hplain : ∀ c ∈ s.chains, c.Uncustomized)
    (hfirst : ∀ c ∈ s.chains, c.DefaultsFirst) (hahead : s.DefaultsAhead) (r : Record) :
    s.validate (s.validate r).record = s.validate r := by
  have hrecord : (s.validate (s.validate r).record).record = (s.validate r).record :=
    record_runChains_of_leaves (leaves_runChains hclean r)
  have herrors : (s.validate (s.validate r).record).errors = (s.validate r).errors := by
    rw [s.errors_eq_flatMap hd, s.errors_eq_flatMap hd]
    refine List.flatMap_congr fun field hfield => ?_
    obtain ⟨c, hc, rfl⟩ := List.mem_map.1 hfield
    exact Schema.messagesOn_of_returned_record hd hclean hplain hfirst hahead hc r
  exact congrArg₂ Outcome.mk hrecord herrors

/-- The code is compared with the final role and with a field that no rule fills in. -/
theorem outcome_of_returned_record_role_code :
    let specs := [("role", Spec.pipe "default:|default:user|alpha"),
      ("code", .pipe "default:none|required|required_if:role,user|same:secret")]
    ∃ s, compileSchema true specs = .ok s ∧ (s.chains.map Chain.field).Nodup ∧
      (∀ c ∈ s.chains, c.Unsanitized) ∧ (∀ c ∈ s.chains, c.Uncustomized) ∧
      (∀ c ∈ s.chains, c.DefaultsFirst) ∧ s.DefaultsAhead ∧
      ∀ r, s.validate (s.validate r).record = s.validate r := by
  intro specs
  let s : Schema := ⟨(compileFields true specs).filterMap FieldReport.chain?, []⟩
  have hs : compileSchema true specs = .ok s := rfl
  have hplain : ∀ c ∈ s.chains, c.Uncustomized :=
    uncustomized_of_compileSchema hs (by simp [specs, Spec.customs])
  have hconditions : (s.chains.map Chain.field).Nodup ∧ (∀ c ∈ s.chains, c.Unsanitized) ∧
      (∀ c ∈ s.chains, c.DefaultsFirst) ∧ s.DefaultsAhead := by
    decide +kernel
  obtain ⟨hd, hclean, hfirst, hahead⟩ := hconditions
  exact ⟨s, hs, hd, hclean, hplain, hfirst, hahead,
    outcome_of_returned_record hd hclean hplain hfirst hahead⟩

/-- A default behind a check, and a default behind a field that names its field: a rejected record
is accepted when it comes again, and an accepted one is rejected. -/
example :
    let twice := fun specs => (compileSchema true specs).toOption.map fun s =>
      ((s.validate []).errors, (s.validate (s.validate []).record).errors)
    twice [("name", .pipe "alpha|default:Ann")] = some (["name must be alphabetic"], []) ∧
      twice [("code", .pipe "required_if:role,user"), ("role", .pipe "default:user")] =
        some ([], ["code is required when role is user"]) := by
  decide +kernel

end FieldRules
