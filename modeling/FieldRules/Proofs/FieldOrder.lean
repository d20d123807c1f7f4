import FieldRules.Proofs.FieldReads
import FieldRules.Proofs.ReturnedKeys
import Mathlib.Data.List.Nodup
import Mathlib.Data.List.Perm.Basic

/-!
# The order of the fields

A chain meets the submitted value of its own field, and of another field the submitted or the final
value, as that field's chain stands behind it or before it. So a permutation of the fields shows
only between fields of which one names the other. The main statement is about permutations that keep
the order of such fields: the values, and the messages of each single field, do not notice them.
-/

namespace FieldRules

namespace Rule

def other? : Rule → Option String
  | same other => some other
  | requiredIf c | requiredUnless c | prohibitedIf c => some c.field
  | _ => none

theorem other?_of_placement {field : String} {m : Measure} {rule : Rule} {step : Step}
    (h : rule.placement field m = .ok (.step step)) : rule.other? = step.other? := by
  cases rule with
  | format pattern =>
      obtain ⟨compiled, hp⟩ := exists_of_placement_format h
      cases hp
      rfl
  | optional | nullable => simp [placement] at h
  | _ =>
      simp only [placement, Except.ok.injEq, Placement.step.injEq] at h
      rw [← h]
      rfl

end Rule

namespace Spec

def Names (spec : Spec) (field : String) : Prop :=
  ∃ t ∈ spec.tokens, (Rule.ofToken t).toOption.bind Rule.other? = some field

instance (spec : Spec) (field : String) : Decidable (spec.Names field) :=
  inferInstanceAs (Decidable (∃ t ∈ spec.tokens, _))

theorem names_of_mem_reads {spec : Spec} {strict : Bool} {field key : String}
    (h : key ∈ (spec.chain strict field).reads) : key = field ∨ spec.Names key := by
  rcases List.mem_cons.1 h with hkey | hkey
  · exact Or.inl hkey
  · obtain ⟨step, hstep, hother⟩ := List.mem_filterMap.1 hkey
    rcases mem_steps_chain.1 hstep with ⟨t, ht, hv⟩ | ⟨rule, -, rfl⟩
    · obtain ⟨rule, hrule, hp⟩ := Setting.verdict_eq_placed_iff.1 hv
      refine Or.inr ⟨t, ht, ?_⟩
      rw [hrule, ← hother, ← Rule.other?_of_placement hp]
      rfl
    · cases hother

end Spec

/-- In a list without repetitions, to stand before an element is to precede it. -/
theorem mem_front_iff {α : Type} {front back : List α} {x y : α}
    (hd : (front ++ y :: back).Nodup) : x ∈ front ↔ [x, y].Sublist (front ++ y :: back) := by
  constructor
  · intro hx
    have hy : [y].Sublist (y :: back) := List.singleton_sublist.2 List.mem_cons_self
    exact (List.singleton_sublist.2 hx).append hy
  · intro h
    rw [List.nodup_append, List.nodup_cons] at hd
    obtain ⟨-, ⟨hback, -⟩, hapart⟩ := hd
    obtain ⟨l, l', hl, hfront, hrest⟩ := List.sublist_append_iff.1 h
    cases l with
    | nil =>
        rw [← show [x, y] = l' from hl] at hrest
        cases hrest with
        | cons _ hrest => exact absurd (hrest.subset (by simp)) hback
        | cons_cons _ hrest => exact absurd (hrest.subset (by simp)) hback
    | cons z l =>
        obtain ⟨rfl, -⟩ := List.cons.inj hl
        exact hfront.subset List.mem_cons_self

/-- Behind chains taken from one set, a field has the same value if its chain is among them both
times, or neither time. -/
theorem get?_runChains_congr {all cs cs' : List Chain} (hall : (all.map Chain.field).Nodup)
    (hcs : ∀ c ∈ cs, c ∈ all) (hcs' : ∀ c ∈ cs', c ∈ all) (hd : (cs.map Chain.field).Nodup)
    (hd' : (cs'.map Chain.field).Nodup) {key : String}
    (h : key ∈ cs.map Chain.field ↔ key ∈ cs'.map Chain.field) (r : Record) :
    (runChains cs r).record.get? key = (runChains cs' r).record.get? key := by
  by_cases hkey : key ∈ cs.map Chain.field
  · obtain ⟨c, hc, hfield⟩ := List.mem_map.1 hkey
    obtain ⟨c', hc', hfield'⟩ := List.mem_map.1 (h.1 hkey)
    have hsame : c = c' :=
      List.inj_on_of_nodup_map hall (hcs c hc) (hcs' c' hc') (hfield.trans hfield'.symm)
    subst hsame hfield
    have hfinal := Schema.get?_validate (s := ⟨cs, []⟩) hd hc r
    have hfinal' := Schema.get?_validate (s := ⟨cs', []⟩) hd' hc' r
    exact hfinal.trans hfinal'.symm
  · rw [get?_runChains_of_notMem hkey, get?_runChains_of_notMem fun hmem => hkey (h.2 hmem)]

theorem field_mem_of_mem_runChains {cs : List Chain} {r : Record} {e : Event}
    (he : e ∈ (runChains cs r).events) : e.field ∈ cs.map Chain.field := by
  induction cs generalizing r with
  | nil => cases he
  | cons c rest ih =>
      rw [List.map_cons, List.mem_cons]
      rcases List.mem_append.1 he with he | he
      · exact Or.inl (Chain.field_of_mem_runSteps he)
      · exact Or.inr (ih he)

theorem filter_events_eq_nil {cs : List Chain} {field : String}
    (h : field ∉ cs.map Chain.field) (r : Record) :
    (runChains cs r).events.filter (fun e => e.field = field) = [] := by
  refine List.filter_eq_nil_iff.2 fun e he hfield => h ?_
  rw [← of_decide_eq_true hfield]
  exact field_mem_of_mem_runChains he

theorem filter_events_run (c : Chain) (r : Record) :
    (c.run r).events.filter (fun e => e.field = c.field) = (c.run r).events :=
  List.filter_eq_self.2 fun _ he => decide_eq_true (Chain.field_of_mem_runSteps he)

/-- The events on a field are those of its one chain, on the record that the chains before it
leave. -/
theorem filter_events_runChains {front back : List Chain} {c : Chain}
    (hd : ((front ++ c :: back).map Chain.field).Nodup) (r : Record) :
    (runChains (front ++ c :: back) r).events.filter (fun e => e.field = c.field) =
      (c.run (runChains front r).record).events := by
  rw [List.map_append, List.map_cons, List.nodup_append, List.nodup_cons] at hd
  obtain ⟨-, ⟨hback, -⟩, hapart⟩ := hd
  have hfront : c.field ∉ front.map Chain.field := fun h => hapart _ h _ List.mem_cons_self rfl
  rw [runChains_append, List.filter_append, filter_events_eq_nil hfront, List.nil_append, runChains,
    List.filter_append, filter_events_run, filter_events_eq_nil hback, List.append_nil]

namespace Schema

/-- The messages come in blocks, one for each field. -/
theorem errors_eq_flatMap {s : Schema} (hd : (s.chains.map Chain.field).Nodup) (r : Record) :
    (s.validate r).errors = (s.chains.map Chain.field).flatMap fun field => s.messagesOn field r := by
  simp only [validate, run, messagesOn]
  generalize s.chains = cs at hd
  induction cs generalizing r with
  | nil => rfl
  | cons c rest ih =>
      rw [List.map_cons, List.nodup_cons] at hd
      have hblock (field : String) (hfield : field ∈ rest.map Chain.field) :
          (runChains (c :: rest) r).events.filter (fun e => e.field = field) =
            (runChains rest (c.run r).record).events.filter fun e => e.field = field := by
        have hne : field ∉ [c].map Chain.field := by
          intro h
          rw [List.map_singleton, List.mem_singleton] at h
          exact hd.1 (h ▸ hfield)
        have hnone := filter_events_eq_nil hne r
        simp only [runChains, List.append_nil] at hnone
        rw [runChains, List.filter_append, hnone, List.nil_append]
      rw [List.map_cons, List.flatMap_cons, List.flatMap_congr fun field hfield =>
        congrArg messagesOf (hblock field hfield), ← ih _ hd.2]
      have hown : (runChains (c :: rest) r).events.filter (fun e => e.field = c.field) =
          (c.run r).events := by
        have hcons : (([] ++ c :: rest).map Chain.field).Nodup := List.nodup_cons.2 hd
        exact filter_events_runChains hcons r
      rw [hown]
      exact messagesOf_append _ _

end Schema

/-- The keys behind two runs on one record are the same in some order, if the values are. -/
theorem Record.Extends.keys_perm {names names' : List String} {r a b : Record}
    (ha : Extends names r a) (hb : Extends names' r b) (h : ∀ key, a.get? key = b.get? key) :
    a.keys.Perm b.keys := by
  obtain ⟨new, hkeys, hnodup, hfresh, -⟩ := ha
  obtain ⟨new', hkeys', hnodup', hfresh', -⟩ := hb
  have hmem (key : String) : key ∈ a.keys ↔ key ∈ b.keys := by
    rw [← get?_isSome, h, get?_isSome]
  rw [hkeys, hkeys']
  refine List.Perm.append_left _ ((List.perm_ext_iff_of_nodup hnodup hnodup').2 fun key => ?_)
  rw [hkeys, hkeys'] at hmem
  have hkey := hmem key
  simp only [List.mem_append] at hkey
  constructor
  · intro hnew
    exact (hkey.1 (Or.inr hnew)).resolve_left (hfresh key hnew)
  · intro hnew
    exact (hkey.2 (Or.inr hnew)).resolve_left (hfresh' key hnew)

namespace Schema

/-- A field has the same messages in two orders of the chains, if each field that its chain reads
stands on the same side of it. -/
theorem messagesOn_of_perm {s s' : Schema} (hperm : s.chains.Perm s'.chains)
    (hd : (s.chains.map Chain.field).Nodup) {c : Chain} (hc : c ∈ s.chains)
    (hplain : c.Uncustomized)
    (hkeeps : ∀ d ∈ s.chains, d.field ∈ c.reads →
      ([d.field, c.field].Sublist (s.chains.map Chain.field) ↔
        [d.field, c.field].Sublist (s'.chains.map Chain.field)))
    (r : Record) : s'.messagesOn c.field r = s.messagesOn c.field r := by
  have hd' : (s'.chains.map Chain.field).Nodup := (hperm.map Chain.field).nodup_iff.1 hd
  obtain ⟨front, back, hs⟩ := List.append_of_mem hc
  obtain ⟨front', back', hs'⟩ := List.append_of_mem (hperm.mem_iff.1 hc)
  have hfront : (front.map Chain.field).Nodup := by
    rw [hs, List.map_append, List.nodup_append] at hd
    exact hd.1
  have hfront' : (front'.map Chain.field).Nodup := by
    rw [hs', List.map_append, List.nodup_append] at hd'
    exact hd'.1
  have hsub : ∀ d ∈ front, d ∈ s.chains := fun d h => hs ▸ List.mem_append_left _ h
  have hsub' : ∀ d ∈ front', d ∈ s.chains := fun d h =>
    hperm.mem_iff.2 (hs' ▸ List.mem_append_left _ h)
  have hbefore (key : String) :
      key ∈ front.map Chain.field ↔ [key, c.field].Sublist (s.chains.map Chain.field) := by
    rw [hs, List.map_append, List.map_cons] at hd ⊢
    exact mem_front_iff hd
  have hbefore' (key : String) :
      key ∈ front'.map Chain.field ↔ [key, c.field].Sublist (s'.chains.map Chain.field) := by
    rw [hs', List.map_append, List.map_cons] at hd' ⊢
    exact mem_front_iff hd'
  have hagree : Record.AgreeOn c.reads (runChains front' r).record (runChains front r).record := by
    intro key hkey
    refine get?_runChains_congr hd hsub' hsub hfront' hfront ?_ r
    -- a field that no chain is about stands before the chain in neither order
    constructor
    · intro hmem
      obtain ⟨d, hdf, rfl⟩ := List.mem_map.1 hmem
      exact (hbefore _).2 ((hkeeps d (hsub' d hdf) hkey).2 ((hbefore' _).1 hmem))
    · intro hmem
      obtain ⟨d, hdf, rfl⟩ := List.mem_map.1 hmem
      exact (hbefore' _).2 ((hkeeps d (hsub d hdf) hkey).1 ((hbefore _).1 hmem))
  rw [hs] at hd
  rw [hs'] at hd'
  rw [messagesOn, messagesOn, run, run, hs, hs', filter_events_runChains hd,
    filter_events_runChains hd']
  exact congrArg messagesOf (Chain.events_runSteps_congr hplain hagree)

end Schema

/-- The same fields in some order. Two fields of which one names the other stand as they stood. -/
structure Rearranges (specs specs' : List (String × Spec)) : Prop where
  perm : specs.Perm specs'
  keeps : ∀ p ∈ specs, ∀ q ∈ specs, p.2.Names q.1 ∨ q.2.Names p.1 →
    ([p.1, q.1].Sublist (specs.map Prod.fst) ↔ [p.1, q.1].Sublist (specs'.map Prod.fst))

namespace Rearranges

variable {strict : Bool} {specs specs' : List (String × Spec)}

/-- What a chain reads stands on the same side of it. -/
theorem sublist_iff_of_mem_reads (h : Rearranges specs specs') (hd : (specs.map Prod.fst).Nodup)
    {p q : String × Spec} (hp : p ∈ specs) (hq : q ∈ specs)
    (hreads : q.1 ∈ (p.2.chain strict p.1).reads) :
    [q.1, p.1].Sublist (specs.map Prod.fst) ↔ [q.1, p.1].Sublist (specs'.map Prod.fst) := by
  rcases Spec.names_of_mem_reads hreads with hown | hnames
  · -- no field stands before itself
    have htwice {fields : List String} (hfields : fields.Nodup) : ¬[p.1, p.1].Sublist fields := by
      intro hsub
      have hpair := hsub.nodup hfields
      simp at hpair
    rw [hown]
    exact iff_of_false (htwice hd) (htwice ((h.perm.map Prod.fst).nodup_iff.1 hd))
  · exact h.keeps q hq p hp (Or.inr hnames)

theorem messagesOn_eq (h : Rearranges specs specs') (hd : (specs.map Prod.fst).Nodup)
    (hcustoms : ∀ p ∈ specs, p.2.customs = []) {s s' : Schema}
    (hs : compileSchema strict specs = .ok s) (hs' : compileSchema strict specs' = .ok s')
    (hperm : s.chains.Perm s'.chains) {field : String} (hfield : field ∈ specs.map Prod.fst)
    (r : Record) : s'.messagesOn field r = s.messagesOn field r := by
  have hplain := uncustomized_of_compileSchema hs hcustoms
  have hfields := fields_of_compileSchema hs
  have hchains := (compileSchema_ok_iff.1 hs).2
  rw [← hfields] at hfield
  obtain ⟨c, hc, rfl⟩ := List.mem_map.1 hfield
  refine Schema.messagesOn_of_perm hperm (hfields ▸ hd) hc (hplain c hc) ?_ r
  rw [hfields, fields_of_compileSchema hs']
  rw [hchains] at hc ⊢
  obtain ⟨p, hp, rfl⟩ := List.mem_map.1 hc
  intro d hdmem hreads
  obtain ⟨q, hq, rfl⟩ := List.mem_map.1 hdmem
  exact h.sublist_iff_of_mem_reads hd hp hq hreads

end Rearranges

/-- In such an order the schema compiles as well, and for every record it returns the same values
and comes to the same verdict. Each field has the messages that it had, and they come in the order
of the fields. -/
theorem outcomes_of_rearranges {strict : Bool} {specs specs' : List (String × Spec)}
    (h : Rearranges specs specs') (hd : (specs.map Prod.fst).Nodup)
    (hcustoms : ∀ p ∈ specs, p.2.customs = []) {s : Schema}
    (hs : compileSchema strict specs = .ok s) :
    ∃ s', compileSchema strict specs' = .ok s' ∧ ∀ r,
      (s'.validate r).record.keys.Perm (s.validate r).record.keys ∧
      (∀ key, (s'.validate r).record.get? key = (s.validate r).record.get? key) ∧
      (s'.validate r).accepted = (s.validate r).accepted ∧
      (s.validate r).errors = (specs.map Prod.fst).flatMap (fun field => s.messagesOn field r) ∧
      (s'.validate r).errors = (specs'.map Prod.fst).flatMap fun field => s.messagesOn field r := by
  obtain ⟨s', hs', hperm, -⟩ := exists_compileSchema_of_perm h.perm hs
  have hnames : (specs.map Prod.fst).Perm (specs'.map Prod.fst) := h.perm.map _
  have hfields := fields_of_compileSchema hs
  have hfields' := fields_of_compileSchema hs'
  have hdchains : (s.chains.map Chain.field).Nodup := hfields ▸ hd
  have hdchains' : (s'.chains.map Chain.field).Nodup := hfields' ▸ hnames.nodup_iff.1 hd
  refine ⟨s', hs', fun r => ?_⟩
  have hvalue (key : String) :
      (s'.validate r).record.get? key = (s.validate r).record.get? key :=
    get?_runChains_congr hdchains (fun c hc => hperm.mem_iff.2 hc) (fun c hc => hc) hdchains'
      hdchains (hperm.map Chain.field).mem_iff.symm r
  have herrors := s.errors_eq_flatMap hdchains r
  have herrors' := s'.errors_eq_flatMap hdchains' r
  rw [hfields] at herrors
  rw [hfields', List.flatMap_congr fun field hfield =>
    h.messagesOn_eq hd hcustoms hs hs' hperm (hnames.mem_iff.2 hfield) r] at herrors'
  refine ⟨?_, hvalue, ?_, herrors, herrors'⟩
  · exact (extends_runChains s'.chains r).keys_perm (extends_runChains s.chains r) hvalue
  · rw [Outcome.accepted, Outcome.accepted, herrors, herrors']
    exact (hnames.flatMap_right _).isEmpty_eq.symm

/-- The nickname moves behind the others, which compare with one another and stay in their order. -/
theorem outcomes_of_rearranges_nick_role :
    let specs := [("nick", .pipe "default:Guest|string"), ("role", .pipe "default:user"),
      ("code", .pipe "sanitize|required_if:role,user|same:secret")]
    let specs' := [("role", .pipe "default:user"),
      ("code", .pipe "sanitize|required_if:role,user|same:secret"),
      ("nick", .pipe "default:Guest|string")]
    Rearranges specs specs' ∧ (specs.map Prod.fst).Nodup ∧ (∀ p ∈ specs, p.2.customs = []) ∧
      ∃ s, compileSchema true specs = .ok s ∧ ∃ s', compileSchema true specs' = .ok s' ∧ ∀ r,
        (s'.validate r).record.keys.Perm (s.validate r).record.keys ∧
        (∀ key, (s'.validate r).record.get? key = (s.validate r).record.get? key) ∧
        (s'.validate r).accepted = (s.validate r).accepted ∧
        (s.validate r).errors = (specs.map Prod.fst).flatMap (fun field => s.messagesOn field r) ∧
        (s'.validate r).errors =
          (specs'.map Prod.fst).flatMap fun field => s.messagesOn field r := by
  intro specs specs'
  have hperm : specs.Perm specs' := @List.perm_append_comm _ [_] _
  have hrearranges : Rearranges specs specs' := ⟨hperm, by decide +kernel⟩
  have hd : (specs.map Prod.fst).Nodup := by decide
  have hcustoms : ∀ p ∈ specs, p.2.customs = [] := by simp [specs, Spec.customs]
  have hs : compileSchema true specs = .ok _ := rfl
  exact ⟨hrearranges, hd, hcustoms, _, hs, outcomes_of_rearranges hrearranges hd hcustoms hs⟩

/-- Where the order of the two is not kept, the later field is judged by the default of the other.
-/
example :
    let role := ("role", Spec.pipe "default:user")
    let code := ("code", Spec.pipe "required_if:role,user")
    ((compileSchema true [role, code]).map fun s => (s.validate []).errors).toOption =
        some ["code is required when role is user"] ∧
      ((compileSchema true [code, role]).map fun s => (s.validate []).errors).toOption = some [] := by
  decide +kernel

end FieldRules
