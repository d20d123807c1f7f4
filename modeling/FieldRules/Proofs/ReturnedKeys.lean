import FieldRules.Proofs.StepMessages
import Mathlib.Data.List.Nodup

/-!
# The keys of the returned record

A run may replace values, but it takes no key away and moves none: the keys of the submitted record
come first, in their order. Only a default step gives a missing field a value, so the keys behind
them are fields that have one, in the order of the chains. `Record.Extends` is the invariant of a
chain that says so; it holds of failed and of stopped chains alike, since checks do not write.
-/

namespace FieldRules

namespace Record

/-- The keys of `r` in front, and behind them new keys from `names` in order, each once. -/
def Extends (names : List String) (r r' : Record) : Prop :=
  ∃ appended, r'.keys = r.keys ++ appended ∧ appended.Nodup ∧
    (∀ key ∈ appended, key ∉ r.keys) ∧ appended.Sublist names

theorem Extends.refl (names : List String) (r : Record) : Extends names r r :=
  ⟨[], (List.append_nil _).symm, List.nodup_nil, List.forall_mem_nil _, List.nil_sublist _⟩

theorem Extends.trans {a b : List String} {r r' r'' : Record} (h : Extends a r r')
    (h' : Extends b r' r'') : Extends (a ++ b) r r'' := by
  obtain ⟨new, hkeys, hnodup, hfresh, hsub⟩ := h
  obtain ⟨new', hkeys', hnodup', hfresh', hsub'⟩ := h'
  rw [hkeys] at hkeys' hfresh'
  simp only [List.mem_append, not_or] at hfresh'
  refine ⟨new ++ new', by rw [hkeys', List.append_assoc], ?_, ?_, hsub.append hsub'⟩
  · refine List.nodup_append.2 ⟨hnodup, hnodup', fun key hkey other hother => ?_⟩
    rintro rfl
    exact (hfresh' key hother).2 hkey
  · intro key hkey
    rcases List.mem_append.1 hkey with hkey | hkey
    · exact hfresh key hkey
    · exact (hfresh' key hkey).1

theorem Extends.put {names : List String} {r : Record} {key : String} {value : Option Value}
    (h : value ≠ none → r.get? key = none → [key].Sublist names) :
    Extends names r (r.put key value) := by
  cases value with
  | none => exact .refl names r
  | some v =>
      by_cases hkey : key ∈ r.keys
      · exact ⟨[], by rw [Record.put, keys_insert, if_pos hkey, List.append_nil],
          List.nodup_nil, List.forall_mem_nil _, List.nil_sublist _⟩
      · have hnone : r.get? key = none := by
          rwa [← get?_isSome, Option.not_isSome_iff_eq_none] at hkey
        refine ⟨[key], by rw [Record.put, keys_insert, if_neg hkey], List.nodup_singleton key, ?_,
          h nofun hnone⟩
        intro other hother
        rwa [List.mem_singleton.1 hother]

end Record

open Record (Extends)

namespace Chain

def hasDefault (c : Chain) : Bool :=
  c.transforms.any fun
    | .default _ => true
    | .sanitize _ => false

theorem mem_transforms {c : Chain} {t : Transform} :
    t ∈ c.transforms ↔ .transform t ∈ c.steps := by
  rw [transforms, List.mem_filterMap]
  constructor
  · rintro ⟨s, hs, hst⟩
    cases s with
    | transform t' => rwa [← Option.some.inj hst]
    | required => cases hst
    | check k => cases hst
  · exact fun h => ⟨_, h, rfl⟩

theorem valueAfter_none_of_not_hasDefault {c : Chain} (h : c.hasDefault = false) :
    Step.valueAfter c.steps none = none := by
  refine Step.valueAfter_of_inert fun t ht => ?_
  have hkind := List.any_eq_false.1 h t (mem_transforms.2 ht)
  cases t with
  | default literal => exact absurd rfl hkind
  | sanitize s => rfl

theorem extends_run (c : Chain) (r : Record) :
    Extends (if c.hasDefault then [c.field] else []) r (c.run r).record := by
  rw [run, record_runSteps]
  refine .put fun hvalue hnone => ?_
  cases hdefault : c.hasDefault with
  | true => exact List.Sublist.refl _
  | false =>
      rw [hnone, valueAfter_none_of_not_hasDefault hdefault] at hvalue
      exact absurd rfl hvalue

theorem get?_run_of_untransformed {c : Chain} {key : String}
    (h : c.field = key → c.transforms = []) (r : Record) :
    (c.run r).record.get? key = r.get? key := by
  by_cases hfield : c.field = key
  · have hinert : Step.Inert c.steps (r.get? c.field) :=
      Step.inert_of_transform_notMem (fun t ht => by
        have hmem := mem_transforms.2 ht
        rw [h hfield] at hmem
        cases hmem) _
    rw [record_run_of_inert hinert]
  · exact get?_runSteps_of_ne c c.steps r hfield

end Chain

theorem extends_runChains (cs : List Chain) (r : Record) :
    Extends ((cs.filter Chain.hasDefault).map Chain.field) r (runChains cs r).record := by
  induction cs generalizing r with
  | nil => exact .refl _ r
  | cons c rest ih =>
      have htrans := (c.extends_run r).trans (ih (c.run r).record)
      cases hdefault : c.hasDefault with
      | true =>
          rw [hdefault, if_pos rfl] at htrans
          rwa [List.filter_cons_of_pos hdefault, List.map_cons]
      | false =>
          rw [hdefault, if_neg Bool.false_ne_true] at htrans
          rwa [List.filter_cons_of_neg (Bool.eq_false_iff.1 hdefault)]

theorem get?_runChains_of_untransformed {cs : List Chain} {key : String}
    (h : ∀ c ∈ cs, c.field = key → c.transforms = []) (r : Record) :
    (runChains cs r).record.get? key = r.get? key := by
  induction cs generalizing r with
  | nil => rfl
  | cons c rest ih =>
      have hc := Chain.get?_run_of_untransformed (h c List.mem_cons_self) r
      exact (ih (fun d hd => h d (List.mem_cons_of_mem c hd)) (c.run r).record).trans hc

/-- Accepted or rejected, the returned record has the submitted keys in their order and behind them
distinct new ones, fields with a default step in the order of the schema; and what no transform is
declared for has its submitted value. -/
theorem returned_keys_and_frame (s : Schema) (r : Record) :
    (∃ appended, (s.validate r).record.keys = r.keys ++ appended ∧ appended.Nodup ∧
      (∀ key ∈ appended, key ∉ r.keys) ∧
      appended.Sublist ((s.chains.filter Chain.hasDefault).map Chain.field)) ∧
    ∀ key, (∀ c ∈ s.chains, c.field = key → c.transforms = []) →
      (s.validate r).record.get? key = r.get? key :=
  ⟨extends_runChains s.chains r, fun _ h => get?_runChains_of_untransformed h r⟩

end FieldRules
