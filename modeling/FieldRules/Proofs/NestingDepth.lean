import FieldRules.Proofs.CleanedValue
import FieldRules.Request

/-!
# Nesting depth

How deep a value is decides whether a sanitizer takes it. A bound on the depth passes to the parts
of a request, to the record that they are merged into and to the values of that record, and cleaning
leaves it as it is. So a sanitizer whose limit a value keeps cleans all that comes from the value.
-/

namespace FieldRules

open Cleaning (cleanText)

namespace Value

theorem depthOfItems_le_iff {items : List Value} {k : Nat} :
    depthOfItems items ≤ k ↔ ∀ v ∈ items, v.depth ≤ k := by
  induction items with
  | nil => simp [depthOfItems]
  | cons v items ih => rw [depthOfItems, Nat.max_le, ih, List.forall_mem_cons]

theorem depthOfMembers_le_iff {members : List (String × Value)} {k : Nat} :
    depthOfMembers members ≤ k ↔ ∀ m ∈ members, m.2.depth ≤ k := by
  induction members with
  | nil => simp [depthOfMembers]
  | cons m members ih => rw [depthOfMembers, Nat.max_le, ih, List.forall_mem_cons]

variable (f : String → String)

mutual

theorem depth_mapStrings (v : Value) : (v.mapStrings f).depth = v.depth := by
  cases v with
  | array items => rw [mapStrings, depth, depth, depthOfItems_mapStrings]
  | object members => rw [mapStrings, depth, depth, depthOfMembers_mapStrings]
  | _ => simp only [mapStrings, depth]

theorem depthOfItems_mapStrings (items : List Value) :
    depthOfItems (mapStringsOfItems f items) = depthOfItems items := by
  cases items with
  | nil => rfl
  | cons v rest =>
      rw [mapStringsOfItems, depthOfItems, depthOfItems, depth_mapStrings, depthOfItems_mapStrings]

theorem depthOfMembers_mapStrings (members : List (String × Value)) :
    depthOfMembers (mapStringsOfMembers f members) = depthOfMembers members := by
  cases members with
  | nil => rfl
  | cons m rest =>
      rw [mapStringsOfMembers, depthOfMembers, depthOfMembers, depth_mapStrings,
        depthOfMembers_mapStrings]

end

end Value

theorem Sanitizer.sanitize_of_depth_le {s : Sanitizer} {v : Value} (h : v.depth ≤ s.maxDepth) :
    s.sanitize v = .ok (v.mapStrings cleanText) := by
  rw [sanitize_eq, if_pos h]

namespace Record

theorem mem_insert {r : Record} {key : String} {value : Value} {m : String × Value}
    (h : m ∈ r.insert key value) : m = (key, value) ∨ m ∈ r := by
  induction r with
  | nil => exact Or.inl (List.mem_singleton.1 h)
  | cons n r ih =>
      obtain ⟨k, v⟩ := n
      rw [insert] at h
      split at h
      · rename_i hk
        subst hk
        exact (List.mem_cons.1 h).imp_right (List.mem_cons_of_mem _)
      · rcases List.mem_cons.1 h with h | h
        · exact Or.inr (h ▸ List.mem_cons_self)
        · exact (ih h).imp_right (List.mem_cons_of_mem _)

theorem mem_insertAll {r s : Record} {m : String × Value} (h : m ∈ r.insertAll s) :
    m ∈ r ∨ m ∈ s := by
  induction s generalizing r with
  | nil => exact Or.inl h
  | cons n s ih =>
      rcases ih h with h | h
      · rcases mem_insert h with h | h
        · exact Or.inr (h ▸ List.mem_cons_self)
        · exact Or.inl h
      · exact Or.inr (List.mem_cons_of_mem _ h)

theorem mem_ofList {members : List (String × Value)} {m : String × Value} (h : m ∈ ofList members) :
    m ∈ members :=
  (mem_insertAll h).resolve_left List.not_mem_nil

def Within (limit : Nat) (r : Record) : Prop := ∀ m ∈ r, m.2.depth ≤ limit

variable {limit : Nat} {r s : Record}

theorem within_nil : Within limit [] := List.forall_mem_nil _

theorem Within.insert (h : r.Within limit) (key : String) {v : Value} (hv : v.depth ≤ limit) :
    (r.insert key v).Within limit := by
  intro m hm
  rcases mem_insert hm with rfl | hm
  · exact hv
  · exact h m hm

theorem Within.insertAll (h : r.Within limit) (hs : s.Within limit) :
    (r.insertAll s).Within limit := fun m hm => (mem_insertAll hm).elim (h m) (hs m)

theorem within_ofList {members : List (String × Value)} (h : Within limit members) :
    (ofList members).Within limit := within_nil.insertAll h

theorem mem_of_get? {key : String} {v : Value} (h : r.get? key = some v) : (key, v) ∈ r := by
  induction r with
  | nil => cases h
  | cons m r ih =>
      rw [get?] at h
      split at h
      · rename_i hkey
        cases h
        subst hkey
        exact List.mem_cons_self
      · exact List.mem_cons_of_mem m (ih h)

theorem Within.depth_le (h : r.Within limit) {key : String} {v : Value}
    (hv : r.get? key = some v) : v.depth ≤ limit := h _ (mem_of_get? hv)

theorem within_of_depth_le {members : List (String × Value)}
    (h : (Value.object members).depth ≤ limit) : Within limit members := by
  rw [Value.depth] at h
  exact Value.depthOfMembers_le_iff.1 (Nat.le_of_succ_le h)

theorem get?_mapStrings (f : String → String) (members : List (String × Value))
    (key : String) :
    get? (Value.mapStringsOfMembers f members) key = (get? members key).map (Value.mapStrings f) := by
  induction members with
  | nil => rfl
  | cons m members ih =>
      rw [Value.mapStringsOfMembers, get?, get?]
      split
      · rfl
      · exact ih

end Record

namespace RequestParts

def Within (limit : Nat) (p : RequestParts) : Prop :=
  p.body.depth ≤ limit ∧ p.query.depth ≤ limit ∧ p.params.depth ≤ limit

variable {limit : Nat} {p : RequestParts}

theorem within_membersOf {v : Value} (h : v.depth ≤ limit) : Record.Within limit (membersOf v) := by
  cases v with
  | object members => exact Record.within_of_depth_le h
  | _ => exact Record.within_nil

theorem within_merged (hbody : (membersOf p.body).Within limit)
    (hquery : (membersOf p.query).Within limit) (hparams : (membersOf p.params).Within limit) :
    p.merged.Within limit :=
  ((Record.within_ofList hparams).insertAll hquery).insertAll hbody

theorem Within.merged (h : p.Within limit) : p.merged.Within limit :=
  within_merged (within_membersOf h.1) (within_membersOf h.2.1) (within_membersOf h.2.2)

theorem within_of_ofValue? {v : Value} (hv : v.depth ≤ limit) (h : ofValue? v = some p) :
    p.Within limit := by
  unfold ofValue? at h
  split at h
  · rename_i members
    have hpart : ∀ key, ((Record.get? members key).getD .null).depth ≤ limit := by
      intro key
      cases hkey : Record.get? members key with
      | none => exact Nat.zero_le limit
      | some w => exact (Record.within_of_depth_le hv).depth_le hkey
    cases h
    exact ⟨hpart "body", hpart "query", hpart "params"⟩
  · rename_i items
    have hitem : ∀ i, (items.getD i .null).depth ≤ limit := by
      intro i
      rw [List.getD_eq_getElem?_getD]
      cases hi : items[i]? with
      | none => exact Nat.zero_le limit
      | some w =>
          rw [Value.depth] at hv
          exact Value.depthOfItems_le_iff.1 (Nat.le_of_succ_le hv) w (List.mem_of_getElem? hi)
    split at h
    · cases h
      exact ⟨hitem 0, hitem 1, hitem 2⟩
    · cases h
  · cases h

def mapStrings (f : String → String) (p : RequestParts) : RequestParts :=
  ⟨p.body.mapStrings f, p.query.mapStrings f, p.params.mapStrings f⟩

theorem ofValue?_mapStrings (f : String → String) (v : Value) :
    ofValue? (v.mapStrings f) = (ofValue? v).map (mapStrings f) := by
  cases v with
  | object members =>
      have hpart (key : String) :
          ((Record.get? (Value.mapStringsOfMembers f members) key).getD .null) =
            ((Record.get? members key).getD .null).mapStrings f := by
        rw [Record.get?_mapStrings]
        cases Record.get? members key <;> rfl
      simp only [Value.mapStrings, ofValue?, hpart, Option.map_some, mapStrings]
  | array items =>
      have hitem (i : Nat) : (items.map (Value.mapStrings f)).getD i .null =
          (items.getD i .null).mapStrings f := by
        rw [List.getD_eq_getElem?_getD, List.getD_eq_getElem?_getD, List.getElem?_map]
        cases items[i]? <;> rfl
      simp only [Value.mapStrings, Value.mapStringsOfItems_eq, ofValue?, List.length_map, hitem]
      split <;> rfl
  | _ => rfl

theorem Within.sanitized_eq (h : p.Within limit) {s : Sanitizer} (hs : limit ≤ s.maxDepth) :
    p.sanitized s = .ok (p.mapStrings cleanText) := by
  obtain ⟨hbody, hquery, hparams⟩ := h
  rw [sanitized, s.sanitize_of_depth_le (Nat.le_trans hbody hs),
    s.sanitize_of_depth_le (Nat.le_trans hquery hs), s.sanitize_of_depth_le (Nat.le_trans hparams hs)]
  rfl

end RequestParts
end FieldRules
