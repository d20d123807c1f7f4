import FieldRules.Request
import Mathlib.Data.List.Nodup

/-!
# Places and values in a merged record

Merging writes the members of the path parameters, of the query and of the body one after another
into one record. A write gives a known key another value and leaves it at its place, and puts a new
key at the end. So after any number of writes a key has the value that was written last and stands
in the order of the first writes. `Record.WrittenBy` is that invariant of the loop.
-/

namespace FieldRules

namespace Record

theorem get?_append (r s : Record) (key : String) :
    get? (r ++ s) key = (r.get? key).or (s.get? key) := by
  induction r with
  | nil => rfl
  | cons m r ih =>
      rw [List.cons_append, get?, get?]
      split
      · rfl
      · exact ih

theorem get?_eq_none_iff {r : Record} {key : String} : r.get? key = none ↔ key ∉ r.keys := by
  rw [← get?_isSome, Option.not_isSome_iff_eq_none]

/-- With distinct keys the first member of a key is also the last one. -/
theorem get?_reverse_of_nodup {members : Record} (h : members.keys.Nodup) (key : String) :
    get? members.reverse key = members.get? key := by
  induction members with
  | nil => rfl
  | cons m members ih =>
      obtain ⟨hfresh, hrest⟩ := List.nodup_cons.1 h
      have hfirst : get? (m :: members) key =
          if m.1 = key then some m.2 else get? members key := rfl
      have hlast : get? [m] key = if m.1 = key then some m.2 else none := rfl
      rw [List.reverse_cons, get?_append, ih hrest, hfirst, hlast]
      split
      · rename_i hkey
        subst hkey
        rw [get?_eq_none_iff.2 hfresh, Option.none_or]
      · rw [Option.or_none]

/-- What is left when the members have been written one after another: for each key the value
written last, and the keys in the order in which they were written first. -/
structure WrittenBy (r members : Record) : Prop where
  get?_eq : ∀ key, r.get? key = get? members.reverse key
  in_order : r.keys.Pairwise fun a b => members.keys.idxOf a < members.keys.idxOf b

theorem writtenBy_nil : WrittenBy [] [] := ⟨fun _ => rfl, List.Pairwise.nil⟩

namespace WrittenBy

variable {r members : Record}

theorem mem_keys_iff (h : r.WrittenBy members) {key : String} :
    key ∈ r.keys ↔ key ∈ members.keys := by
  rw [← get?_isSome, h.get?_eq, get?_isSome, keys, List.map_reverse, List.mem_reverse]
  exact Iff.rfl

theorem nodup_keys (h : r.WrittenBy members) : r.keys.Nodup :=
  h.in_order.imp fun hlt heq => by
    rw [heq] at hlt
    exact absurd hlt (Nat.lt_irrefl _)

theorem insert (h : r.WrittenBy members) (key : String) (value : Value) :
    (r.insert key value).WrittenBy (members ++ [(key, value)]) := by
  have hkeys : Record.keys (members ++ [(key, value)]) = members.keys ++ [key] := List.map_append
  -- Keys that were there keep their index.
  have hsame {k : String} (hk : k ∈ r.keys) :
      (members.keys ++ [key]).idxOf k = members.keys.idxOf k :=
    List.idxOf_append_of_mem (h.mem_keys_iff.1 hk)
  have hbefore : r.keys.Pairwise fun a b =>
      (members.keys ++ [key]).idxOf a < (members.keys ++ [key]).idxOf b :=
    h.in_order.imp_of_mem fun ha hb hlt => by rwa [hsame ha, hsame hb]
  constructor
  · intro other
    rw [get?_insert, h.get?_eq, List.reverse_append]
    rfl
  · rw [hkeys, keys_insert]
    split
    · exact hbefore
    · rename_i hnew
      refine List.pairwise_append.2 ⟨hbefore, List.pairwise_singleton _ _, fun a ha b hb => ?_⟩
      have hlast : (members.keys ++ [key]).idxOf key = members.keys.length := by
        rw [List.idxOf_append_of_notMem (mt h.mem_keys_iff.2 hnew), List.idxOf_cons_self,
          Nat.add_zero]
      rw [List.mem_singleton.1 hb, hsame ha, hlast]
      exact List.idxOf_lt_length_of_mem (h.mem_keys_iff.1 ha)

theorem insertAll (h : r.WrittenBy members) (s : Record) :
    (r.insertAll s).WrittenBy (members ++ s) := by
  induction s generalizing r members with
  | nil => rwa [List.append_nil]
  | cons m s ih =>
      have hrest := ih (h.insert m.1 m.2)
      rwa [List.append_assoc, List.singleton_append] at hrest

end WrittenBy
end Record

namespace RequestParts

def DistinctKeys (p : RequestParts) : Prop :=
  (membersOf p.body).keys.Nodup ∧ (membersOf p.query).keys.Nodup ∧ (membersOf p.params).keys.Nodup

def listedKeys (p : RequestParts) : List String :=
  (membersOf p.params).keys ++ (membersOf p.query).keys ++ (membersOf p.body).keys

theorem writtenBy_merged (p : RequestParts) :
    p.merged.WrittenBy (membersOf p.params ++ membersOf p.query ++ membersOf p.body) :=
  ((Record.writtenBy_nil.insertAll (membersOf p.params)).insertAll (membersOf p.query)).insertAll
    (membersOf p.body)

theorem keys_written (p : RequestParts) :
    Record.keys (membersOf p.params ++ membersOf p.query ++ membersOf p.body) = p.listedKeys := by
  rw [Record.keys, List.map_append, List.map_append]
  rfl

theorem mem_keys_membersOf_iff {v : Value} {key : String} :
    key ∈ (membersOf v).keys ↔ ∃ members, v = .object members ∧ key ∈ Record.keys members := by
  cases v with
  | object members =>
      constructor
      · exact fun h => ⟨members, rfl, h⟩
      · rintro ⟨_, heq, h⟩
        cases heq
        exact h
  | _ =>
      refine iff_of_false List.not_mem_nil ?_
      rintro ⟨_, heq, -⟩
      cases heq

end RequestParts

open RequestParts (membersOf)

/-- A key is in the merged record if some part that is an object has it, with the value of the body
if it has the key there, else of the query, else of the path parameters. Every key is there once,
and of two keys that one is in front which comes first when the keys of the path parameters, of the
query and of the body are listed, whichever part gave the value. -/
theorem merged_of_distinctKeys {p : RequestParts} (h : p.DistinctKeys) :
    (∀ key, key ∈ p.merged.keys ↔ ∃ members,
      (p.body = .object members ∨ p.query = .object members ∨ p.params = .object members) ∧
        key ∈ Record.keys members) ∧
    (∀ key, p.merged.get? key =
      ((membersOf p.body).get? key).or
        (((membersOf p.query).get? key).or ((membersOf p.params).get? key))) ∧
    p.merged.keys.Nodup ∧
    p.merged.keys.Pairwise fun a b => p.listedKeys.idxOf a < p.listedKeys.idxOf b := by
  have hwritten := p.writtenBy_merged
  refine ⟨fun key => ?_, fun key => ?_, hwritten.nodup_keys, p.keys_written ▸ hwritten.in_order⟩
  · rw [hwritten.mem_keys_iff, p.keys_written, RequestParts.listedKeys, List.mem_append,
      List.mem_append]
    simp only [RequestParts.mem_keys_membersOf_iff, or_and_right, exists_or]
    rw [or_comm, or_comm (a := ∃ members, p.params = .object members ∧ _)]
  · obtain ⟨hbody, hquery, hparams⟩ := h
    rw [hwritten.get?_eq, List.reverse_append, List.reverse_append, Record.get?_append,
      Record.get?_append, Record.get?_reverse_of_nodup hbody, Record.get?_reverse_of_nodup hquery,
      Record.get?_reverse_of_nodup hparams]

/-- The body overrides the identifier, which stays where the path parameters put it; the query is no
object. -/
theorem merged_of_distinctKeys_id :
    let p : RequestParts :=
      ⟨.object [("name", .string "Ann"), ("id", .string "body")], .array [.string "id"],
        .object [("id", .number (.integer 7)), ("slug", .null)]⟩
    p.DistinctKeys ∧
      (∀ key, key ∈ p.merged.keys ↔ ∃ members,
        (p.body = .object members ∨ p.query = .object members ∨ p.params = .object members) ∧
          key ∈ Record.keys members) ∧
      (∀ key, p.merged.get? key =
        ((membersOf p.body).get? key).or
          (((membersOf p.query).get? key).or ((membersOf p.params).get? key))) ∧
      p.merged.keys.Nodup ∧
      p.merged.keys.Pairwise fun a b => p.listedKeys.idxOf a < p.listedKeys.idxOf b := by
  intro p
  have h : p.DistinctKeys := ⟨by decide, by decide, by decide⟩
  exact ⟨h, merged_of_distinctKeys h⟩

end FieldRules
