import FieldRules.Value.Equality
import FieldRules.Proofs.MergedKeys
import FieldRules.Proofs.WrittenValues
import Mathlib.Data.List.Perm.Subperm
import Mathlib.Logic.Relation

/-!
# Values that are the same

Two values are compared part by part, arrays by position and objects by key. Where no object has a
key twice, they are the same exactly if every path finds the same content in both, or nothing in
either. So sameness is reflexive, symmetric and transitive, and the order of the members of an
object has no part in it, at any depth.
-/

namespace FieldRules

namespace Record

theorem get?_eq_some_iff {r : Record} (h : r.keys.Nodup) {key : String} {v : Value} :
    r.get? key = some v ↔ (key, v) ∈ r := by
  refine ⟨mem_of_get?, fun hmem => ?_⟩
  induction r with
  | nil => cases hmem
  | cons m r ih =>
      obtain ⟨hm, hr⟩ := List.nodup_cons.1 h
      rcases List.mem_cons.1 hmem with rfl | hmem
      · rw [get?, if_pos rfl]
      · have hkey : key ∈ keys r := List.mem_map_of_mem hmem
        have hne : m.1 ≠ key := fun heq => hm (heq ▸ hkey)
        rw [get?, if_neg hne]
        exact ih hr hmem

theorem get?_of_perm {r s : Record} (hp : r.Perm s) (h : r.keys.Nodup) (key : String) :
    r.get? key = s.get? key := by
  have hs : s.keys.Nodup := (hp.map Prod.fst).nodup_iff.1 h
  refine Option.ext fun v => ?_
  rw [get?_eq_some_iff h, get?_eq_some_iff hs, hp.mem_iff]

theorem get?_eq_none_of_subset {r s : Record} (h : r.keys.Nodup) (hsub : r.keys ⊆ s.keys)
    (hlength : s.length ≤ r.length) {key : String} (hkey : r.get? key = none) :
    s.get? key = none := by
  have hle : s.keys.length ≤ r.keys.length := by simpa [keys] using hlength
  -- All keys of the first record are distinct, so the second one has no room for others.
  have hperm : r.keys.Perm s.keys := (List.subperm_of_subset h hsub).perm_of_length_le hle
  rw [get?_eq_none_iff] at hkey ⊢
  exact mt hperm.mem_iff.2 hkey

end Record

namespace Value

/-- One step into a value: to an item of an array, or to what an object has under a key. -/
inductive Key
  | item (index : Nat)
  | member (key : String)

def child? : Value → Key → Option Value
  | array items, .item index => items[index]?
  | object members, .member key => Record.get? members key
  | _, _ => none

def reach? : Value → List Key → Option Value
  | v, [] => some v
  | v, k :: path => (v.child? k).bind fun w => w.reach? path

/-- What a value is apart from what it contains: an integer is no float, the two zeros are one, and
of an array or an object only the size counts. -/
inductive Content
  | null
  | bool (value : Bool)
  | integer (value : Int)
  | float (units : Int)
  | string (value : String)
  | array (size : Nat)
  | object (size : Nat)
  deriving DecidableEq

def content : Value → Content
  | null => .null
  | bool b => .bool b
  | number (.integer i) => .integer i
  | number (.float x) => .float x.toInt
  | string s => .string s
  | array items => .array items.length
  | object members => .object members.length

/-- Every path finds the same content in both values, or nothing in either. -/
def Agree (v w : Value) : Prop := ∀ path, (v.reach? path).map content = (w.reach? path).map content

theorem Agree.refl (v : Value) : Agree v v := fun _ => rfl

theorem Agree.trans {u v w : Value} (h : Agree u v) (h' : Agree v w) : Agree u w :=
  fun path => (h path).trans (h' path)

theorem rel_agree_iff {v w : Option Value} :
    Option.Rel Agree v w ↔ ∀ path, (v.bind fun u => u.reach? path).map content =
      (w.bind fun u => u.reach? path).map content := by
  cases v with
  | none =>
      cases w with
      | none => exact iff_of_true .none fun _ => rfl
      | some w => exact iff_of_false nofun fun h => nomatch h []
  | some v =>
      cases w with
      | none => exact iff_of_false nofun fun h => nomatch h []
      | some w => exact Option.rel_some_some

theorem rel_agree_refl (v : Option Value) : Option.Rel Agree v v := rel_agree_iff.2 fun _ => rfl

theorem rel_agree_symm {v w : Option Value} (h : Option.Rel Agree v w) : Option.Rel Agree w v :=
  rel_agree_iff.2 fun path => (rel_agree_iff.1 h path).symm

theorem rel_agree_trans {u v w : Option Value} (h : Option.Rel Agree u v)
    (h' : Option.Rel Agree v w) : Option.Rel Agree u w :=
  rel_agree_iff.2 fun path => (rel_agree_iff.1 h path).trans (rel_agree_iff.1 h' path)

theorem agree_iff {v w : Value} :
    Agree v w ↔ v.content = w.content ∧ ∀ k, Option.Rel Agree (v.child? k) (w.child? k) := by
  simp only [rel_agree_iff]
  constructor
  · exact fun h => ⟨Option.some.inj (h []), fun k path => h (k :: path)⟩
  · rintro ⟨hcontent, hchildren⟩ path
    cases path with
    | nil => exact congrArg some hcontent
    | cons k path => exact hchildren k path

theorem mem_parts_of_child? {v w : Value} {k : Key} (hw : v.child? k = some w) : w ∈ v.parts := by
  cases v <;> cases k
  case array.item items index => exact List.mem_of_getElem? hw
  case object.member members key => exact List.mem_map_of_mem (Record.mem_of_get? hw)
  all_goals cases hw

def SameOrMissing : Option Value → Option Value → Prop := Option.Rel fun v w => v.same w = true

theorem sameIfAny_iff {v w : Option Value} : sameIfAny v w = true ↔ SameOrMissing v w := by
  constructor
  · intro h
    cases v <;> cases w
    case none.none => exact .none
    case some.some => exact .some h
    all_goals cases h
  · intro h
    cases h with
    | none => rfl
    | some h => exact h

theorem sameItems_iff {a b : List Value} :
    sameItems a b = true ↔ a.length = b.length ∧ ∀ i : Nat, SameOrMissing (a[i]?) (b[i]?) := by
  induction a generalizing b with
  | nil =>
      cases b with
      | nil => exact iff_of_true rfl ⟨rfl, fun _ => .none⟩
      | cons w b => exact iff_of_false nofun fun h => nomatch h.1
  | cons v a ih =>
      cases b with
      | nil => exact iff_of_false nofun fun h => nomatch h.1
      | cons w b =>
          rw [sameItems, Bool.and_eq_true, ih]
          constructor
          · rintro ⟨hv, hlength, hitems⟩
            refine ⟨congrArg Nat.succ hlength, fun i => ?_⟩
            cases i with
            | zero => exact .some hv
            | succ i => exact hitems i
          · rintro ⟨hlength, hitems⟩
            refine ⟨?_, Nat.succ.inj hlength, fun i => hitems (i + 1)⟩
            cases hitems 0 with
            | some h => exact h

theorem sameMembers_iff {a : List (String × Value)} {r : Record} :
    sameMembers a r = true ↔ ∀ m ∈ a, ∃ w, r.get? m.1 = some w ∧ m.2.same w = true := by
  induction a with
  | nil => exact iff_of_true rfl nofun
  | cons m a ih =>
      rw [sameMembers, Bool.and_eq_true, ih, List.forall_mem_cons]
      refine and_congr_left fun _ => ?_
      cases r.get? m.1 with
      | none => simp
      | some w => simp

theorem same_object_iff {a b : Record} (h : a.keys.Nodup) :
    same (.object a) (.object b) = true ↔
      a.length = b.length ∧ ∀ key, SameOrMissing (a.get? key) (b.get? key) := by
  rw [same, Bool.and_eq_true, beq_iff_eq, sameMembers_iff]
  refine and_congr_right fun hlength => ⟨fun hall key => ?_, fun hall m hm => ?_⟩
  · cases hv : a.get? key with
    | none =>
        have hsub : a.keys ⊆ b.keys := fun k hk => by
          obtain ⟨m, hm, rfl⟩ := List.mem_map.1 hk
          obtain ⟨w, hw, -⟩ := hall m hm
          exact Record.get?_isSome.1 (by rw [hw]; rfl)
        rw [Record.get?_eq_none_of_subset h hsub hlength.ge hv]
        exact .none
    | some v =>
        obtain ⟨w, hw, hsame⟩ := hall (key, v) (Record.mem_of_get? hv)
        rw [hw]
        exact .some hsame
  · have hm' : a.get? m.1 = some m.2 := (Record.get?_eq_some_iff h).2 hm
    have hkey := hall m.1
    rw [hm'] at hkey
    cases hw : b.get? m.1 with
    | none =>
        rw [hw] at hkey
        cases hkey
    | some w =>
        rw [hw] at hkey
        cases hkey with
        | some hsame => exact ⟨w, rfl, hsame⟩

/-- One comparison: of the content on the spot, and of what each step finds. -/
theorem same_iff_children {v w : Value} (h : Json.KeysDistinct v.frame) :
    v.same w = true ↔ v.content = w.content ∧ ∀ k, SameOrMissing (v.child? k) (w.child? k) := by
  have hscalar {p q : Prop} (hpq : p ↔ q) : p ↔ q ∧ ∀ _ : Key, SameOrMissing none none :=
    hpq.trans (and_iff_left fun _ => .none).symm
  -- Values of two kinds have different contents; a scalar has nothing that a step could find.
  rcases v with _ | b | (i | x) | s | a | a <;> rcases w with _ | b' | (i' | x') | s' | a' | a'
  case null.null => exact hscalar (iff_of_true rfl rfl)
  case bool.bool => exact hscalar (by simp [same, content])
  case number.integer.number.integer => exact hscalar (by simp [same, Number.same, content])
  case number.float.number.float =>
    exact hscalar (by simp [same, Number.same, Binary64.sameValue, content])
  case string.string => exact hscalar (by simp [same, content])
  case array.array =>
    rw [same, sameItems_iff, content, content, Content.array.injEq]
    refine and_congr_right fun _ => ⟨fun h k => ?_, fun h i => h (.item i)⟩
    cases k with
    | item i => exact h i
    | member key => exact .none
  case object.object =>
    rw [same_object_iff h, content, content, Content.object.injEq]
    refine and_congr_right fun _ => ⟨fun h k => ?_, fun h key => h (.member key)⟩
    cases k with
    | item i => exact .none
    | member key => exact h key
  all_goals
    refine iff_of_false Bool.false_ne_true fun h => ?_
    cases h.1

theorem rel_congr {R R' : Value → Value → Prop} {v w : Option Value}
    (h : ∀ u ∈ v, ∀ u', R u u' ↔ R' u u') : Option.Rel R v w ↔ Option.Rel R' v w := by
  cases v with
  | none => cases w <;> simp
  | some v =>
      cases w with
      | none => simp
      | some w => rw [Option.rel_some_some, Option.rel_some_some, h v rfl]

/-- Sameness is agreement, by induction on the first value: its parts have distinct keys too. -/
theorem same_iff_agree {v w : Value} (h : v.Every Json.KeysDistinct) :
    v.same w = true ↔ Agree v w := by
  induction h generalizing w with
  | @intro v here within ih =>
      rw [same_iff_children here, agree_iff]
      refine and_congr_right fun _ => forall_congr' fun k => rel_congr fun u hu u' => ?_
      exact ih u (mem_parts_of_child? hu)

theorem sameIfAny_iff_agree {v w : Option Value} (h : ∀ u ∈ v, u.Every Json.KeysDistinct) :
    sameIfAny v w = true ↔ Option.Rel Agree v w :=
  sameIfAny_iff.trans (rel_congr fun u hu _ => same_iff_agree (h u hu))

/-- One reordering somewhere in a value: the members of an object take another order. -/
inductive Reorders : Value → Value → Prop
  | here {a b : Record} (h : a.Perm b) : Reorders (.object a) (.object b)
  | item {v w : Value} (front back : List Value) (h : Reorders v w) :
      Reorders (.array (front ++ v :: back)) (.array (front ++ w :: back))
  | member {v w : Value} (front back : Record) (key : String) (h : Reorders v w) :
      Reorders (.object (front ++ (key, v) :: back)) (.object (front ++ (key, w) :: back))

/-- A value with one part replaced keeps a condition that the new part keeps. -/
theorem Every.replace {P : Frame → Prop} {v w x y : Value} {front back : List Value}
    (hv : v.Every P) (hw : P w.frame) (hparts : v.parts = front ++ x :: back)
    (hparts' : w.parts = front ++ y :: back) (h : x.Every P → y.Every P) : w.Every P := by
  have hall := fun u hu => hv.within (w := u) (hparts ▸ hu)
  simp only [List.forall_mem_append, List.forall_mem_cons] at hall
  obtain ⟨hfront, hx, hback⟩ := hall
  refine ⟨hw, ?_⟩
  rw [hparts', List.forall_mem_append, List.forall_mem_cons]
  exact ⟨hfront, h hx, hback⟩

theorem frame_member (front back : Record) (key : String) (v w : Value) :
    (Value.object (front ++ (key, v) :: back)).frame =
      (Value.object (front ++ (key, w) :: back)).frame := by
  simp [frame]

theorem parts_member (front back : Record) (key : String) (v : Value) :
    (Value.object (front ++ (key, v) :: back)).parts =
      front.map Prod.snd ++ v :: back.map Prod.snd := List.map_append

namespace Reorders

variable {v w : Value}

theorem every_keysDistinct (h : Reorders v w) (hv : v.Every Json.KeysDistinct) :
    w.Every Json.KeysDistinct := by
  induction h with
  | here hp =>
      refine ⟨(hp.map Prod.fst).nodup_iff.1 hv.here, fun u hu => hv.within ?_⟩
      exact (hp.map Prod.snd).mem_iff.2 hu
  | item front back h ih => exact hv.replace trivial rfl rfl ih
  | @member v w front back key h ih =>
      exact hv.replace (frame_member front back key v w ▸ hv.here) (parts_member front back key v)
        (parts_member front back key w) ih

theorem agree (h : Reorders v w) (hv : v.Every Json.KeysDistinct) : Agree v w := by
  induction h with
  | here hp =>
      refine agree_iff.2 ⟨congrArg Content.object hp.length_eq, fun k => ?_⟩
      cases k with
      | item i => exact .none
      | member key =>
          rw [child?, child?, Record.get?_of_perm hp hv.here]
          exact rel_agree_refl _
  | @item v w front back h ih =>
      have hvw : Agree v w := ih (hv.within (List.mem_append_right _ List.mem_cons_self))
      refine agree_iff.2 ⟨by simp [content], fun k => ?_⟩
      cases k with
      | item i =>
          rw [child?, child?, List.getElem?_append, List.getElem?_append]
          split
          · exact rel_agree_refl _
          · cases i - front.length with
            | zero => exact .some hvw
            | succ j => exact rel_agree_refl _
      | member key => exact .none
  | @member v w front back key h ih =>
      have hmem : v ∈ (Value.object (front ++ (key, v) :: back)).parts := by
        rw [parts_member]
        exact List.mem_append_right _ List.mem_cons_self
      have hvw : Agree v w := ih (hv.within hmem)
      refine agree_iff.2 ⟨by simp [content], fun k => ?_⟩
      cases k with
      | item i => exact .none
      | member other =>
          rw [child?, child?, Record.get?_append, Record.get?_append]
          cases Record.get? front other with
          | some u => exact rel_agree_refl _
          | none =>
              rw [Option.none_or, Option.none_or, Record.get?, Record.get?]
              split
              · exact .some hvw
              · exact rel_agree_refl _

end Reorders

def Reordered : Value → Value → Prop := Relation.ReflTransGen Reorders

theorem Reordered.agree {v w : Value} (h : Reordered v w) (hv : v.Every Json.KeysDistinct) :
    w.Every Json.KeysDistinct ∧ Agree v w := by
  induction h with
  | refl => exact ⟨hv, .refl v⟩
  | tail _ hstep ih =>
      exact ⟨hstep.every_keysDistinct ih.1, ih.2.trans (hstep.agree ih.1)⟩

theorem rel_agree_of_reordered {v w : Option Value} (h : Option.Rel Reordered v w)
    (hv : ∀ u ∈ v, u.Every Json.KeysDistinct) :
    (∀ u ∈ w, u.Every Json.KeysDistinct) ∧ Option.Rel Agree v w := by
  cases h with
  | none => exact ⟨nofun, .none⟩
  | some h =>
      obtain ⟨hw, hagree⟩ := h.agree (hv _ rfl)
      exact ⟨fun u hu => Option.some.inj hu ▸ hw, .some hagree⟩

end Value
end FieldRules
