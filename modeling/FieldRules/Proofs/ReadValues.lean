import FieldRules.Json.Reader
import FieldRules.Proofs.NestingDepth
import Mathlib.Data.List.Nodup

/-!
# What a text can spell

Reading keeps a stack of open arrays and objects. A property of values that the tokens bring along,
and that closing an array or an object passes on, holds of everything that is read; it may depend on
how many arrays and objects stand around the value. `of_read?` is that induction. With it, a value
that is read is nested no deeper than the reader's limit, its integers fit 64 bits, and its objects
have each key once.
-/

namespace FieldRules

namespace Record

theorem nodup_keys_insert {r : Record} (h : r.keys.Nodup) (key : String) (value : Value) :
    (r.insert key value).keys.Nodup := by
  rw [keys_insert]
  split
  · exact h
  · rename_i hkey
    refine List.nodup_append.2 ⟨h, List.nodup_singleton key, fun a ha b hb hab => hkey ?_⟩
    rwa [← List.mem_singleton.1 hb, ← hab]

theorem nodup_keys_insertAll {r : Record} (h : r.keys.Nodup) (s : Record) :
    (r.insertAll s).keys.Nodup := by
  induction s generalizing r with
  | nil => exact h
  | cons m s ih => exact ih (nodup_keys_insert h m.1 m.2)

theorem nodup_keys_ofList (members : List (String × Value)) : (ofList members).keys.Nodup :=
  nodup_keys_insertAll (r := []) List.nodup_nil members

end Record

namespace Value

/-- A condition on what stands at a position holds at all positions of a value. -/
inductive Every (P : Frame → Prop) : Value → Prop
  | intro {v : Value} (here : P v.frame) (within : ∀ w ∈ v.parts, Every P w) : Every P v

namespace Every

variable {P P' : Frame → Prop} {v : Value}

theorem here (h : v.Every P) : P v.frame := by
  cases h with
  | intro here _ => exact here

theorem within (h : v.Every P) {w : Value} (hw : w ∈ v.parts) : w.Every P := by
  cases h with
  | intro _ within => exact within w hw

theorem and (h : v.Every P) (h' : v.Every P') : v.Every fun frame => P frame ∧ P' frame := by
  induction h with
  | intro here _ ih => exact ⟨⟨here, h'.here⟩, fun w hw => ih w hw (h'.within hw)⟩

theorem mapStrings {f : String → String} (hf : ∀ frame, P frame → P' (frame.mapString f))
    (h : v.Every P) : (v.mapStrings f).Every P' := by
  induction h with
  | @intro v here _ ih =>
      refine ⟨frame_mapStrings f v ▸ hf _ here, fun w hw => ?_⟩
      rw [parts_mapStrings] at hw
      obtain ⟨u, hu, rfl⟩ := List.mem_map.1 hw
      exact ih u hu

end Every

def FitsWord (i : Int) : Prop := -(Nat.pow 2 63 : Nat) ≤ i ∧ i < (Nat.pow 2 64 : Nat)

/-- What reading finds at a position: an integer fits 64 bits, and no object has a key twice. -/
def Frame.Readable : Frame → Prop
  | .number (.integer i) => FitsWord i
  | .object keys => keys.Nodup
  | _ => True

end Value

namespace Json

theorem fitsWord_of_numberOf? {n : Numeral} {i : Int} (h : numberOf? n = some (.integer i)) :
    Value.FitsWord i := by
  have hpos : 0 < Nat.pow 2 64 := by decide
  unfold Value.FitsWord
  simp only [numberOf?] at h
  split at h
  · rename_i hsize
    cases h
    simp only [Bool.and_eq_true, decide_eq_true_eq] at hsize
    omega
  · split at h
    · rename_i hsize
      cases h
      simp only [Bool.and_eq_true, decide_eq_true_eq] at hsize
      omega
    · obtain ⟨x, -, hx⟩ := Option.map_eq_some_iff.1 h
      cases hx

namespace Token

theorem every_readable_of_ofBare? {t : List Char} {v : Value} (h : ofBare? t = some (.scalar v)) :
    v.Every Value.Frame.Readable ∧ v.depth = 0 := by
  unfold ofBare? at h
  split at h
  · cases h
    exact ⟨⟨trivial, nofun⟩, rfl⟩
  split at h
  · cases h
    exact ⟨⟨trivial, nofun⟩, rfl⟩
  split at h
  · cases h
    exact ⟨⟨trivial, nofun⟩, rfl⟩
  obtain ⟨n, -, h⟩ := Option.bind_eq_some_iff.1 h
  split at h
  · obtain ⟨x, hx, h⟩ := Option.bind_eq_some_iff.1 h
    cases h
    refine ⟨⟨?_, nofun⟩, rfl⟩
    cases x with
    | integer i => exact fitsWord_of_numberOf? hx
    | float x => trivial
  · cases h

def Spelled (token : Token) : Prop :=
  ∀ v, token = .scalar v → ∃ t, ofBare? t = some (.scalar v)

end Token

namespace Lexer

def Spelled (l : Lexer) : Prop := ∀ token ∈ l.tokens, token.Spelled

theorem Spelled.fresh {tokens : List Token} (h : ∀ token ∈ tokens, token.Spelled) (c : Char) :
    (fresh tokens c).Spelled := by
  rw [Lexer.fresh]
  split
  · exact h
  · split
    · exact h
    · split
      · rename_i token htoken
        refine List.forall_mem_cons.2 ⟨fun v hv => ?_, h⟩
        subst hv
        unfold Token.ofPunctuation? at htoken
        split at htoken <;> cases htoken
      · exact h

theorem spelled_ofBare? {t : List Char} {token : Token} (h : Token.ofBare? t = some token) :
    token.Spelled := fun _ hv => ⟨t, hv ▸ h⟩

theorem Spelled.step {l l' : Lexer} (h : l.Spelled) {c : Char} (hs : l.step c = some l') :
    l'.Spelled := by
  obtain ⟨tokens, mode⟩ := l
  cases mode with
  | between =>
      cases hs
      exact .fresh h c
  | bare read =>
      simp only [Lexer.step] at hs
      split at hs
      · obtain ⟨token, htoken, rfl⟩ := Option.map_eq_some_iff.1 hs
        exact .fresh (List.forall_mem_cons.2 ⟨spelled_ofBare? htoken, h⟩) c
      · cases hs
        exact h
  | string read =>
      simp only [Lexer.step] at hs
      split at hs
      · cases hs
        exact List.forall_mem_cons.2 ⟨nofun, h⟩
      · split at hs
        · cases hs
          exact h
        · split at hs <;> cases hs
          exact h
  | escape read =>
      simp only [Lexer.step] at hs
      split at hs
      · cases hs
        exact h
      · obtain ⟨c, -, rfl⟩ := Option.map_eq_some_iff.1 hs
        exact h
  | unit read high digits value =>
      simp only [Lexer.step, Option.bind_eq_bind, Option.bind_eq_some_iff] at hs
      obtain ⟨value', -, hs⟩ := hs
      split at hs
      · obtain ⟨mode, -, hs⟩ := Option.bind_eq_some_iff.1 hs
        cases hs
        exact h
      · cases hs
        exact h
  | half read high =>
      simp only [Lexer.step] at hs
      split at hs <;> cases hs
      exact h
  | halfEscape read high =>
      simp only [Lexer.step] at hs
      split at hs <;> cases hs
      exact h

theorem Spelled.foldlM {t : List Char} {l l' : Lexer} (h : l.Spelled)
    (hs : t.foldlM Lexer.step l = some l') : l'.Spelled := by
  induction t generalizing l with
  | nil =>
      cases hs
      exact h
  | cons c t ih =>
      rw [List.foldlM_cons] at hs
      obtain ⟨m, hm, hs⟩ := Option.bind_eq_some_iff.1 hs
      exact ih (h.step hm) hs

theorem Spelled.finish? {l : Lexer} (h : l.Spelled) {tokens : List Token}
    (hs : l.finish? = some tokens) : ∀ token ∈ tokens, token.Spelled := by
  unfold Lexer.finish? at hs
  split at hs
  · cases hs
    exact fun token htoken => h token (List.mem_reverse.1 htoken)
  · obtain ⟨token, htoken, rfl⟩ := Option.map_eq_some_iff.1 hs
    exact fun token htoken' => List.forall_mem_cons.2 ⟨spelled_ofBare? htoken, h⟩ token
      (List.mem_reverse.1 htoken')
  · cases hs

end Lexer

theorem Token.spelled_of_ofText? {t : List Char} {tokens : List Token}
    (h : ofText? t = some tokens) : ∀ token ∈ tokens, token.Spelled := by
  obtain ⟨l, hl, hfinish⟩ := Option.bind_eq_some_iff.1 h
  have hstart : Lexer.start.Spelled := List.forall_mem_nil _
  exact (hstart.foldlM hl).finish? hfinish

variable {Q : Nat → Value → Prop}

/-- What reading builds a value of has the property, and passes it on when it is put together. The
number says how many arrays and objects stand around the value. -/
structure Closed (Q : Nat → Value → Prop) : Prop where
  scalar : ∀ n ≤ depthLimit, ∀ t v, Token.ofBare? t = some (.scalar v) → Q n v
  string : ∀ n ≤ depthLimit, ∀ s, Q n (.string s)
  array : ∀ n < depthLimit, ∀ items, (∀ v ∈ items, Q (n + 1) v) → Q n (.array items)
  object : ∀ n < depthLimit, ∀ members, (∀ m ∈ members, Q (n + 1) m.2) →
    Q n (.object (Record.ofList members))

def Frame.Holds (Q : Nat → Value → Prop) (n : Nat) : Frame → Prop
  | .items read => ∀ v ∈ read, Q n v
  | .member read _ => ∀ m ∈ read, Q n m.2

def Hold (Q : Nat → Value → Prop) : List Frame → Prop
  | [] => True
  | f :: frames => frames.length < depthLimit ∧ f.Holds Q (frames.length + 1) ∧ Hold Q frames

theorem Hold.length_le {frames : List Frame} (h : Hold Q frames) : frames.length ≤ depthLimit := by
  cases frames with
  | nil => exact Nat.zero_le _
  | cons f frames => exact h.1

def Expecting.Holds (Q : Nat → Value → Prop) (frames : List Frame) : Expecting → Prop
  | .value => Hold Q frames
  | .firstItem => Hold Q (.items [] :: frames)
  | .afterItem read => Hold Q (.items read :: frames)
  | .firstKey => Hold Q (.member [] "" :: frames)
  | .key read => Hold Q (.member read "" :: frames)
  | .colon read _ => Hold Q (.member read "" :: frames)
  | .afterMember read => Hold Q (.member read "" :: frames)
  | .done v => Q 0 v

namespace Reader

def Holds (Q : Nat → Value → Prop) (r : Reader) : Prop := r.expecting.Holds Q r.frames

theorem holds_complete {v : Value} {frames : List Frame} (h : Hold Q frames)
    (hv : Q frames.length v) : (complete v frames).Holds Q := by
  cases frames with
  | nil => exact hv
  | cons f frames =>
      obtain ⟨hlimit, hf, hframes⟩ := h
      cases f with
      | items read => exact ⟨hlimit, List.forall_mem_cons.2 ⟨hv, hf⟩, hframes⟩
      | member read key => exact ⟨hlimit, List.forall_mem_cons.2 ⟨hv, hf⟩, hframes⟩

theorem Holds.begin? (hQ : Closed Q) {frames : List Frame} (h : Hold Q frames)
    {token : Token} (ht : token.Spelled) {r : Reader} (hr : Reader.begin? frames token = some r) :
    r.Holds Q := by
  cases token with
  | scalar v =>
      cases hr
      obtain ⟨t, htoken⟩ := ht v rfl
      exact holds_complete h (hQ.scalar _ h.length_le t v htoken)
  | string s =>
      cases hr
      exact holds_complete h (hQ.string _ h.length_le s)
  | openArray =>
      rw [Reader.begin?] at hr
      split at hr <;> cases hr
      rename_i hlimit
      exact ⟨hlimit, List.forall_mem_nil _, h⟩
  | openObject =>
      rw [Reader.begin?] at hr
      split at hr <;> cases hr
      rename_i hlimit
      exact ⟨hlimit, List.forall_mem_nil _, h⟩
  | _ => cases hr

/-- One token keeps the property: a closing one puts an array or an object together, the others
leave what has been read. -/
theorem Holds.step (hQ : Closed Q) {r r' : Reader} (h : r.Holds Q) {token : Token}
    (ht : token.Spelled) (hr : r.step Record.ofList token = some r') : r'.Holds Q := by
  obtain ⟨frames, expecting⟩ := r
  cases expecting with
  | value => exact Holds.begin? hQ h ht hr
  | firstItem =>
      obtain ⟨hlimit, -, hframes⟩ := id h
      cases token with
      | closeArray =>
          cases hr
          exact holds_complete hframes (hQ.array _ hlimit [] (List.forall_mem_nil _))
      | _ => exact Holds.begin? hQ h ht hr
  | afterItem read =>
      obtain ⟨hlimit, hread, hframes⟩ := id h
      cases token with
      | comma =>
          cases hr
          exact h
      | closeArray =>
          cases hr
          refine holds_complete hframes (hQ.array _ hlimit _ fun v hv => ?_)
          exact hread v (List.mem_reverse.1 hv)
      | _ => cases hr
  | firstKey =>
      obtain ⟨hlimit, -, hframes⟩ := id h
      cases token with
      | string key =>
          cases hr
          exact h
      | closeObject =>
          cases hr
          exact holds_complete hframes (hQ.object _ hlimit [] (List.forall_mem_nil _))
      | _ => cases hr
  | key read =>
      cases token with
      | string key =>
          cases hr
          exact h
      | _ => cases hr
  | colon read key =>
      cases token with
      | colon =>
          cases hr
          exact h
      | _ => cases hr
  | afterMember read =>
      obtain ⟨hlimit, hread, hframes⟩ := id h
      cases token with
      | comma =>
          cases hr
          exact h
      | closeObject =>
          cases hr
          refine holds_complete hframes (hQ.object _ hlimit _ fun m hm => ?_)
          exact hread m (List.mem_reverse.1 hm)
      | _ => cases hr
  | done v => cases token <;> cases hr

theorem Holds.foldlM (hQ : Closed Q) {tokens : List Token} {r r' : Reader} (h : r.Holds Q)
    (ht : ∀ token ∈ tokens, token.Spelled)
    (hr : tokens.foldlM (Reader.step Record.ofList) r = some r') : r'.Holds Q := by
  induction tokens generalizing r with
  | nil =>
      cases hr
      exact h
  | cons token tokens ih =>
      rw [List.foldlM_cons] at hr
      obtain ⟨m, hm, hr⟩ := Option.bind_eq_some_iff.1 hr
      obtain ⟨htoken, ht⟩ := List.forall_mem_cons.1 ht
      exact ih (h.step hQ htoken hm) ht hr

theorem Holds.finish? {r : Reader} (h : r.Holds Q) {v : Value} (hv : r.finish? = some v) :
    Q 0 v := by
  unfold Reader.finish? at hv
  split at hv <;> cases hv
  rename_i hdone
  unfold Holds at h
  rwa [hdone] at h

end Reader

/-- What a text spells has every property that reading builds up. -/
theorem of_read? (hQ : Closed Q) {t : List Char} {v : Value}
    (h : read? t = some v) : Q 0 v := by
  obtain ⟨tokens, htokens, hv⟩ := Option.bind_eq_some_iff.1 h
  obtain ⟨r, hr, hfinish⟩ := Option.bind_eq_some_iff.1 hv
  have hstart : Reader.start.Holds Q := trivial
  exact (hstart.foldlM hQ (Token.spelled_of_ofText? htokens) hr).finish? hfinish

theorem closed_depth : Closed fun n v => v.depth + n ≤ depthLimit where
  scalar n hn t v hv := by
    have hdepth : v.depth = 0 := (Token.every_readable_of_ofBare? hv).2
    omega
  string n hn s := by
    have hdepth : (Value.string s).depth = 0 := by simp [Value.depth]
    omega
  array n hn items hitems := by
    have hdepth : Value.depthOfItems items ≤ depthLimit - (n + 1) :=
      Value.depthOfItems_le_iff.2 fun v hv => Nat.le_sub_of_add_le (hitems v hv)
    rw [Value.depth]
    omega
  object n hn members hmembers := by
    have hdepth : Value.depthOfMembers (Record.ofList members) ≤ depthLimit - (n + 1) :=
      Value.depthOfMembers_le_iff.2 fun m hm =>
        Nat.le_sub_of_add_le (hmembers m (Record.mem_ofList hm))
    rw [Value.depth]
    omega

theorem depth_le_of_read? {t : List Char} {v : Value} (h : read? t = some v) :
    v.depth ≤ depthLimit := of_read? closed_depth h

theorem closed_readable : Closed fun _ v => v.Every Value.Frame.Readable where
  scalar _ _ t v hv := (Token.every_readable_of_ofBare? hv).1
  string _ _ s := ⟨trivial, nofun⟩
  array _ _ items hitems := ⟨trivial, hitems⟩
  object _ _ members hmembers := by
    refine ⟨Record.nodup_keys_ofList members, fun w hw => ?_⟩
    obtain ⟨m, hm, rfl⟩ := List.mem_map.1 hw
    exact hmembers m (Record.mem_ofList hm)

theorem every_readable_of_read? {t : List Char} {v : Value} (h : read? t = some v) :
    v.Every Value.Frame.Readable := of_read? closed_readable h

end Json
end FieldRules
