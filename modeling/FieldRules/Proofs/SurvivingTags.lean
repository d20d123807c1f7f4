import FieldRules.Proofs.CleanTexts

/-!
# Tags that survive

The pass over tags goes through a text once, so a tag may stand in what it leaves. Such a tag is
always put together: its brackets stood around tags that were removed, and around nothing else but
characters that are no brackets. The pass cuts a text into the characters that stay and the pieces
that it removes, and both directions follow that cut.
-/

namespace FieldRules

namespace Text

variable {size : List Char → Nat} {IsPiece : List Char → Prop}

theorem Measures.removeAll_append (h : Measures size IsPiece) {v : List Char} (hv : IsPiece v)
    (t : List Char) : removeAll size (v ++ t) = removeAll size t := by
  cases v with
  | nil => rfl
  | cons c v =>
      have hsize : size (c :: (v ++ t)) = v.length + 1 := h.complete hv t
      rw [List.cons_append, removeAll_of_size_eq_succ size hsize, List.drop_left]

/-- A pass comes to a character that stays or to a piece that it removes, and goes on behind it. -/
@[elab_as_elim]
theorem Measures.pass_induction (h : Measures size IsPiece) {motive : List Char → Prop}
    (nil : motive [])
    (kept : ∀ c t, size (c :: t) = 0 → motive t → motive (c :: t))
    (removed : ∀ v t, IsPiece v → motive t → motive (v ++ t)) (t : List Char) : motive t := by
  induction hn : t.length using Nat.strong_induction_on generalizing t with
  | _ n ih =>
      subst hn
      cases t with
      | nil => exact nil
      | cons c t =>
          cases hs : size (c :: t) with
          | zero => exact kept c t hs (ih t.length (by simp) t rfl)
          | succ n =>
              obtain ⟨v, rest, heq, hlength, hv⟩ := h.sound (c :: t) n hs
              have hshorter : rest.length < (c :: t).length := by
                rw [heq, List.length_append]
                omega
              rw [heq]
              exact removed v rest hv (ih rest.length hshorter rest rfl)

/-- A character of the result stood in the text where no piece began, and the pass went on behind
it. -/
theorem Measures.exists_of_removeAll_eq (h : Measures size IsPiece) {t u w : List Char} {c : Char}
    (heq : removeAll size t = u ++ c :: w) :
    ∃ front rest, t = front ++ c :: rest ∧ size (c :: rest) = 0 ∧ removeAll size rest = w := by
  induction t using h.pass_induction generalizing u with
  | nil => simp at heq
  | kept d t hs ih =>
      rw [removeAll_of_size_eq_zero size hs] at heq
      cases u with
      | nil =>
          obtain ⟨rfl, rfl⟩ := List.cons.inj heq
          exact ⟨[], t, rfl, hs, rfl⟩
      | cons e u =>
          obtain ⟨rfl, htail⟩ := List.cons.inj heq
          obtain ⟨front, rest, rfl, hrest⟩ := ih htail
          exact ⟨d :: front, rest, rfl, hrest⟩
  | removed v t hv ih =>
      rw [h.removeAll_append hv] at heq
      obtain ⟨front, rest, rfl, hrest⟩ := ih heq
      exact ⟨v ++ front, rest, (List.append_assoc v front _).symm, hrest⟩

end Text

namespace Cleaning

def IsPlain (t : List Char) : Prop := '<' ∉ t ∧ '>' ∉ t

/-- One tag or more, and otherwise characters that are no angle brackets. -/
def HoldsTags (t : List Char) : Prop :=
  ∃ parts : List (List Char), t = parts.flatten ∧ (∀ p ∈ parts, IsTag p ∨ IsPlain p) ∧
    ∃ p ∈ parts, IsTag p

theorem isPlain_nil : IsPlain [] := ⟨List.not_mem_nil, List.not_mem_nil⟩

theorem isPlain_append {t t' : List Char} : IsPlain (t ++ t') ↔ IsPlain t ∧ IsPlain t' := by
  simp only [IsPlain, List.mem_append, not_or]
  exact and_and_and_comm

theorem isPlain_cons {c : Char} {t : List Char} :
    IsPlain (c :: t) ↔ (c ≠ '<' ∧ c ≠ '>') ∧ IsPlain t := by
  simp only [IsPlain, List.mem_cons, not_or, eq_comm]
  exact and_and_and_comm

theorem isTag_iff {t : List Char} : IsTag t ↔ ∃ body, IsPlain body ∧ t = '<' :: (body ++ ['>']) := by
  simp only [IsTag, IsPlain, and_assoc]

/-- An opening bracket of a tag stands at its beginning. -/
theorem IsTag.eq_nil_of_append_open {front rest : List Char} (h : IsTag (front ++ '<' :: rest)) :
    front = [] := by
  obtain ⟨body, hopen, -, heq⟩ := h
  cases front with
  | nil => rfl
  | cons c front =>
      have htail := (List.cons.inj heq).2
      have hmem : '<' ∈ body ++ ['>'] := htail ▸ by simp
      simp [hopen] at hmem

theorem dropTags_tag_append {v : List Char} (hv : IsTag v) (t : List Char) :
    dropTags (v ++ t) = dropTags t := measures_tagSize.removeAll_append hv t

theorem tagSize_of_ne_open {c : Char} (hc : c ≠ '<') (t : List Char) : tagSize (c :: t) = 0 := by
  unfold tagSize
  split
  · rename_i h
    exact absurd (List.cons.inj h).1 hc
  · rfl

theorem dropTags_cons_of_ne_open {c : Char} (hc : c ≠ '<') (t : List Char) :
    dropTags (c :: t) = c :: dropTags t :=
  Text.removeAll_of_size_eq_zero tagSize (tagSize_of_ne_open hc t)

theorem dropTags_plain_append {p : List Char} (hp : IsPlain p) (t : List Char) :
    dropTags (p ++ t) = p ++ dropTags t := by
  induction p with
  | nil => rfl
  | cons c p ih =>
      obtain ⟨⟨hc, -⟩, hp⟩ := isPlain_cons.1 hp
      rw [List.cons_append, dropTags_cons_of_ne_open hc, ih hp, List.cons_append]

/-- A bracket that another opening bracket follows first begins no tag. -/
theorem tagSize_of_open_open {p : List Char} (hp : IsPlain p) (t : List Char) :
    tagSize ('<' :: (p ++ '<' :: t)) = 0 := by
  have hinner : (p ++ '<' :: t).takeWhile (fun c => c != '<' && c != '>') = p := by
    refine takeWhile_append_of_stop (fun c hc => ?_) (by simp)
    have hc' : c ≠ '<' ∧ c ≠ '>' := ⟨fun h => hp.1 (h ▸ hc), fun h => hp.2 (h ▸ hc)⟩
    simpa using hc'
  simp [tagSize, hinner]

/-- The pass is between two pieces when it comes to an opening bracket. -/
theorem exists_dropTags_append_open (front rest : List Char) :
    ∃ u, dropTags (front ++ '<' :: rest) = u ++ dropTags ('<' :: rest) := by
  generalize ht : front ++ '<' :: rest = t
  induction t using measures_tagSize.pass_induction generalizing front with
  | nil => simp at ht
  | kept c t hs ih =>
      cases front with
      | nil => exact ⟨[], by rw [← ht]; rfl⟩
      | cons d front =>
          obtain ⟨rfl, rfl⟩ := List.cons.inj ht
          obtain ⟨u, hu⟩ := ih front rfl
          exact ⟨d :: u, by rw [dropTags, Text.removeAll_of_size_eq_zero tagSize hs, ← dropTags, hu,
            List.cons_append]⟩
  | removed v t hv ih =>
      rcases List.append_eq_append_iff.1 ht with ⟨piece, rfl, hpiece⟩ | ⟨front', rfl, ht'⟩
      · cases piece with
        | nil =>
            obtain ⟨u, hu⟩ := ih [] hpiece
            exact ⟨u, by rw [dropTags_tag_append hv, hu]⟩
        | cons c piece =>
            obtain ⟨rfl, -⟩ := List.cons.inj hpiece
            -- The bracket belongs to the removed tag, so nothing stands in front of it.
            obtain rfl := hv.eq_nil_of_append_open
            exact ⟨[], by rw [← ht]; rfl⟩
      · obtain ⟨u, hu⟩ := ih front' ht'.symm
        exact ⟨u, by rw [dropTags_tag_append hv, hu]⟩

/-- Of tags and plain texts the pass leaves the plain ones. -/
theorem exists_dropTags_flatten_append {parts : List (List Char)}
    (h : ∀ p ∈ parts, IsTag p ∨ IsPlain p) :
    ∃ body, IsPlain body ∧ ∀ t, dropTags (parts.flatten ++ t) = body ++ dropTags t := by
  induction parts with
  | nil => exact ⟨[], isPlain_nil, fun _ => rfl⟩
  | cons p parts ih =>
      obtain ⟨hp, hparts⟩ := List.forall_mem_cons.1 h
      obtain ⟨body, hbody, hdrop⟩ := ih hparts
      rcases hp with hp | hp
      · refine ⟨body, hbody, fun t => ?_⟩
        rw [List.flatten_cons, List.append_assoc, dropTags_tag_append hp, hdrop]
      · refine ⟨p ++ body, isPlain_append.2 ⟨hp, hbody⟩, fun t => ?_⟩
        rw [List.flatten_cons, List.append_assoc, dropTags_plain_append hp, hdrop, List.append_assoc]

/-- The first bracket of a text that holds tags opens one. -/
theorem HoldsTags.exists_open {t : List Char} (h : HoldsTags t) :
    ∃ p rest, IsPlain p ∧ t = p ++ '<' :: rest := by
  obtain ⟨parts, rfl, hparts, htag⟩ := h
  induction parts with
  | nil =>
      obtain ⟨p, hp, -⟩ := htag
      cases hp
  | cons p parts ih =>
      obtain ⟨hp, hrest⟩ := List.forall_mem_cons.1 hparts
      rcases hp with hp | hp
      · obtain ⟨body, -, rfl⟩ := isTag_iff.1 hp
        exact ⟨[], _, isPlain_nil, rfl⟩
      · have htail : ∃ q ∈ parts, IsTag q := by
          obtain ⟨q, hq, hqtag⟩ := htag
          rcases List.mem_cons.1 hq with rfl | hq
          · obtain ⟨body, -, rfl⟩ := isTag_iff.1 hqtag
            exact absurd List.mem_cons_self hp.1
          · exact ⟨q, hq, hqtag⟩
        obtain ⟨p', rest, hp', heq⟩ := ih hrest htail
        exact ⟨p ++ p', rest, isPlain_append.2 ⟨hp, hp'⟩, by
          rw [List.flatten_cons, heq, List.append_assoc]⟩

/-- Where a plain text and a closing bracket are left, tags and plain texts stood before the
bracket. -/
theorem exists_parts_of_dropTags_eq {t body w : List Char} (hbody : IsPlain body)
    (heq : dropTags t = body ++ '>' :: w) :
    ∃ (parts : List (List Char)) (rest : List Char),
      t = parts.flatten ++ '>' :: rest ∧ ∀ p ∈ parts, IsTag p ∨ IsPlain p := by
  induction t using measures_tagSize.pass_induction generalizing body with
  | nil => simp [dropTags] at heq
  | kept c t hs ih =>
      rw [dropTags, Text.removeAll_of_size_eq_zero tagSize hs, ← dropTags] at heq
      cases body with
      | nil =>
          obtain ⟨rfl, -⟩ := List.cons.inj heq
          exact ⟨[], t, rfl, List.forall_mem_nil _⟩
      | cons d body =>
          obtain ⟨rfl, htail⟩ := List.cons.inj heq
          obtain ⟨hc, hbody⟩ := isPlain_cons.1 hbody
          obtain ⟨parts, rest, rfl, hparts⟩ := ih hbody htail
          have hplain : IsPlain [c] := isPlain_cons.2 ⟨hc, isPlain_nil⟩
          exact ⟨[c] :: parts, rest, rfl, List.forall_mem_cons.2 ⟨.inr hplain, hparts⟩⟩
  | removed v t hv ih =>
      rw [dropTags_tag_append hv] at heq
      obtain ⟨parts, rest, rfl, hparts⟩ := ih hbody heq
      exact ⟨v :: parts, rest, by rw [List.flatten_cons, List.append_assoc],
        List.forall_mem_cons.2 ⟨.inl hv, hparts⟩⟩

theorem isPlain_flatten {parts : List (List Char)} (h : ∀ p ∈ parts, IsPlain p) :
    IsPlain parts.flatten := by
  induction parts with
  | nil => exact isPlain_nil
  | cons p parts ih =>
      obtain ⟨hp, hparts⟩ := List.forall_mem_cons.1 h
      exact isPlain_append.2 ⟨hp, ih hparts⟩

theorem exists_tag_of_wrapped {front mid rest : List Char} (hmid : HoldsTags mid) :
    ∃ v, v <:+: dropTags (front ++ '<' :: (mid ++ '>' :: rest)) ∧ IsTag v := by
  obtain ⟨u, hu⟩ := exists_dropTags_append_open front (mid ++ '>' :: rest)
  have hkept : dropTags ('<' :: (mid ++ '>' :: rest)) = '<' :: dropTags (mid ++ '>' :: rest) := by
    obtain ⟨p, rest', hp, rfl⟩ := hmid.exists_open
    refine Text.removeAll_of_size_eq_zero tagSize ?_
    rw [List.append_assoc, List.cons_append]
    exact tagSize_of_open_open hp _
  obtain ⟨parts, rfl, hparts, -⟩ := hmid
  obtain ⟨body, hbody, hdrop⟩ := exists_dropTags_flatten_append hparts
  refine ⟨'<' :: (body ++ ['>']), ⟨u, dropTags rest, ?_⟩, isTag_iff.2 ⟨body, hbody, rfl⟩⟩
  rw [hu, hkept, hdrop, dropTags_cons_of_ne_open (by decide)]
  simp

theorem exists_wrapped_of_tag {t v : List Char} (hv : IsTag v) (h : v <:+: dropTags t) :
    ∃ front mid rest, t = front ++ '<' :: (mid ++ '>' :: rest) ∧ HoldsTags mid := by
  obtain ⟨body, hbody, rfl⟩ := isTag_iff.1 hv
  obtain ⟨u, w, hdrop⟩ := h
  have hopen : dropTags t = u ++ '<' :: (body ++ '>' :: w) := by simpa using hdrop.symm
  obtain ⟨front, behind, rfl, hsize, hbehind⟩ := measures_tagSize.exists_of_removeAll_eq hopen
  obtain ⟨parts, rest, rfl, hparts⟩ := exists_parts_of_dropTags_eq hbody hbehind
  refine ⟨front, parts.flatten, rest, rfl, parts, rfl, hparts, ?_⟩
  -- Without a tag between them the two brackets would have been a tag of the text.
  by_contra hnone
  push Not at hnone
  have hplain := isPlain_flatten fun p hp => (hparts p hp).resolve_left (hnone p hp)
  have hfound := measures_tagSize.complete (isTag_iff.2 ⟨_, hplain, rfl⟩) rest
  simp only [List.cons_append, List.append_assoc, List.nil_append] at hfound
  rw [hfound] at hsize
  cases hsize

/-- The last pass of `clean` leaves a tag exactly if two brackets of its text stood around one tag
or more and otherwise around characters that are no brackets. So a text is free of tags afterwards
if no opening bracket in it is followed by another one before the next closing bracket. -/
theorem tag_survives_iff (t : List Char) :
    ((∃ v, v <:+: dropTags t ∧ IsTag v) ↔
      ∃ front mid rest, t = front ++ '<' :: (mid ++ '>' :: rest) ∧ HoldsTags mid) ∧
    ((∀ front mid rest, t = front ++ '<' :: (mid ++ '<' :: rest) → '>' ∉ mid → '>' ∉ rest) →
      ∀ v, v <:+: dropTags t → ¬ IsTag v) := by
  constructor
  · constructor
    · rintro ⟨v, hv, htag⟩
      exact exists_wrapped_of_tag htag hv
    · rintro ⟨front, mid, rest, rfl, hmid⟩
      exact exists_tag_of_wrapped hmid
  · intro hopen v hv htag
    obtain ⟨front, mid, rest, rfl, hmid⟩ := exists_wrapped_of_tag htag hv
    obtain ⟨p, behind, hp, rfl⟩ := hmid.exists_open
    refine hopen front p (behind ++ '>' :: rest) ?_ hp.2 (by simp)
    rw [List.append_assoc, List.cons_append]

/-- Two tags between two brackets, and one that is left. -/
example : dropTags "a<b<i>c<br>d>e".toList = "a<bcd>e".toList := by decide

end Cleaning
end FieldRules
