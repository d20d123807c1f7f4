import FieldRules.Proofs.CleanTexts
import Mathlib.Data.List.Nodup
import Mathlib.Data.List.Perm.Subperm

/-!
# Vectors that cleaning puts together

Where a piece is removed, what stood before it and what stood behind it meet, and may form a scheme
or a handler that the text did not hold. To tell such a vector from one of the text, every character
carries its place through the passes; they do not look at it, so the characters are those of
`clean`. No vector of the text comes through whole. Of the passes this needs two facts only: no
piece begins at a character that is kept, and a removed character in front of a kept one ends its
piece.
-/

namespace FieldRules

namespace Text

/-- The pass on characters with their places. -/
def removePlaced (size : List Char → Nat) : Nat → List (Char × Nat) → List (Char × Nat)
  | _, [] => []
  | skip + 1, _ :: l => removePlaced size skip l
  | 0, p :: l =>
    match size ((p :: l).map Prod.fst) with
    | 0 => p :: removePlaced size 0 l
    | n + 1 => removePlaced size n l

variable {size : List Char → Nat} {skip : Nat}

theorem map_fst_removePlaced (size : List Char → Nat) (skip : Nat) (l : List (Char × Nat)) :
    (removePlaced size skip l).map Prod.fst = removeFrom size skip (l.map Prod.fst) := by
  induction l generalizing skip with
  | nil => simp [removePlaced]
  | cons p l ih =>
      cases skip with
      | succ skip => exact ih skip
      | zero =>
          rw [removePlaced, List.map_cons, removeFrom]
          cases size (p.1 :: l.map Prod.fst) with
          | zero => exact congrArg (List.cons p.1) (ih 0)
          | succ n => exact ih n

theorem removePlaced_sublist (size : List Char → Nat) (skip : Nat) (l : List (Char × Nat)) :
    (removePlaced size skip l).Sublist l := by
  induction l generalizing skip with
  | nil => simp [removePlaced]
  | cons p l ih =>
      cases skip with
      | succ skip => exact (ih skip).cons p
      | zero =>
          rw [removePlaced]
          split
          · exact (ih 0).cons_cons p
          · exact (ih _).cons p

/-- No piece begins at a character that is kept, nor is it one of the characters left out first. -/
theorem size_eq_zero_of_mem_removePlaced {front rest : List (Char × Nat)} {p : Char × Nat}
    (hd : (front ++ p :: rest).Nodup) (hp : p ∈ removePlaced size skip (front ++ p :: rest)) :
    skip ≤ front.length ∧ size ((p :: rest).map Prod.fst) = 0 := by
  induction front generalizing skip with
  | nil =>
      have hp' : ∀ n, p ∉ removePlaced size n rest := fun n h =>
        (List.nodup_cons.1 hd).1 ((removePlaced_sublist size n rest).subset h)
      cases skip with
      | succ skip => exact absurd hp (hp' skip)
      | zero =>
          rw [List.nil_append, removePlaced] at hp
          split at hp
          · rename_i hs
            exact ⟨Nat.le_refl 0, hs⟩
          · exact absurd hp (hp' _)
  | cons q front ih =>
      rw [List.cons_append, List.nodup_cons] at hd
      have hq : p ≠ q := fun h => hd.1 (h ▸ by simp)
      cases skip with
      | succ skip => exact (ih hd.2 hp).imp_left Nat.succ_le_succ
      | zero =>
          rw [List.cons_append, removePlaced] at hp
          split at hp
          · exact (ih hd.2 ((List.mem_cons.1 hp).resolve_left hq)).imp_left fun _ => Nat.zero_le _
          · exact (ih hd.2 hp).imp_left fun _ => Nat.zero_le _

theorem skip_eq_zero_of_mem_removePlaced {rest : List (Char × Nat)} {p : Char × Nat}
    (hd : (p :: rest).Nodup) (hp : p ∈ removePlaced size skip (p :: rest)) : skip = 0 := by
  have h : skip ≤ ([] : List (Char × Nat)).length ∧ _ := size_eq_zero_of_mem_removePlaced hd hp
  exact Nat.le_zero.1 h.1

/-- The first character of `rest` is the last one of a piece that begins in `front`, or there. -/
def EndsPiece (size : List Char → Nat) (front rest : List (Char × Nat)) : Prop :=
  ∃ before piece, front = before ++ piece ∧
    size ((piece ++ rest).map Prod.fst) = piece.length + 1

theorem EndsPiece.cons {front rest : List (Char × Nat)} (h : EndsPiece size front rest)
    (c : Char × Nat) : EndsPiece size (c :: front) rest := by
  obtain ⟨before, piece, rfl, hs⟩ := h
  exact ⟨c :: before, piece, rfl, hs⟩

theorem EndsPiece.exists_piece {IsPiece : List Char → Prop} {front rest : List (Char × Nat)}
    {p : Char × Nat} (h : EndsPiece size front (p :: rest)) (hcuts : Cuts size IsPiece) :
    ∃ v, IsPiece (v ++ [p.1]) := by
  obtain ⟨before, piece, -, hs⟩ := h
  rw [List.map_append, List.map_cons, ← List.length_map Prod.fst] at hs
  exact ⟨piece.map Prod.fst, hcuts.piece_of_size hs⟩

/-- A removed character in front of a kept one is the last of those left out first or of a piece. -/
theorem endsPiece_of_mem_removePlaced {front rest : List (Char × Nat)} {p q : Char × Nat}
    (hd : (front ++ p :: q :: rest).Nodup)
    (hp : p ∉ removePlaced size skip (front ++ p :: q :: rest))
    (hq : q ∈ removePlaced size skip (front ++ p :: q :: rest)) :
    skip = front.length + 1 ∨ EndsPiece size front (p :: q :: rest) := by
  induction front generalizing skip with
  | nil =>
      cases skip with
      | succ skip =>
          have hskip : skip = 0 := skip_eq_zero_of_mem_removePlaced hd.of_cons hq
          exact Or.inl (by rw [hskip]; rfl)
      | zero =>
          rw [List.nil_append, removePlaced] at hp hq
          split at hp
          · exact absurd List.mem_cons_self hp
          · rename_i n hs
            rw [hs] at hq
            have hn : n = 0 := skip_eq_zero_of_mem_removePlaced hd.of_cons hq
            exact Or.inr ⟨[], [], rfl, by rw [List.nil_append, hs, hn]; rfl⟩
  | cons c front ih =>
      rw [List.cons_append, List.nodup_cons] at hd
      cases skip with
      | succ skip =>
          rcases ih hd.2 hp hq with hskip | hpiece
          · exact Or.inl (congrArg Nat.succ hskip)
          · exact Or.inr (hpiece.cons c)
      | zero =>
          rw [List.cons_append, removePlaced] at hp hq
          cases hs : size ((c :: (front ++ p :: q :: rest)).map Prod.fst) with
          | zero =>
              rw [hs] at hp hq
              have hc : q ≠ c := fun h => hd.1 (h ▸ by simp)
              rcases ih hd.2 (fun h => hp (List.mem_cons_of_mem c h))
                ((List.mem_cons.1 hq).resolve_left hc) with hskip | hpiece
              · cases hskip
              · exact Or.inr (hpiece.cons c)
          | succ n =>
              rw [hs] at hp hq
              rcases ih hd.2 hp hq with rfl | hpiece
              · exact Or.inr ⟨[], c :: front, rfl, hs⟩
              · exact Or.inr (hpiece.cons c)

/-- What stands together in a list stands together in a part that keeps all of it. -/
theorem exists_append_of_subset {l s front v rest : List (Char × Nat)} (hd : l.Nodup)
    (hl : l = front ++ (v ++ rest)) (hs : s.Sublist l) (hv : v ⊆ s) :
    ∃ s₁ s₃, s₁.Sublist front ∧ s = s₁ ++ (v ++ s₃) := by
  subst hl
  obtain ⟨s₁, s₂₃, rfl, h₁, h₂₃⟩ := List.sublist_append_iff.1 hs
  obtain ⟨s₂, s₃, rfl, h₂, h₃⟩ := List.sublist_append_iff.1 h₂₃
  rw [List.nodup_append, List.nodup_append] at hd
  obtain ⟨-, ⟨hnodup, -, hrest⟩, hfront⟩ := hd
  have hv₂ : v ⊆ s₂ := by
    intro p hp
    rcases List.mem_append.1 (hv hp) with hp' | hp'
    · exact absurd rfl (hfront p (h₁.subset hp') p (List.mem_append_left rest hp))
    · rcases List.mem_append.1 hp' with hp' | hp'
      · exact hp'
      · exact absurd rfl (hrest p hp p (h₃.subset hp'))
  have heq : s₂ = v := h₂.eq_of_length_le (List.subperm_of_subset hnodup hv₂).length_le
  exact ⟨s₁, s₃, h₁, by rw [heq]⟩

theorem infix_of_subset {l s v : List (Char × Nat)} (hd : l.Nodup) (hs : s.Sublist l)
    (hv : v <:+: l) (hsub : v ⊆ s) : v <:+: s := by
  obtain ⟨front, rest, hl⟩ := hv
  obtain ⟨s₁, s₃, -, heq⟩ := exists_append_of_subset hd (by rw [← hl, List.append_assoc]) hs hsub
  exact ⟨s₁, s₃, by rw [heq, List.append_assoc]⟩

theorem prefix_of_subset {l s v : List (Char × Nat)} (hd : l.Nodup) (hs : s.Sublist l)
    (hv : v <+: l) (hsub : v ⊆ s) : v <+: s := by
  obtain ⟨rest, hl⟩ := hv
  have hsplit : ∃ s₁ s₃, s₁.Sublist [] ∧ s = s₁ ++ (v ++ s₃) :=
    exists_append_of_subset hd hl.symm hs hsub
  obtain ⟨s₁, s₃, h₁, heq⟩ := hsplit
  rw [List.sublist_nil.1 h₁] at heq
  exact ⟨s₃, heq.symm⟩

end Text

namespace Cleaning

/-- A handler ends with a quote. -/
theorem IsHandler.unblank_of_append {v : List Char} {c : Char} (h : IsHandler (v ++ [c])) :
    Text.isBlank c = false := by
  obtain ⟨on, name, before, behind, value, -, -, -, -, -, ⟨q, body, hq, -, rfl⟩, heq⟩ := h
  have hlast : v ++ [c] = (on ++ (name ++ (before ++ '=' :: (behind ++ q :: body)))) ++ [q] := by
    simpa using heq
  have hc : c = q := List.singleton_inj.1 (List.append_inj' hlast rfl).2
  rcases hq with rfl | rfl
  · rw [hc]
    decide
  · rw [hc]
    decide

theorem IsSpacedHandler.unblank_of_append {v : List Char} {c : Char}
    (h : IsSpacedHandler (v ++ [c])) : Text.isBlank c = false := by
  obtain ⟨b, w, -, hw, heq⟩ := h
  cases v with
  | nil => exact absurd (List.cons.inj heq).2.symm hw.ne_nil
  | cons d v =>
      rw [List.cons_append, List.cons.injEq] at heq
      exact IsHandler.unblank_of_append (heq.2 ▸ hw)

/-- The letters of the scheme are no blanks in either case, and a blank ends an address. -/
theorem IsLink.unblank {v : List Char} (h : IsLink v) {c : Char} (hc : c ∈ v) :
    Text.isBlank c = false := by
  obtain ⟨start, address, closing, hstart, haddress, hclosing, rfl⟩ := h
  rw [List.mem_append, List.mem_append] at hc
  rcases hc with hc | hc | hc
  · have hfold : Text.fold c ∈ scheme.map Text.fold := hstart ▸ List.mem_map_of_mem hc
    have hblanks : ∀ n ∈ Text.blankCodes,
        Char.ofNat (Text.foldBy Text.foldRuns n) ∉ scheme.map Text.fold := by decide +kernel
    exact Bool.eq_false_iff.2 fun hblank => hblanks _ (Text.mem_blankCodes hblank) hfold
  · have hlink := haddress c hc
    simp only [isLinkChar, Bool.and_eq_true, Bool.not_eq_true'] at hlink
    exact hlink.2
  · rw [hclosing c hc]
    decide

def trimPlaced (l : List (Char × Nat)) : List (Char × Nat) :=
  ((l.dropWhile fun p => Text.isBlank p.1).reverse.dropWhile fun p => Text.isBlank p.1).reverse

def dropLinksPlaced (l : List (Char × Nat)) : List (Char × Nat) :=
  Text.removePlaced linkSize 0 l

def dropHandlersPlaced (l : List (Char × Nat)) : List (Char × Nat) :=
  Text.removePlaced handlerSize (bareHandlerSize (l.map Prod.fst)) l

def dropTagsPlaced (l : List (Char × Nat)) : List (Char × Nat) :=
  Text.removePlaced tagSize 0 l

/-- The cleaned text, each character with the place where it stood before. -/
def cleanPlaced (l : List (Char × Nat)) : List (Char × Nat) :=
  dropTagsPlaced (dropHandlersPlaced (dropLinksPlaced (trimPlaced l)))

theorem map_fst_trimPlaced (l : List (Char × Nat)) :
    (trimPlaced l).map Prod.fst = Text.trim (l.map Prod.fst) := by
  simp only [trimPlaced, Text.trim, Text.trimEnd, Text.trimStart, List.dropWhile_map,
    ← List.map_reverse]
  rfl

theorem trimPlaced_sublist (l : List (Char × Nat)) : (trimPlaced l).Sublist l :=
  (List.rdropWhile_prefix _ _).sublist.trans (List.dropWhile_sublist _)

theorem map_fst_cleanPlaced (l : List (Char × Nat)) :
    (cleanPlaced l).map Prod.fst = clean (l.map Prod.fst) := by
  simp only [cleanPlaced, dropTagsPlaced, dropHandlersPlaced, dropLinksPlaced, clean, dropTags,
    dropHandlers, dropLinks, Text.map_fst_removePlaced, Text.removeFrom_eq_drop, List.drop_zero,
    map_fst_trimPlaced]

variable {l v : List (Char × Nat)}

/-- The first character of a scheme that stands in the text is removed. -/
theorem not_subset_dropLinksPlaced (hd : l.Nodup) (hv : v <:+: l)
    (hscheme : Spells scheme (v.map Prod.fst)) : ¬ v ⊆ dropLinksPlaced l := by
  intro hsub
  obtain ⟨front, rest, rfl⟩ := hv
  cases v with
  | nil => exact not_spells_scheme_nil hscheme
  | cons p w =>
      rw [List.append_assoc, List.cons_append] at hd hsub
      have hs := (Text.size_eq_zero_of_mem_removePlaced hd (hsub List.mem_cons_self)).2
      refine finds_linkSize.eq_zero_iff.1 hs _ ?_ hscheme
      rw [← List.cons_append, List.map_append]
      exact List.prefix_append _ _

/-- A handler at the start of the text is left out first. -/
theorem not_subset_dropHandlersPlaced_of_prefix (hd : l.Nodup) (hv : v <+: l)
    (hhandler : IsHandler (v.map Prod.fst)) : ¬ v ⊆ dropHandlersPlaced l := by
  intro hsub
  obtain ⟨rest, rfl⟩ := hv
  cases v with
  | nil => exact hhandler.ne_nil rfl
  | cons p w =>
      have hskip := Text.skip_eq_zero_of_mem_removePlaced hd (hsub List.mem_cons_self)
      rw [List.map_append, measures_bareHandlerSize.complete hhandler] at hskip
      cases hskip

/-- A blank in front of a handler is removed with it, or is the last character of another handler;
but no handler ends with a blank. -/
theorem not_subset_dropHandlersPlaced_of_blank {p : Char × Nat} (hd : l.Nodup)
    (hp : Text.isBlank p.1 = true) (hv : p :: v <:+: l) (hhandler : IsHandler (v.map Prod.fst)) :
    ¬ v ⊆ dropHandlersPlaced l := by
  intro hsub
  obtain ⟨front, rest, rfl⟩ := hv
  rw [List.append_assoc, List.cons_append] at hd hsub
  by_cases hkept : p ∈ dropHandlersPlaced (front ++ p :: (v ++ rest))
  · have hs := (Text.size_eq_zero_of_mem_removePlaced hd hkept).2
    have hspaced : IsSpacedHandler ((p :: v).map Prod.fst) := ⟨p.1, _, hp, hhandler, rfl⟩
    rw [← List.cons_append, List.map_append, measures_handlerSize.complete hspaced] at hs
    cases hs
  · cases v with
    | nil => exact hhandler.ne_nil rfl
    | cons q w =>
        rcases Text.endsPiece_of_mem_removePlaced hd hkept (hsub List.mem_cons_self) with
          hfirst | hends
        · -- The handler at the start is a piece as well, without a blank of its own.
          have hends : Text.EndsPiece bareHandlerSize front (p :: q :: (w ++ rest)) :=
            ⟨[], front, rfl, hfirst⟩
          obtain ⟨u, hu⟩ := hends.exists_piece cuts_bareHandlerSize
          rw [hu.unblank_of_append] at hp
          cases hp
        · obtain ⟨u, hu⟩ := hends.exists_piece measures_handlerSize.sound
          rw [hu.unblank_of_append] at hp
          cases hp

/-- A blank in front of a kept character is kept, since there are no blanks in a link. -/
theorem mem_dropLinksPlaced_of_blank {p q : Char × Nat} (hd : l.Nodup)
    (hp : Text.isBlank p.1 = true) (hv : p :: q :: v <:+: l) (hq : q ∈ dropLinksPlaced l) :
    p ∈ dropLinksPlaced l := by
  obtain ⟨front, rest, rfl⟩ := hv
  rw [List.append_assoc, List.cons_append, List.cons_append] at hd hq ⊢
  by_contra hremoved
  rcases Text.endsPiece_of_mem_removePlaced hd hremoved hq with hfirst | hends
  · cases hfirst
  · obtain ⟨u, hu⟩ := hends.exists_piece cuts_linkSize
    rw [hu.unblank (by simp)] at hp
    cases hp

/-- No vector of the text comes through whole: the characters of a scheme in the cleaned text did
not stand together before, and those of a handler did not stand together at the start of the trimmed
text or behind a blank of it. -/
theorem vectors_of_clean_are_assembled (t : List Char) :
    let placed := t.zipIdx
    (cleanPlaced placed).map Prod.fst = clean t ∧ (cleanPlaced placed).Sublist placed ∧
      ∀ v, v <:+: cleanPlaced placed →
        (Spells scheme (v.map Prod.fst) → ¬ v <:+: placed) ∧
        (IsHandler (v.map Prod.fst) → ¬ v <+: trimPlaced placed ∧
          ∀ p, Text.isBlank p.1 = true → ¬ (p :: v) <:+: trimPlaced placed) := by
  intro placed
  have hd : placed.Nodup := by
    refine List.Nodup.of_map Prod.snd ?_
    rw [List.zipIdx_map_snd]
    exact List.nodup_range'
  have htrim : (trimPlaced placed).Sublist placed := trimPlaced_sublist placed
  have hlinks : (dropLinksPlaced (trimPlaced placed)).Sublist (trimPlaced placed) :=
    Text.removePlaced_sublist _ _ _
  have hhandlers : (dropHandlersPlaced (dropLinksPlaced (trimPlaced placed))).Sublist
      (dropLinksPlaced (trimPlaced placed)) := Text.removePlaced_sublist _ _ _
  have htags : (cleanPlaced placed).Sublist
      (dropHandlersPlaced (dropLinksPlaced (trimPlaced placed))) := Text.removePlaced_sublist _ _ _
  have hdtrim := hd.sublist htrim
  have hdlinks := hdtrim.sublist hlinks
  refine ⟨by rw [map_fst_cleanPlaced, List.zipIdx_map_fst],
    htags.trans (hhandlers.trans (hlinks.trans htrim)), fun v hv => ?_⟩
  have hsub₃ : v ⊆ dropHandlersPlaced (dropLinksPlaced (trimPlaced placed)) :=
    List.Subset.trans hv.subset htags.subset
  have hsub₂ := List.Subset.trans hsub₃ hhandlers.subset
  refine ⟨fun hscheme hstood => ?_, fun hhandler => ⟨fun hstood => ?_, fun p hp hstood => ?_⟩⟩
  · have hstood' := Text.infix_of_subset hd htrim hstood (List.Subset.trans hsub₂ hlinks.subset)
    exact not_subset_dropLinksPlaced hdtrim hstood' hscheme hsub₂
  · have hstood' := Text.prefix_of_subset hdtrim hlinks hstood hsub₂
    exact not_subset_dropHandlersPlaced_of_prefix hdlinks hstood' hhandler hsub₃
  · have hkept : p ∈ dropLinksPlaced (trimPlaced placed) := by
      cases v with
      | nil => exact absurd rfl hhandler.ne_nil
      | cons q w => exact mem_dropLinksPlaced_of_blank hdtrim hp hstood (hsub₂ List.mem_cons_self)
    have hstood' := Text.infix_of_subset hdtrim hlinks hstood (List.cons_subset.2 ⟨hkept, hsub₂⟩)
    exact not_subset_dropHandlersPlaced_of_blank hdlinks hp hstood' hhandler hsub₃

/-- A tag between the parts of a scheme, and one in front of a handler. -/
theorem clean_assembles_vectors :
    (∃ v, v <:+: clean "java<b>script:x".toList ∧ Spells scheme v) ∧
      ∃ v, v <+: clean "<b>onclick='x'".toList ∧ IsHandler v := by
  constructor
  · exact ⟨scheme, by decide +kernel, rfl⟩
  · have hname : ∀ c ∈ "click".toList, Text.isWord c = true :=
      List.all_eq_true.1 (by decide +kernel)
    exact ⟨"onclick='x'".toList, by decide +kernel, ['o', 'n'], "click".toList, [], [],
      "'x'".toList, rfl, by decide, hname, by simp, by simp,
      ⟨'\'', ['x'], by simp, by simp, rfl⟩, rfl⟩

end Cleaning
end FieldRules
