import FieldRules.Proofs.ScriptVectors
import Mathlib.Data.List.DropRight
import Mathlib.Logic.Function.Iterate

/-!
# Texts that cleaning leaves alone

One call of `clean` may put together what it would have removed. But it only leaves characters out,
so a call that changes a text makes it shorter, and repeated calls come to a text that stays.
`IsClean` describes those texts without the passes: no blank at an end, and nowhere a scheme, a
handler at its place, or a tag.
-/

namespace FieldRules.Cleaning

theorem trimStart_sublist (t : List Char) : (Text.trimStart t).Sublist t :=
  List.dropWhile_sublist Text.isBlank

theorem trimEnd_sublist (t : List Char) : (Text.trimEnd t).Sublist t :=
  (List.rdropWhile_prefix Text.isBlank t).sublist

theorem trim_sublist (t : List Char) : (Text.trim t).Sublist t :=
  (trimEnd_sublist _).trans (trimStart_sublist t)

theorem dropLinks_sublist (t : List Char) : (dropLinks t).Sublist t :=
  Text.removeAll_sublist linkSize t

theorem dropHandlers_sublist (t : List Char) : (dropHandlers t).Sublist t :=
  (Text.removeAll_sublist handlerSize _).trans (List.drop_sublist _ t)

theorem dropTags_sublist (t : List Char) : (dropTags t).Sublist t :=
  Text.removeAll_sublist tagSize t

theorem clean_sublist (t : List Char) : (clean t).Sublist t :=
  (dropTags_sublist _).trans <| (dropHandlers_sublist _).trans <|
    (dropLinks_sublist _).trans <| trim_sublist t

theorem clean_eq_or_shorter (t : List Char) : clean t = t ∨ (clean t).length < t.length := by
  rcases Nat.lt_or_ge (clean t).length t.length with hlt | hge
  · exact Or.inr hlt
  · exact Or.inl ((clean_sublist t).eq_of_length_le hge)

/-- What one stage leaves out no later one brings back. -/
theorem comp_eq_self_iff {f g : List Char → List Char} (hf : ∀ t, (f t).Sublist t)
    (hg : ∀ t, (g t).Sublist t) (t : List Char) : g (f t) = t ↔ f t = t ∧ g t = t := by
  constructor
  · intro h
    have hback : t.Sublist (f t) := by
      have hlater := hg (f t)
      rwa [h] at hlater
    have hft : f t = t := (hf t).antisymm hback
    exact ⟨hft, by rwa [hft] at h⟩
  · rintro ⟨hft, hgt⟩
    rw [hft, hgt]

theorem trimStart_eq_self_iff {t : List Char} :
    Text.trimStart t = t ↔ ∀ c, t.head? = some c → Text.isBlank c = false := by
  cases t with
  | nil => simp [Text.trimStart]
  | cons c t =>
      cases hc : Text.isBlank c with
      | false => simp [Text.trimStart, hc]
      | true =>
          have hshorter := List.length_dropWhile_le Text.isBlank t
          simp only [Text.trimStart, List.dropWhile_cons_of_pos hc]
          refine iff_of_false (fun h => ?_) (by simp [hc])
          rw [h, List.length_cons] at hshorter
          omega

theorem trim_eq_self_iff {t : List Char} :
    Text.trim t = t ↔ (∀ c, t.head? = some c → Text.isBlank c = false) ∧
      ∀ c, t.getLast? = some c → Text.isBlank c = false := by
  have hend : Text.trimEnd t = t ↔ Text.trimStart t.reverse = t.reverse := by
    rw [Text.trimEnd, Text.trimStart, List.reverse_eq_iff]
  rw [Text.trim, comp_eq_self_iff trimStart_sublist trimEnd_sublist, hend,
    trimStart_eq_self_iff, trimStart_eq_self_iff, List.head?_reverse]

theorem not_spells_scheme_nil : ¬ Spells scheme [] := by decide +kernel

theorem dropLinks_eq_self_iff {t : List Char} :
    dropLinks t = t ↔ ∀ v, v <:+: t → ¬ Spells scheme v :=
  finds_linkSize.removeAll_eq_self_iff not_spells_scheme_nil t

theorem not_isSpacedHandler_nil : ¬ IsSpacedHandler [] := by
  rintro ⟨c, w, -, -, h⟩
  cases h

theorem drop_bareHandlerSize_eq_self_iff {t : List Char} :
    t.drop (bareHandlerSize t) = t ↔ ∀ v, v <+: t → ¬ IsHandler v := by
  rw [← (measures_bareHandlerSize.finds fun h => h.ne_nil rfl).eq_zero_iff]
  constructor
  · intro h
    cases hs : bareHandlerSize t with
    | zero => rfl
    | succ n =>
        obtain ⟨v, rest, rfl, hlength, -⟩ := measures_bareHandlerSize.sound t n hs
        have hdrop := congrArg List.length h
        rw [List.length_drop, List.length_append] at hdrop
        omega
  · intro h
    rw [h, List.drop_zero]

theorem dropHandlers_eq_self_iff {t : List Char} :
    dropHandlers t = t ↔ (∀ v, v <+: t → ¬ IsHandler v) ∧
      ∀ c v, Text.isBlank c = true → c :: v <:+: t → ¬ IsHandler v := by
  have hspaced : (∀ v, v <:+: t → ¬ IsSpacedHandler v) ↔
      ∀ c v, Text.isBlank c = true → c :: v <:+: t → ¬ IsHandler v := by
    constructor
    · intro h c v hc hv hhandler
      exact h (c :: v) hv ⟨c, v, hc, hhandler, rfl⟩
    · rintro h v hv ⟨c, w, hc, hw, rfl⟩
      exact h c w hc hv hw
  rw [dropHandlers, comp_eq_self_iff (f := fun t => t.drop (bareHandlerSize t))
    (fun t => List.drop_sublist _ t) (Text.removeAll_sublist handlerSize),
    drop_bareHandlerSize_eq_self_iff, (measures_handlerSize.finds not_isSpacedHandler_nil)
      |>.removeAll_eq_self_iff not_isSpacedHandler_nil, hspaced]

theorem not_isTag_nil : ¬ IsTag [] := by
  rintro ⟨body, -, -, h⟩
  cases h

theorem dropTags_eq_self_iff {t : List Char} :
    dropTags t = t ↔ ∀ v, v <:+: t → ¬ IsTag v :=
  (measures_tagSize.finds not_isTag_nil).removeAll_eq_self_iff not_isTag_nil t

/-- Nothing to clean: no blank at either end, no scheme and no tag anywhere, and no handler at the
start or behind a blank. -/
structure IsClean (t : List Char) : Prop where
  start_unblank : ∀ c, t.head? = some c → Text.isBlank c = false
  end_unblank : ∀ c, t.getLast? = some c → Text.isBlank c = false
  no_scheme : ∀ v, v <:+: t → ¬ Spells scheme v
  no_handler_at_start : ∀ v, v <+: t → ¬ IsHandler v
  no_handler_behind_blank : ∀ c v, Text.isBlank c = true → c :: v <:+: t → ¬ IsHandler v
  no_tag : ∀ v, v <:+: t → ¬ IsTag v

theorem clean_eq_self_iff {t : List Char} : clean t = t ↔ IsClean t := by
  have hstages : clean t = t ↔
      ((Text.trim t = t ∧ dropLinks t = t) ∧ dropHandlers t = t) ∧ dropTags t = t := by
    rw [← comp_eq_self_iff trim_sublist dropLinks_sublist,
      ← comp_eq_self_iff (fun t => (dropLinks_sublist _).trans (trim_sublist t))
        dropHandlers_sublist,
      ← comp_eq_self_iff (fun t => (dropHandlers_sublist _).trans <|
        (dropLinks_sublist _).trans (trim_sublist t)) dropTags_sublist]
    exact Iff.rfl
  rw [hstages, trim_eq_self_iff, dropLinks_eq_self_iff, dropHandlers_eq_self_iff,
    dropTags_eq_self_iff]
  constructor
  · rintro ⟨⟨⟨⟨hstart, hend⟩, hscheme⟩, hfirst, hbehind⟩, htag⟩
    exact ⟨hstart, hend, hscheme, hfirst, hbehind, htag⟩
  · rintro ⟨hstart, hend, hscheme, hfirst, hbehind, htag⟩
    exact ⟨⟨⟨⟨hstart, hend⟩, hscheme⟩, hfirst, hbehind⟩, htag⟩

/-- Each call that is not the last takes a character away. -/
theorem exists_iterate_clean_eq (t : List Char) :
    ∃ n ≤ t.length, clean (clean^[n] t) = clean^[n] t := by
  induction h : t.length using Nat.strong_induction_on generalizing t with
  | _ length ih =>
      subst h
      rcases clean_eq_or_shorter t with heq | hlt
      · exact ⟨0, Nat.zero_le _, heq⟩
      · obtain ⟨n, hn, hfixed⟩ := ih _ hlt (clean t) rfl
        refine ⟨n + 1, by omega, ?_⟩
        rwa [Function.iterate_succ_apply]

/-- Cleaning leaves characters out or nothing changes, so it comes to an end after as many calls as
the text has characters or fewer, and it ends in the texts without anything to clean. -/
theorem repeated_cleaning (t : List Char) :
    (clean t).Sublist t ∧ (clean t = t ∨ (clean t).length < t.length) ∧
      (∃ n ≤ t.length, clean (clean^[n] t) = clean^[n] t ∧ IsClean (clean^[n] t)) ∧
      (clean t = t ↔ IsClean t) := by
  obtain ⟨n, hn, hfixed⟩ := exists_iterate_clean_eq t
  exact ⟨clean_sublist t, clean_eq_or_shorter t, ⟨n, hn, hfixed, clean_eq_self_iff.1 hfixed⟩,
    clean_eq_self_iff⟩

example : clean^[2] "<<b>b>".toList = [] ∧ clean "<<b>b>".toList = "<b>".toList := by decide

/-- The long s is a letter of the scheme. -/
example : Spells scheme "JavaſCRIPT:".toList := by decide

end FieldRules.Cleaning
