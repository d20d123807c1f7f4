import FieldRules.Proofs.CleanTexts
import FieldRules.Rule.Token

/-!
# Cut and trimmed texts

A text is cut at its first colon or comma into two parts, or at every bar or comma into pieces.
Either way the text is the parts with that character between them, and the first part, or every
piece, is without it; nothing else can come of cutting. So lines are found again in the text that
they make. Trimming a trimmed text leaves it as it is.
-/

namespace FieldRules

namespace Text

theorem unblank_of_head?_trim {t : List Char} {c : Char} (h : (trim t).head? = some c) :
    isBlank c = false := by
  obtain ⟨rest, hrest⟩ := List.rdropWhile_prefix isBlank (trimStart t)
  have hstart : (trimStart t).head? = some c := by
    rw [← hrest, List.head?_append]
    exact congrArg (·.or rest.head?) h
  exact Cleaning.trimStart_eq_self_iff.1 (List.dropWhile_idempotent isBlank t) c hstart

theorem unblank_of_getLast?_trim {t : List Char} {c : Char} (h : (trim t).getLast? = some c) :
    isBlank c = false := by
  rw [trim, trimEnd, List.getLast?_reverse] at h
  exact Cleaning.trimStart_eq_self_iff.1 (List.dropWhile_idempotent isBlank _) c h

theorem trim_trim (t : List Char) : trim (trim t) = trim t := by
  apply Cleaning.trim_eq_self_iff.2
  exact ⟨fun _ h => unblank_of_head?_trim h, fun _ h => unblank_of_getLast?_trim h⟩

theorem trim_of_unblank {t : List Char} (h : ∀ c ∈ t, isBlank c = false) : trim t = t :=
  Cleaning.trim_eq_self_iff.2
    ⟨fun c hc => h c (List.mem_of_head? hc), fun c hc => h c (List.mem_of_getLast? hc)⟩

def IsTrimmed (s : String) : Prop := trimmed s = s

instance (s : String) : Decidable (IsTrimmed s) := inferInstanceAs (Decidable (_ = _))

theorem isTrimmed_ofList_trim (t : List Char) : IsTrimmed (String.ofList (trim t)) := by
  rw [IsTrimmed, trimmed, String.toList_ofList, trim_trim]

theorem isTrimmed_trimmed (s : String) : IsTrimmed (trimmed s) := isTrimmed_ofList_trim s.toList

theorem IsTrimmed.trim_toList {s : String} (h : IsTrimmed s) : trim s.toList = s.toList := by
  rw [← toList_trimmed, h]

theorem cutFirst_append {c : Char} {t : List Char} (h : c ∉ t) (u : List Char) :
    cutFirst c (t ++ c :: u) = some (t, u) := by
  induction t with
  | nil => rw [List.nil_append, cutFirst, if_pos rfl]
  | cons x t ih =>
      rw [List.mem_cons, not_or] at h
      rw [List.cons_append, cutFirst, if_neg (Ne.symm h.1), ih h.2]
      rfl

theorem cutFirst_eq_some_iff {c : Char} {t u v : List Char} :
    cutFirst c t = some (u, v) ↔ t = u ++ c :: v ∧ c ∉ u := by
  constructor
  · intro h
    induction t generalizing u with
    | nil => cases h
    | cons x t ih =>
        rw [cutFirst] at h
        by_cases hx : x = c
        · rw [if_pos hx] at h
          cases h
          exact ⟨congrArg (· :: v) hx, List.not_mem_nil⟩
        · rw [if_neg hx] at h
          obtain ⟨⟨w, rest⟩, hcut, hparts⟩ := Option.map_eq_some_iff.1 h
          cases hparts
          obtain ⟨rfl, hnot⟩ := ih hcut
          rw [List.mem_cons, not_or]
          exact ⟨rfl, Ne.symm hx, hnot⟩
  · rintro ⟨rfl, hnot⟩
    exact cutFirst_append hnot v

theorem cutFirst_eq_none_iff {c : Char} {t : List Char} : cutFirst c t = none ↔ c ∉ t := by
  induction t with
  | nil => simp [cutFirst]
  | cons x t ih =>
      rw [cutFirst, List.mem_cons, not_or]
      by_cases hx : x = c
      · simp [hx]
      · rw [if_neg hx, Option.map_eq_none_iff, ih]
        exact ⟨fun h => ⟨Ne.symm hx, h⟩, And.right⟩

theorem notMem_of_mem_splitOn {c : Char} {t piece : List Char} (h : piece ∈ t.splitOn c) :
    c ∉ piece := by
  induction t generalizing piece with
  | nil =>
      rw [List.splitOn_nil, List.mem_singleton] at h
      rw [h]
      exact List.not_mem_nil
  | cons x t ih =>
      rw [List.splitOn_cons_eq_if_modifyHead] at h
      split at h
      · rcases List.mem_cons.1 h with rfl | h
        · exact List.not_mem_nil
        · exact ih h
      · rename_i hx
        obtain ⟨first, rest, hsplit⟩ := List.exists_cons_of_ne_nil (List.splitOn_ne_nil c t)
        rw [hsplit] at h ih
        rcases List.mem_cons.1 h with rfl | h
        · have hfirst := ih List.mem_cons_self
          exact fun hc => (List.mem_cons.1 hc).elim (fun he => hx (by simp [he])) hfirst
        · exact ih (List.mem_cons_of_mem first h)

theorem pieces_ne_nil (c : Char) (s : String) : pieces c s ≠ [] := by
  intro h
  exact List.splitOn_ne_nil c s.toList (List.map_eq_nil_iff.1 h)

theorem notMem_of_mem_pieces {c : Char} {s piece : String} (h : piece ∈ pieces c s) :
    c ∉ piece.toList := by
  obtain ⟨t, ht, rfl⟩ := List.mem_map.1 h
  rw [String.toList_ofList]
  exact notMem_of_mem_splitOn ht

theorem ofList_intercalate (c : Char) (lists : List (List Char)) :
    String.ofList ([c].intercalate lists) =
      String.intercalate (String.ofList [c]) (lists.map String.ofList) := by
  apply String.toList_inj.1
  simp only [String.toList_intercalate, String.toList_ofList, List.map_map, Function.comp_def,
    List.map_id']

theorem intercalate_pieces (c : Char) (s : String) :
    String.intercalate (String.ofList [c]) (pieces c s) = s := by
  rw [pieces, ← ofList_intercalate, List.intercalate_splitOn, String.ofList_toList]

theorem pieces_intercalate {c : Char} {texts : List String} (h : ∀ t ∈ texts, c ∉ t.toList)
    (hne : texts ≠ []) : pieces c (String.intercalate (String.ofList [c]) texts) = texts := by
  have hlists : ∀ t ∈ texts.map String.toList, c ∉ t := List.forall_mem_map.2 h
  rw [pieces, String.toList_intercalate, String.toList_ofList,
    List.splitOn_intercalate c hlists (mt List.map_eq_nil_iff.1 hne), List.map_map]
  simp

theorem ofLines_singleton (text : String) : ofLines [text] = text ++ "\n" := by
  simp [ofLines]

/-- Ending each line leaves an empty one behind the last line end. -/
theorem ofLines_eq_intercalate (texts : List String) :
    ofLines texts = String.intercalate "\n" (texts ++ [""]) := by
  induction texts with
  | nil => rfl
  | cons t texts ih =>
      have hne : texts ++ [""] ≠ [] := List.append_ne_nil_of_right_ne_nil _ (List.cons_ne_nil _ _)
      rw [List.cons_append, String.intercalate_cons_of_ne_nil hne, ← ih, ofLines, List.map_cons,
        String.join_cons]
      rfl

theorem lines_ofLines {texts : List String} (h : ∀ t ∈ texts, '\n' ∉ t.toList) :
    lines (ofLines texts) = texts ++ [""] := by
  have hall : ∀ t ∈ texts ++ [""], '\n' ∉ t.toList := by
    rw [List.forall_mem_append, List.forall_mem_singleton]
    exact ⟨h, List.not_mem_nil⟩
  rw [lines, ofLines_eq_intercalate]
  exact pieces_intercalate hall (List.append_ne_nil_of_right_ne_nil _ (List.cons_ne_nil _ _))

end Text

namespace Token

/-- The tag is what stands before the first colon, trimmed. -/
theorem tag_ofString (s : String) :
    (ofString s).tag = String.ofList (Text.trim (s.toList.takeWhile (· ≠ ':'))) := by
  have hgoes {t : List Char} (h : ':' ∉ t) : ∀ c ∈ t, decide (c ≠ ':') = true := by
    intro c hc
    apply decide_eq_true
    rintro rfl
    exact h hc
  rw [ofString]
  cases hcut : Text.cutFirst ':' s.toList with
  | none =>
      have hcolon := Text.cutFirst_eq_none_iff.1 hcut
      rw [List.takeWhile_eq_self_iff.2 (hgoes hcolon)]
      rfl
  | some parts =>
      obtain ⟨front, rest⟩ := parts
      obtain ⟨hs, hcolon⟩ := Text.cutFirst_eq_some_iff.1 hcut
      have hstop : (':' :: rest).takeWhile (· ≠ ':') = [] := by simp
      rw [hs, List.takeWhile_append_of_pos (hgoes hcolon), hstop, List.append_nil]

theorem ofString_of_colon_notMem {tag : String} (h : ':' ∉ tag.toList) :
    ofString tag = ⟨Text.trimmed tag, none⟩ := by
  rw [ofString, Text.cutFirst_eq_none_iff.2 h]

theorem trimmed_eq_of_ofString {s tag : String} (h : ofString s = ⟨tag, none⟩) :
    Text.trimmed s = tag := by
  rw [ofString] at h
  split at h
  · cases h
    rfl
  · cases h

theorem ofString_colon {tag text : String} (h : ':' ∉ tag.toList) :
    ofString (tag ++ ":" ++ text) = ⟨Text.trimmed tag, some text⟩ := by
  have hcut : (tag ++ ":" ++ text).toList = tag.toList ++ ':' :: text.toList := by
    simp [String.toList_append]
  rw [ofString, hcut, Text.cutFirst_append h]
  simp [Text.trimmed]

end Token
end FieldRules
