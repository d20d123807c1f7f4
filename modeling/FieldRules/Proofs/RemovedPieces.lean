import FieldRules.Text.Removal
import Mathlib.Data.List.Infix

/-!
# What a removal pass looks for

A pass is given by a length function: how long the piece at the start of a text is. `Finds` says at
which texts the length is not zero, `Measures` says in addition that it is the length of the piece
there. A pass leaves a text as it is exactly if no piece stands anywhere in it, although the pass
never looks at a text that it has put together itself.
-/

namespace FieldRules.Text

/-- The length is not zero exactly where a piece stands at the start of the text. -/
def Finds (size : List Char → Nat) (IsPiece : List Char → Prop) : Prop :=
  ∀ t, size t ≠ 0 ↔ ∃ v, v <+: t ∧ IsPiece v

def Cuts (size : List Char → Nat) (IsPiece : List Char → Prop) : Prop :=
  ∀ t n, size t = n + 1 → ∃ v rest, t = v ++ rest ∧ v.length = n + 1 ∧ IsPiece v

/-- Where a piece stands at the start of a text its length is found, and zero elsewhere. -/
structure Measures (size : List Char → Nat) (IsPiece : List Char → Prop) : Prop where
  complete : ∀ {v}, IsPiece v → ∀ rest, size (v ++ rest) = v.length
  sound : Cuts size IsPiece

variable {size : List Char → Nat} {IsPiece : List Char → Prop}

theorem Cuts.piece_of_size (h : Cuts size IsPiece) {front rest : List Char} {c : Char}
    (hs : size (front ++ c :: rest) = front.length + 1) : IsPiece (front ++ [c]) := by
  obtain ⟨v, rest', heq, hlength, hv⟩ := h _ _ hs
  have hsplit : (front ++ [c]) ++ rest = v ++ rest' := by simpa using heq
  rwa [(List.append_inj hsplit (by simp [hlength])).1]

theorem Measures.finds (h : Measures size IsPiece) (hn : ¬ IsPiece []) : Finds size IsPiece := by
  intro t
  constructor
  · intro hsize
    obtain ⟨n, hn⟩ := Nat.exists_eq_succ_of_ne_zero hsize
    obtain ⟨v, rest, rfl, -, hv⟩ := h.sound t n hn
    exact ⟨v, List.prefix_append v rest, hv⟩
  · rintro ⟨v, ⟨rest, rfl⟩, hv⟩
    rw [h.complete hv]
    intro hlength
    rw [List.length_eq_zero_iff.1 hlength] at hv
    exact hn hv

theorem Finds.eq_zero_iff (h : Finds size IsPiece) {t : List Char} :
    size t = 0 ↔ ∀ v, v <+: t → ¬ IsPiece v := by
  rw [← not_iff_not, ← ne_eq, h t]
  push Not
  exact Iff.rfl

/-- The first piece of a text is always removed, so a text that stays has none. -/
theorem Finds.removeAll_eq_self_iff (h : Finds size IsPiece) (hn : ¬ IsPiece []) (t : List Char) :
    removeAll size t = t ↔ ∀ v, v <:+: t → ¬ IsPiece v := by
  induction t with
  | nil =>
      refine iff_of_true rfl fun v hv => ?_
      rwa [List.eq_nil_of_infix_nil hv]
  | cons c t ih =>
      have hsplit : (∀ v, v <:+: c :: t → ¬ IsPiece v) ↔
          size (c :: t) = 0 ∧ ∀ v, v <:+: t → ¬ IsPiece v := by
        simp only [List.infix_cons_iff, or_imp, forall_and, h.eq_zero_iff]
      rw [hsplit, ← ih]
      cases hs : size (c :: t) with
      | zero => simp [removeAll_of_size_eq_zero size hs]
      | succ n =>
          have hshorter : (removeAll size (t.drop n)).length ≤ t.length :=
            ((removeAll_sublist size _).trans (List.drop_sublist n t)).length_le
          refine iff_of_false (fun heq => ?_) nofun
          rw [removeAll_of_size_eq_succ size hs] at heq
          rw [heq, List.length_cons] at hshorter
          omega

end FieldRules.Text
