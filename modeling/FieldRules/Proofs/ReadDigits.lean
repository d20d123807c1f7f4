import FieldRules.Format.Date
import FieldRules.Proofs.EmailAddresses
import Mathlib.Algebra.Group.Nat.Defs
import Mathlib.Data.List.Induction
import Mathlib.Data.List.TakeWhile

/-!
# Numbers of a date

The readers of dates take digits from the start of a text: a fixed number of them, or as many as
there are up to a bound. The first kind succeeds exactly on texts that begin with the digits. The
second kind finds digits again if the text does not go on with another one.
-/

namespace FieldRules.Format

open Numeral (ofDigits)

def Digits (width : Nat) (t : List Char) : Prop := t.length = width ∧ ∀ c ∈ t, IsDigit c

theorem ofDigits_lt {t : List Char} (h : ∀ c ∈ t, IsDigit c) : ofDigits t < 10 ^ t.length := by
  induction t using List.reverseRecOn with
  | nil => exact Nat.one_pos
  | append_singleton t c ih =>
      rw [List.forall_mem_append, List.forall_mem_singleton] at h
      have ht := ih h.1
      have hc := h.2.toNat_mem
      have hlast : ofDigits (t ++ [c]) = 10 * ofDigits t + (c.toNat - 48) := by
        rw [ofDigits, List.foldl_append]
        rfl
      rw [hlast, List.length_append, List.length_singleton, Nat.pow_succ]
      omega

structure UpToDigits (most : Nat) (t : List Char) : Prop where
  ne_nil : t ≠ []
  length_le : t.length ≤ most
  digits : ∀ c ∈ t, IsDigit c

theorem exactly?_eq_some_iff {width : Nat} {t rest : List Char} {n : Nat} :
    exactly? width t = some (n, rest) ↔
      ∃ digits, t = digits ++ rest ∧ Digits width digits ∧ n = ofDigits digits := by
  simp only [exactly?]
  constructor
  · intro h
    split at h
    · rename_i hdigits
      simp only [Bool.and_eq_true, decide_eq_true_eq, List.all_eq_true, isDigit_iff] at hdigits
      cases h
      exact ⟨t.take width, (List.take_append_drop width t).symm, hdigits, rfl⟩
    · cases h
  · rintro ⟨digits, rfl, ⟨hwidth, hdigits⟩, rfl⟩
    rw [List.take_left' hwidth, List.drop_left' hwidth, if_pos]
    simp only [Bool.and_eq_true, decide_eq_true_eq, List.all_eq_true, isDigit_iff]
    exact ⟨hwidth, hdigits⟩

theorem exactly?_append {width : Nat} {digits : List Char} (h : Digits width digits)
    (rest : List Char) : exactly? width (digits ++ rest) = some (ofDigits digits, rest) :=
  exactly?_eq_some_iff.2 ⟨digits, rfl, h, rfl⟩

theorem after?_eq_some_iff {c : Char} {t rest : List Char} :
    after? c t = some rest ↔ t = c :: rest := by
  cases t with
  | nil => simp [after?]
  | cons x t =>
      by_cases hx : x = c
      · simp [after?, hx]
      · simp [after?, hx]

theorem after?_cons (c : Char) (t : List Char) : after? c (c :: t) = some t :=
  after?_eq_some_iff.2 rfl

theorem upTo?_sound {most : Nat} {t rest : List Char} {n : Nat}
    (h : upTo? most t = some (n, rest)) :
    ∃ digits, t = digits ++ rest ∧ UpToDigits most digits ∧ n = ofDigits digits := by
  simp only [upTo?] at h
  split at h
  · cases h
  · rename_i hne
    cases h
    have hsub : (t.take most).takeWhile Char.isDigit <+: t :=
      (List.takeWhile_prefix _).trans (List.take_prefix most t)
    refine ⟨_, (List.prefix_iff_eq_append.1 hsub).symm, ⟨?_, ?_, fun c hc => ?_⟩, rfl⟩
    · simpa using hne
    · calc
        _ ≤ (t.take most).length := (List.takeWhile_prefix _).length_le
        _ ≤ most := List.length_take_le most t
    · exact isDigit_iff.1 (List.mem_takeWhile_imp hc)

def Stops (rest : List Char) : Prop := ∀ c, rest.head? = some c → ¬ IsDigit c

theorem Stops.takeWhile {rest : List Char} (h : Stops rest) : rest.takeWhile Char.isDigit = [] := by
  cases rest with
  | nil => rfl
  | cons c rest => exact List.takeWhile_cons_of_neg (mt isDigit_iff.1 (h c rfl))

theorem Stops.dropWhile {rest : List Char} (h : Stops rest) :
    rest.dropWhile Char.isDigit = rest := by
  cases rest with
  | nil => rfl
  | cons c rest => exact List.dropWhile_cons_of_neg (mt isDigit_iff.1 (h c rfl))

theorem Stops.take {rest : List Char} (h : Stops rest) (n : Nat) : Stops (rest.take n) := by
  intro c hc
  rw [List.head?_take] at hc
  split at hc
  · cases hc
  · exact h c hc

theorem upTo?_append {most : Nat} {digits rest : List Char} (h : UpToDigits most digits)
    (hrest : Stops rest) : upTo? most (digits ++ rest) = some (ofDigits digits, rest) := by
  have hread : ((digits ++ rest).take most).takeWhile Char.isDigit = digits := by
    rw [List.take_append, List.take_of_length_le h.length_le,
      List.takeWhile_append_of_pos fun c hc => isDigit_iff.2 (h.digits c hc),
      (hrest.take _).takeWhile, List.append_nil]
  simp only [upTo?, hread, List.isEmpty_iff, h.ne_nil, if_false, List.drop_left]

theorem UpToDigits.of_le {most most' : Nat} {t : List Char} (h : UpToDigits most t)
    (hle : t.length ≤ most') : UpToDigits most' t := ⟨h.ne_nil, hle, h.digits⟩

theorem Digits.upToDigits {width : Nat} {t : List Char} (h : Digits (width + 1) t) :
    UpToDigits (width + 1) t :=
  ⟨List.ne_nil_of_length_pos (by rw [h.1]; omega), h.1.le, h.2⟩

theorem IsDigit.not_sign {c : Char} (h : IsDigit c) : c ≠ '-' ∧ c ≠ '+' := by
  constructor
  · rintro rfl
    exact absurd h.toNat_mem (by decide)
  · rintro rfl
    exact absurd h.toNat_mem (by decide)

end FieldRules.Format
