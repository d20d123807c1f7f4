import FieldRules.Proofs.NearestIntegers
import FieldRules.Schema.Step
import Mathlib.Data.List.TakeWhile

/-!
# Texts of digits

Digits with or without a sign before them spell an integer. As a number such a text has the binary64
number nearest to its integer, as long as that is finite. The rule `integer` asks for the digits and
not for the number, so it also accepts digits that spell no finite number; every other integer with
ASCII digits is numeric, and numeric bounds have its number to compare.
-/

namespace FieldRules

namespace Numeral

theorem isSign_of_isDigit {c : Char} (h : c.isDigit = true) : isSign c = false := by
  cases hsign : isSign c with
  | false => rfl
  | true =>
      rw [isSign, Bool.or_eq_true, beq_iff_eq, beq_iff_eq] at hsign
      rcases hsign with rfl | rfl <;> cases h

theorem isDigit_of_mem_toDigits {n : Nat} : ∀ c ∈ Nat.toDigits 10 n, c.isDigit = true :=
  fun _ hc => Nat.isDigit_of_mem_toDigits (by decide) (by decide) hc

theorem splitSign_toDigits {sign : Option Char} (hsign : sign = none ∨ sign = some '-') (n : Nat) :
    splitSign (sign.toList ++ Nat.toDigits 10 n) = (sign, Nat.toDigits 10 n) := by
  rcases hsign with rfl | rfl
  · cases hdigits : Nat.toDigits 10 n with
    | nil => exact absurd hdigits Nat.toDigits_ne_nil
    | cons c t =>
        have hc : isSign c = false :=
          isSign_of_isDigit (isDigit_of_mem_toDigits c (hdigits ▸ List.mem_cons_self))
        simp only [Option.toList_none, List.nil_append, splitSign, hc, if_false, Bool.false_eq_true]
  · rfl

theorem mem_of_mem_splitSign {c : Char} {t : List Char} (h : c ∈ (splitSign t).2) : c ∈ t := by
  cases t with
  | nil => cases h
  | cons x t =>
      rw [splitSign] at h
      split at h
      · exact List.mem_cons_of_mem x h
      · exact h

structure IsWhole (t : List Char) : Prop where
  digits_ne_nil : (splitSign t).2 ≠ []
  isDigit : ∀ c ∈ (splitSign t).2, c.isDigit = true

def integer (t : List Char) : Int :=
  if (splitSign t).1 = some '-' then -(ofDigits (splitSign t).2 : Int)
  else ofDigits (splitSign t).2

theorem isWhole_toDigits {sign : Option Char} (hsign : sign = none ∨ sign = some '-') (n : Nat) :
    IsWhole (sign.toList ++ Nat.toDigits 10 n) where
  digits_ne_nil := by
    rw [splitSign_toDigits hsign]
    exact Nat.toDigits_ne_nil
  isDigit := by
    rw [splitSign_toDigits hsign]
    exact isDigit_of_mem_toDigits

theorem natAbs_integer (t : List Char) : (integer t).natAbs = ofDigits (splitSign t).2 := by
  unfold integer
  split
  · rw [Int.natAbs_neg, Int.natAbs_natCast]
  · rw [Int.natAbs_natCast]

theorem ofText?_of_isWhole {t : List Char} (h : IsWhole t) :
    ofText? t = some ⟨(splitSign t).1, (splitSign t).2, none, none⟩ := by
  have hdrop : (splitSign t).2.dropWhile Char.isDigit = [] := List.dropWhile_eq_nil_iff.2 h.isDigit
  have htake : (splitSign t).2.takeWhile Char.isDigit = (splitSign t).2 :=
    List.takeWhile_eq_self_iff.2 h.isDigit
  simp only [ofText?, hdrop, htake, splitFraction, readExponent?, Option.map_some]

/-- The cut at 310 digits refuses only what is too large in any case. -/
theorem value?_of_digits (sign : Option Char) (digits : List Char) :
    value? ⟨sign, digits, none, none⟩ =
      if ofDigits digits < Binary64.overflow then
        some ⟨sign == some '-', Binary64.nearest (ofDigits digits * Binary64.one) 1⟩
      else none := by
  have hdigits : Numeral.digits ⟨sign, digits, none, none⟩ = digits := List.append_nil digits
  have hpower : power ⟨sign, digits, none, none⟩ = 0 := rfl
  simp only [value?, hdigits, hpower, negative, Int.add_zero]
  by_cases hzero : ofDigits digits = 0
  · have hnearest : Binary64.nearest (0 * Binary64.one) 1 = 0 := by decide +kernel
    have hlt : 0 < Binary64.overflow := by decide +kernel
    rw [if_pos hzero, hzero, if_pos hlt, hnearest]
  rw [if_neg hzero]
  by_cases hlong : (310 : Int) < (Nat.toDigits 10 (ofDigits digits)).length
  · have hsize : ¬ ofDigits digits < 10 ^ 310 := by
      rw [← Nat.length_toDigits_le_iff (by decide) (by decide)]
      omega
    have hoverflow : Binary64.overflow ≤ 10 ^ 310 := by decide +kernel
    rw [if_pos hlong, if_neg (by omega)]
  · have hten : Nat.pow 10 0 = 1 := rfl
    rw [if_neg hlong, if_neg (by omega), Binary64.ofRatio?]
    simp only [Int.toNat_zero, Int.neg_zero, hten, Nat.mul_one, ← Binary64.nearest_mul_one_lt_iff]

end Numeral

namespace Binary64

theorem ofText?_of_isWhole {t : List Char} (h : Numeral.IsWhole t) :
    ofText? t =
      if (Numeral.integer t).natAbs < overflow then
        some ⟨(Numeral.splitSign t).1 == some '-', nearest ((Numeral.integer t).natAbs * one) 1⟩
      else none := by
  have hdigit : Numeral.hasDigit ⟨(Numeral.splitSign t).1, (Numeral.splitSign t).2, none, none⟩ := by
    simpa [Numeral.hasDigit, Numeral.digits] using h.digits_ne_nil
  simp only [ofText?, Numeral.ofText?_of_isWhole h, hdigit, if_true, Numeral.value?_of_digits,
    Numeral.natAbs_integer]

theorem isSome_ofText?_iff {t : List Char} (h : Numeral.IsWhole t) :
    (ofText? t).isSome = true ↔ (Numeral.integer t).natAbs < overflow := by
  rw [ofText?_of_isWhole h]
  split <;> simp_all

/-- Apart from a sign of zero, the number of a text of digits is the one nearest to its integer. -/
theorem toInt_of_ofText? {t : List Char} (h : Numeral.IsWhole t) {x : Binary64}
    (hx : ofText? t = some x) : x.toInt = (ofInt (Numeral.integer t)).toInt := by
  rw [ofText?_of_isWhole h] at hx
  split at hx
  case isFalse => cases hx
  cases hx
  rw [Numeral.natAbs_integer, Numeral.integer]
  by_cases hsign : (Numeral.splitSign t).1 = some '-'
  · rw [if_pos hsign, toInt_ofInt_neg_natCast, toInt, beq_iff_eq.2 hsign, if_pos rfl]
  · rw [if_neg hsign, toInt_ofInt_natCast, toInt, beq_eq_false_iff_ne.2 hsign,
      if_neg Bool.false_ne_true]

end Binary64

/-- Among the zeros of the scripts only one is ASCII. -/
theorem Text.isDigit_of_isDecimalDigit {c : Char} (h : isDecimalDigit c = true)
    (hascii : c.toNat < 128) : c.isDigit = true := by
  rw [isDecimalDigit, Bool.or_eq_true, List.any_eq_true] at h
  rcases h with h | ⟨z, hz, hrun⟩
  · exact h
  · have hzero : ∀ z ∈ zeros, z < 128 → z = '0'.toNat := by decide
    simp only [Bool.and_eq_true, decide_eq_true_eq] at hrun
    obtain rfl := hzero z hz (by omega)
    simp only [Char.isDigit, Bool.and_eq_true, decide_eq_true_eq]
    exact ⟨hrun.1, Nat.le_of_lt_succ hrun.2⟩

namespace Value

theorem isWhole_of_isIntegerText {t : List Char} (h : isIntegerText t = true)
    (hascii : ∀ c ∈ t, c.toNat < 128) : Numeral.IsWhole t := by
  simp only [isIntegerText, Bool.and_eq_true, Bool.not_eq_true', List.isEmpty_eq_false_iff,
    List.all_eq_true] at h
  refine ⟨h.1, fun c hc => Text.isDigit_of_isDecimalDigit (h.2 c hc) (hascii c ?_)⟩
  exact Numeral.mem_of_mem_splitSign hc

end Value

/-- An integer is numeric unless it is a text whose digits spell no finite number. If it is, bounds
have a number to compare, for a text the one nearest to the integer that the digits spell. Nothing
is said here about digits of other scripts. -/
theorem numeric_of_integer {v : Value} (h : TypeName.integer.accepts v = true)
    (hascii : ∀ text, v = .string text → ∀ c ∈ text.toList, c.toNat < 128) :
    (TypeName.numeric.accepts v = true ↔
      ∀ text, v = .string text → (Numeral.integer text.toList).natAbs < Binary64.overflow) ∧
    (TypeName.numeric.accepts v = true → ∃ x, Measure.numeric.of? (some v) = some x ∧
      ∀ text, v = .string text →
        x.toInt = (Binary64.ofInt (Numeral.integer text.toList)).toInt) := by
  cases v with
  | number n =>
      have hnumeric : TypeName.numeric.accepts (.number n) = true := rfl
      exact ⟨iff_of_true hnumeric (by simp), fun _ => ⟨n.toBinary64, rfl, by simp⟩⟩
  | string text =>
      have hwhole := Value.isWhole_of_isIntegerText h (hascii text rfl)
      have hnumeric : TypeName.numeric.accepts (.string text) =
        (Binary64.ofText? text.toList).isSome := rfl
      refine ⟨?_, fun hsome => ?_⟩
      · rw [hnumeric, Binary64.isSome_ofText?_iff hwhole]
        simp
      · obtain ⟨x, hx⟩ := Option.isSome_iff_exists.1 hsome
        refine ⟨x, hx, ?_⟩
        rintro _ ⟨⟩
        exact Binary64.toInt_of_ofText? hwhole hx
  | _ => cases h

/-- A sign, zeros in front, and an integer that is rounded. -/
theorem numeric_of_integer_rounded :
    let v := Value.string "-009007199254740993"
    TypeName.integer.accepts v = true ∧
      (∀ text, v = .string text → ∀ c ∈ text.toList, c.toNat < 128) ∧
      TypeName.numeric.accepts v = true ∧
      ∃ x, Measure.numeric.of? (some v) = some x ∧
        x.toInt = (Binary64.ofInt (-9007199254740993)).toInt := by
  intro v
  have hinteger : TypeName.integer.accepts v = true := by decide +kernel
  have hascii : ∀ text, v = .string text → ∀ c ∈ text.toList, c.toNat < 128 := by
    intro text htext c hc
    obtain rfl := Value.string.inj htext
    have hall : "-009007199254740993".toList.all (fun c => c.toNat < 128) = true := by
      decide +kernel
    exact of_decide_eq_true (List.all_eq_true.1 hall c hc)
  have hsize : ∀ text, v = .string text →
      (Numeral.integer text.toList).natAbs < Binary64.overflow := by
    intro text htext
    obtain rfl := Value.string.inj htext
    decide +kernel
  have hnumeric := (numeric_of_integer hinteger hascii).1.2 hsize
  obtain ⟨x, hx, hnearest⟩ := (numeric_of_integer hinteger hascii).2 hnumeric
  have hvalue : Numeral.integer "-009007199254740993".toList = -9007199254740993 := by
    decide +kernel
  exact ⟨hinteger, hascii, hnumeric, x, hx, hvalue ▸ hnearest _ rfl⟩

/-- A row of nines that is too long, and a digit of another script. -/
theorem integers_that_are_not_numeric :
    let nines := String.ofList (List.replicate 309 '9')
    TypeName.integer.accepts (.string nines) = true ∧
      TypeName.numeric.accepts (.string nines) = false ∧
      TypeName.integer.accepts (.string "\u0663") = true ∧
      TypeName.numeric.accepts (.string "\u0663") = false := by
  have hinteger (t : List Char) :
      TypeName.integer.accepts (.string (String.ofList t)) = Value.isIntegerText t :=
    congrArg Value.isIntegerText String.toList_ofList
  have hnumeric (t : List Char) :
      TypeName.numeric.accepts (.string (String.ofList t)) = (Binary64.ofText? t).isSome :=
    congrArg (fun t => (Binary64.ofText? t).isSome) String.toList_ofList
  refine ⟨?_, ?_, by decide +kernel, by decide +kernel⟩
  · rw [hinteger]
    decide +kernel
  · rw [hnumeric]
    decide +kernel

end FieldRules
