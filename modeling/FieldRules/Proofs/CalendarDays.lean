import FieldRules.Proofs.ReadDigits

/-!
# Days of the calendar

The days that exist are those of the Gregorian calendar, continued to all years. The plain way to
write one of them has four, two and two digits; timestamps begin with a date of this kind, and it is
one of the ways to write a calendar date.
-/

namespace FieldRules.Format

open Numeral (ofDigits)

def IsLeap (year : Int) : Prop := 4 ∣ year ∧ (100 ∣ year → 400 ∣ year)

/-- The day is one of the Gregorian calendar, continued to all years. -/
structure DayExists (year : Int) (month day : Nat) : Prop where
  month_range : 1 ≤ month ∧ month ≤ 12
  day_range : 1 ≤ day ∧ day ≤ 31
  short_months : month ∈ [4, 6, 9, 11] → day ≤ 30
  february : month = 2 → day ≤ 29
  common_years : month = 2 → ¬ IsLeap year → day ≤ 28

theorem isLeapYear_iff {year : Int} : isLeapYear year = true ↔ IsLeap year := by
  simp only [isLeapYear, IsLeap, Bool.and_eq_true, Bool.or_eq_true, beq_iff_eq, bne_iff_ne]
  omega

theorem daysIn_of_short {month : Nat} (h : month ∈ [4, 6, 9, 11]) (year : Int) :
    daysIn year month = 30 := by
  simp only [List.mem_cons, List.not_mem_nil, or_false] at h
  rcases h with rfl | rfl | rfl | rfl <;> rfl

theorem daysIn_of_long {month : Nat} (h : month ≠ 2) (h' : month ∉ [4, 6, 9, 11]) (year : Int) :
    daysIn year month = 31 := by
  simp only [List.mem_cons, List.not_mem_nil, or_false, not_or] at h'
  unfold daysIn
  split <;> simp_all

theorem le_daysIn_iff {year : Int} {month day : Nat} :
    day ≤ daysIn year month ↔ day ≤ 31 ∧ (month ∈ [4, 6, 9, 11] → day ≤ 30) ∧
      (month = 2 → day ≤ 29) ∧ (month = 2 → ¬ IsLeap year → day ≤ 28) := by
  by_cases hfebruary : month = 2
  · subst hfebruary
    by_cases hleap : IsLeap year
    · have hdays : daysIn year 2 = 29 := if_pos (isLeapYear_iff.2 hleap)
      rw [hdays]
      exact ⟨fun h => ⟨by omega, fun _ => by omega, fun _ => h, fun _ hnot => absurd hleap hnot⟩,
        fun h => h.2.2.1 rfl⟩
    · have hdays : daysIn year 2 = 28 := if_neg (mt isLeapYear_iff.1 hleap)
      rw [hdays]
      exact ⟨fun h => ⟨by omega, fun _ => by omega, fun _ => by omega, fun _ _ => h⟩,
        fun h => h.2.2.2 rfl hleap⟩
  · by_cases hshort : month ∈ [4, 6, 9, 11]
    · rw [daysIn_of_short hshort]
      exact ⟨fun h => ⟨by omega, fun _ => h, fun h' => absurd h' hfebruary,
        fun h' => absurd h' hfebruary⟩, fun h => h.2.1 hshort⟩
    · rw [daysIn_of_long hfebruary hshort]
      exact ⟨fun h => ⟨h, fun h' => absurd h' hshort, fun h' => absurd h' hfebruary,
        fun h' => absurd h' hfebruary⟩, And.left⟩

theorem dayExists_iff {year : Int} {month day : Nat} :
    dayExists year month day = true ↔ DayExists year month day := by
  simp only [dayExists, Bool.and_eq_true, decide_eq_true_eq, le_daysIn_iff]
  constructor
  · rintro ⟨⟨⟨hmonth, hmonth'⟩, hday⟩, hday', hshort, hfebruary, hcommon⟩
    exact ⟨⟨hmonth, hmonth'⟩, ⟨hday, hday'⟩, hshort, hfebruary, hcommon⟩
  · intro h
    exact ⟨⟨h.month_range, h.day_range.1⟩, h.day_range.2, h.short_months, h.february,
      h.common_years⟩

structure PlainDate where
  year : List Char
  month : List Char
  day : List Char
  year_digits : Digits 4 year
  month_digits : Digits 2 month
  day_digits : Digits 2 day
  exists_day : DayExists (ofDigits year) (ofDigits month) (ofDigits day)

def PlainDate.text (d : PlainDate) : List Char := d.year ++ '-' :: (d.month ++ '-' :: d.day)

theorem PlainDate.length_text (d : PlainDate) : d.text.length = 10 := by
  simp [text, d.year_digits.1, d.month_digits.1, d.day_digits.1]

theorem PlainDate.year_lt (d : PlainDate) : ofDigits d.year < 10000 := by
  have h := ofDigits_lt d.year_digits.2
  rwa [d.year_digits.1] at h

end FieldRules.Format
