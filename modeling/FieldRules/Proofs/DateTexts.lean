import FieldRules.Proofs.Timestamps

/-!
# Dates as they are written

Calendar dates are read leniently: a month or a day may have one digit, a year fewer digits or a
sign, and blanks may stand before each number; the plain way is one of many. A date is a calendar
date or a timestamp. In all of them the day must be one of the Gregorian calendar.
-/

namespace FieldRules

namespace Format

open Numeral (ofDigits)

inductive SpellsYear : List Char → Int → Prop
  | plain {t : List Char} (h : UpToDigits 4 t) : SpellsYear t (ofDigits t)
  | plus {t : List Char} (h : UpToDigits t.length t) : SpellsYear ('+' :: t) (ofDigits t)
  | minus {t : List Char} (h : UpToDigits t.length t) : SpellsYear ('-' :: t) (-(ofDigits t : Int))

theorem upTo?_map_sound {most : Nat} {t rest : List Char} {f : Nat → Int} {year : Int}
    (h : ((upTo? most t).map fun p => (f p.1, p.2)) = some (year, rest)) :
    ∃ digits, t = digits ++ rest ∧ UpToDigits most digits ∧ year = f (ofDigits digits) := by
  obtain ⟨⟨n, rest'⟩, hn, hyear⟩ := Option.map_eq_some_iff.1 h
  cases hyear
  obtain ⟨digits, ht, hdigits, rfl⟩ := upTo?_sound hn
  exact ⟨digits, ht, hdigits, rfl⟩

theorem year?_sound {t rest : List Char} {year : Int} (h : year? t = some (year, rest)) :
    ∃ text, t = text ++ rest ∧ SpellsYear text year := by
  unfold year? at h
  split at h
  · obtain ⟨digits, rfl, hdigits, rfl⟩ := upTo?_map_sound (f := fun n => -(n : Int)) h
    exact ⟨'-' :: digits, rfl, .minus (hdigits.of_le le_rfl)⟩
  · obtain ⟨digits, rfl, hdigits, rfl⟩ := upTo?_map_sound h
    exact ⟨'+' :: digits, rfl, .plus (hdigits.of_le le_rfl)⟩
  · obtain ⟨digits, rfl, hdigits, rfl⟩ := upTo?_map_sound h
    exact ⟨digits, rfl, .plain hdigits⟩

theorem upTo?_length_append {digits rest : List Char} (h : UpToDigits digits.length digits)
    (hrest : Stops rest) :
    upTo? (digits ++ rest).length (digits ++ rest) = some (ofDigits digits, rest) :=
  upTo?_append (h.of_le (List.prefix_append digits rest).length_le) hrest

theorem year?_append {text rest : List Char} {year : Int} (h : SpellsYear text year)
    (hrest : Stops rest) : year? (text ++ rest) = some (year, rest) := by
  cases h with
  | plain h =>
      cases text with
      | nil => exact absurd rfl h.ne_nil
      | cons c text =>
          have hc := (h.digits c List.mem_cons_self).not_sign
          have hread := upTo?_append h hrest
          rw [List.cons_append] at hread ⊢
          unfold year?
          split
          · rename_i hsign
            exact absurd (List.cons.inj hsign).1 hc.1
          · rename_i hsign
            exact absurd (List.cons.inj hsign).1 hc.2
          · rw [hread]
            rfl
  | plus h =>
      rw [List.cons_append, year?, upTo?_length_append h hrest]
      rfl
  | minus h =>
      rw [List.cons_append, year?, upTo?_length_append h hrest]
      rfl

/-- All of it can be seen: blanks before it end where it starts. -/
def Visible (t : List Char) : Prop := t ≠ [] ∧ ∀ c ∈ t, Text.isBlank c = false

theorem IsDigit.not_blank {c : Char} (h : IsDigit c) : Text.isBlank c = false :=
  isBlank_eq_false_of_visible (InMailbox.visible (.inr (.inl h)))

theorem UpToDigits.visible {most : Nat} {t : List Char} (h : UpToDigits most t) : Visible t :=
  ⟨h.ne_nil, fun c hc => (h.digits c hc).not_blank⟩

theorem Visible.cons {c : Char} (hc : Text.isBlank c = false) {t : List Char} (h : Visible t) :
    Visible (c :: t) := ⟨List.cons_ne_nil c t, List.forall_mem_cons.2 ⟨hc, h.2⟩⟩

theorem SpellsYear.visible {t : List Char} {year : Int} (h : SpellsYear t year) : Visible t := by
  cases h with
  | plain h => exact h.visible
  | plus h => exact h.visible.cons (by decide)
  | minus h => exact h.visible.cons (by decide)

theorem trimStart_append {blanks t : List Char} (hblanks : ∀ c ∈ blanks, Text.isBlank c = true)
    (ht : Visible t) (rest : List Char) : Text.trimStart (blanks ++ (t ++ rest)) = t ++ rest := by
  rw [Text.trimStart, List.dropWhile_append_of_pos hblanks]
  cases t with
  | nil => exact absurd rfl ht.1
  | cons c t => simp [ht.2 c List.mem_cons_self]

theorem exists_blanks (t : List Char) :
    ∃ blanks, t = blanks ++ Text.trimStart t ∧ ∀ c ∈ blanks, Text.isBlank c = true :=
  ⟨t.takeWhile Text.isBlank, List.takeWhile_append_dropWhile.symm, fun _ hc =>
    List.mem_takeWhile_imp hc⟩

/-- The parts of a calendar date: three numbers, each behind any number of blanks. -/
structure CalendarDate where
  beforeYear : List Char
  year : List Char
  beforeMonth : List Char
  month : List Char
  beforeDay : List Char
  day : List Char
  number : Int
  blank : ∀ c ∈ beforeYear ++ beforeMonth ++ beforeDay, Text.isBlank c = true
  year_spelled : SpellsYear year number
  year_range : -262143 ≤ number ∧ number ≤ 262142
  month_digits : UpToDigits 2 month
  day_digits : UpToDigits 2 day
  exists_day : DayExists number (ofDigits month) (ofDigits day)

def CalendarDate.text (d : CalendarDate) : List Char :=
  d.beforeYear ++ (d.year ++ '-' :: (d.beforeMonth ++ (d.month ++ '-' :: (d.beforeDay ++ d.day))))

def PlainDate.calendarDate (d : PlainDate) : CalendarDate where
  beforeYear := []
  year := d.year
  beforeMonth := []
  month := d.month
  beforeDay := []
  day := d.day
  number := ofDigits d.year
  blank := List.forall_mem_nil _
  year_spelled := .plain d.year_digits.upToDigits
  year_range := by
    have h := d.year_lt
    omega
  month_digits := d.month_digits.upToDigits
  day_digits := d.day_digits.upToDigits
  exists_day := d.exists_day

theorem PlainDate.text_calendarDate (d : PlainDate) : d.calendarDate.text = d.text := rfl

theorem isYear_iff {year : Int} : isYear year = true ↔ -262143 ≤ year ∧ year ≤ 262142 := by
  simp only [isYear, Bool.and_eq_true, decide_eq_true_eq]

theorem calendarDate?_text (d : CalendarDate) :
    calendarDate? d.text = some (d.number, ofDigits d.month, ofDigits d.day) := by
  have hblank := d.blank
  simp only [List.forall_mem_append] at hblank
  obtain ⟨⟨hyear, hmonth⟩, hday⟩ := hblank
  have hhyphen (t : List Char) : Stops ('-' :: t) := by
    rintro c hc h
    exact h.not_sign.1 (Option.some.inj hc).symm
  have hlast := trimStart_append hday d.day_digits.visible []
  have hlast' : upTo? 2 (d.day ++ []) = _ := upTo?_append d.day_digits nofun
  rw [List.append_nil] at hlast hlast'
  simp only [calendarDate?, CalendarDate.text, Option.bind_eq_bind]
  rw [trimStart_append hyear d.year_spelled.visible, year?_append d.year_spelled (hhyphen _)]
  simp only [Option.bind_some, after?_cons]
  rw [trimStart_append hmonth d.month_digits.visible, upTo?_append d.month_digits (hhyphen _)]
  simp only [Option.bind_some, after?_cons, if_true, hlast, hlast', List.isEmpty_nil]

theorem exists_calendarDate {t : List Char} (h : isCalendarDate t = true) :
    ∃ d : CalendarDate, d.text = t := by
  unfold isCalendarDate at h
  split at h
  · rename_i year month day hread
    simp only [Bool.and_eq_true, isYear_iff, dayExists_iff] at h
    simp only [calendarDate?, Option.bind_eq_bind, Option.bind_eq_some_iff, Prod.exists,
      after?_eq_some_iff] at hread
    obtain ⟨year', t₁, hyear, t₂, rfl, month', t₃, hmonth, t₄, rfl, day', t₅, hday, hend⟩ := hread
    split at hend
    · cases hend
      rename_i hempty
      obtain ⟨beforeYear, hbeforeYear, hblank⟩ := exists_blanks t
      obtain ⟨beforeMonth, hbeforeMonth, hblank'⟩ := exists_blanks t₂
      obtain ⟨beforeDay, hbeforeDay, hblank''⟩ := exists_blanks t₄
      obtain ⟨yearText, hyearText, hspells⟩ := year?_sound hyear
      obtain ⟨monthText, hmonthText, hmonthDigits, rfl⟩ := upTo?_sound hmonth
      obtain ⟨dayText, hdayText, hdayDigits, rfl⟩ := upTo?_sound hday
      refine ⟨⟨beforeYear, yearText, beforeMonth, monthText, beforeDay, dayText, year, ?_, hspells,
        h.1, hmonthDigits, hdayDigits, h.2⟩, ?_⟩
      · simp only [List.forall_mem_append]
        exact ⟨⟨hblank, hblank'⟩, hblank''⟩
      · rw [List.isEmpty_iff.1 hempty, List.append_nil] at hdayText
        rw [CalendarDate.text, hbeforeYear, hyearText, hbeforeMonth, hmonthText, hbeforeDay,
          hdayText]
    · cases hend
  · cases h

theorem isCalendarDate_iff {t : List Char} :
    isCalendarDate t = true ↔ ∃ d : CalendarDate, d.text = t := by
  constructor
  · exact exists_calendarDate
  · rintro ⟨d, rfl⟩
    rw [isCalendarDate, calendarDate?_text]
    simp only [Bool.and_eq_true, isYear_iff, dayExists_iff]
    exact ⟨d.year_range, d.exists_day⟩

end Format

/-- A string is a date exactly if it is a calendar date in one of the lenient ways, the plain one
among them, or a timestamp. -/
theorem Value.date_accepted_iff (s : String) :
    (Value.isDate (.string s) = true ↔
      (∃ d : Format.CalendarDate, d.text = s.toList) ∨
        ∃ x : Format.Timestamp, x.text = s.toList) ∧
    ∀ d : Format.PlainDate, d.text = s.toList → Value.isDate (.string s) = true := by
  have hiff : Value.isDate (.string s) = true ↔
      (∃ d : Format.CalendarDate, d.text = s.toList) ∨
        ∃ x : Format.Timestamp, x.text = s.toList := by
    rw [Value.isDate, Value.isTextThat, Format.isDate, Bool.or_eq_true, Format.isCalendarDate_iff,
      Format.isTimestamp_iff]
  exact ⟨hiff, fun d hd => hiff.2 (.inl ⟨d.calendarDate, d.text_calendarDate.trans hd⟩)⟩

/-- The plain way is not the only one: a month and a day may have one digit each. -/
theorem Value.date_accepted_beyond_plain :
    ¬ ∀ s : String, Value.isDate (.string s) = true ↔
      (∃ d : Format.PlainDate, d.text = s.toList) ∨
        ∃ x : Format.Timestamp, x.text = s.toList := by
  intro h
  have haccepted : Value.isDate (.string "2024-2-9") = true := by decide
  rcases (h "2024-2-9").1 haccepted with ⟨d, hd⟩ | ⟨x, hx⟩
  · have hlength := d.length_text
    rw [hd] at hlength
    cases hlength
  · have hlength := x.lt_length_text
    rw [hx] at hlength
    exact absurd hlength (by decide)

end FieldRules
