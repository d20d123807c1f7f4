import FieldRules.Proofs.CalendarDays

/-!
# Timestamps as they are written

A timestamp is a date in the plain way, a separator, a time with seconds, perhaps a fraction, and an
offset from UTC. Its numbers have fixed widths, except that the fraction has any number of digits.
-/

namespace FieldRules.Format

open Numeral (ofDigits)

inductive IsFraction : List Char → Prop
  | none : IsFraction []
  | some {digits : List Char} (h : UpToDigits digits.length digits) : IsFraction ('.' :: digits)

/-- The distance from UTC: none, or less than a day in hours and minutes, with a sign. -/
inductive IsOffset : List Char → Prop
  | utc {c : Char} (h : c = 'Z' ∨ c = 'z') : IsOffset [c]
  | signed {sign : Char} {hours minutes : List Char} (h : sign = '+' ∨ sign = '-' ∨ sign = '−')
      (hhours : Digits 2 hours) (hminutes : Digits 2 minutes) (hday : ofDigits hours < 24)
      (hhour : ofDigits minutes < 60) : IsOffset (sign :: (hours ++ ':' :: minutes))

theorem afterOffset?_eq_some_iff {t rest : List Char} :
    afterOffset? t = some rest ↔ ∃ offset, t = offset ++ rest ∧ IsOffset offset := by
  constructor
  · intro h
    cases t with
    | nil => cases h
    | cons c t =>
        rw [afterOffset?] at h
        split at h
        · rename_i hc
          cases h
          exact ⟨[c], rfl, .utc (by simpa using hc)⟩
        · split at h
          · rename_i hc
            simp only [Option.bind_eq_bind, Option.bind_eq_some_iff, Prod.exists,
              after?_eq_some_iff, exactly?_eq_some_iff] at h
            obtain ⟨n, t₁, ⟨hours, rfl, hhours, rfl⟩, t₂, rfl, m, t₃, ⟨minutes, rfl, hminutes, rfl⟩,
              h⟩ := h
            split at h
            · rename_i hrange
              simp only [Bool.and_eq_true, decide_eq_true_eq] at hrange
              cases h
              have hsign : c = '+' ∨ c = '-' ∨ c = '−' := by simpa [or_assoc] using hc
              exact ⟨c :: (hours ++ ':' :: minutes), by simp,
                .signed hsign hhours hminutes hrange.1 hrange.2⟩
            · cases h
          · cases h
  · rintro ⟨offset, rfl, hoffset⟩
    cases hoffset with
    | utc h =>
        rw [List.singleton_append, afterOffset?, if_pos]
        simpa using h
    | @signed sign hours minutes h hhours hminutes hday hhour =>
        have hsign : (sign = 'Z' || sign = 'z') = false ∧
            (sign = '+' || sign = '-' || sign = '−') = true := by
          rcases h with rfl | rfl | rfl <;> decide
        simp only [List.cons_append, List.append_assoc, afterOffset?, hsign, if_true,
          Bool.false_eq_true, if_false, exactly?_append hhours, exactly?_append hminutes,
          after?_cons, Option.bind_eq_bind, Option.bind_some, hday, hhour, decide_true,
          Bool.and_true]

/-- An offset cannot be taken for more of a fraction. -/
theorem IsOffset.head {t : List Char} (h : IsOffset t) (rest : List Char) {c : Char}
    (hc : (t ++ rest).head? = some c) : ¬ IsDigit c ∧ c ≠ '.' := by
  cases h with
  | utc h =>
      cases hc
      rcases h with rfl | rfl <;> exact ⟨mt isDigit_iff.2 (by decide), by decide⟩
  | signed h =>
      cases hc
      rcases h with rfl | rfl | rfl <;> exact ⟨mt isDigit_iff.2 (by decide), by decide⟩

theorem afterFraction?_sound {t rest : List Char} (h : afterFraction? t = some rest) :
    ∃ fraction, t = fraction ++ rest ∧ IsFraction fraction := by
  unfold afterFraction? at h
  split at h
  · rename_i t
    split at h
    · cases h
    · rename_i hne
      cases h
      refine ⟨'.' :: t.takeWhile Char.isDigit, by simp, .some ⟨?_, le_rfl, fun c hc => ?_⟩⟩
      · simpa using hne
      · exact isDigit_iff.1 (List.mem_takeWhile_imp hc)
  · cases h
    exact ⟨[], rfl, .none⟩

theorem afterFraction?_append {fraction rest : List Char} (h : IsFraction fraction)
    (hrest : ∀ c, rest.head? = some c → ¬ IsDigit c ∧ c ≠ '.') :
    afterFraction? (fraction ++ rest) = some rest := by
  cases h with
  | none =>
      rw [List.nil_append]
      unfold afterFraction?
      split
      · exact absurd rfl (hrest '.' rfl).2
      · rfl
  | @some digits h =>
      have hdigits : ∀ c ∈ digits, c.isDigit = true := fun c hc => isDigit_iff.2 (h.digits c hc)
      have hstops : Stops rest := fun c hc => (hrest c hc).1
      rw [List.cons_append, afterFraction?, List.takeWhile_append_of_pos hdigits,
        List.dropWhile_append_of_pos hdigits, hstops.takeWhile, hstops.dropWhile, List.append_nil,
        List.isEmpty_eq_false_iff.2 h.ne_nil, if_neg Bool.false_ne_true]

structure Timestamp where
  date : PlainDate
  separator : Char
  hour : List Char
  minute : List Char
  second : List Char
  fraction : List Char
  offset : List Char
  is_separator : separator = 'T' ∨ separator = 't' ∨ separator = ' '
  hour_digits : Digits 2 hour
  hour_lt : ofDigits hour < 24
  minute_digits : Digits 2 minute
  minute_lt : ofDigits minute < 60
  second_digits : Digits 2 second
  second_le : ofDigits second ≤ 60
  is_fraction : IsFraction fraction
  is_offset : IsOffset offset

def Timestamp.text (x : Timestamp) : List Char :=
  x.date.text ++ x.separator :: (x.hour ++ ':' :: (x.minute ++ ':' :: (x.second ++ (x.fraction ++
    x.offset))))

theorem isTimestamp_text (x : Timestamp) : isTimestamp x.text = true := by
  have hseparator : (x.separator = 'T' || x.separator = 't' || x.separator = ' ') = true := by
    simpa [or_assoc] using x.is_separator
  have hday := dayExists_iff.2 x.date.exists_day
  have hfraction : afterFraction? (x.fraction ++ x.offset) = some x.offset :=
    afterFraction?_append x.is_fraction fun c hc => x.is_offset.head [] (by simpa using hc)
  have hoffset : afterOffset? x.offset = some [] :=
    afterOffset?_eq_some_iff.2 ⟨x.offset, (List.append_nil _).symm, x.is_offset⟩
  simp only [isTimestamp, Timestamp.text, PlainDate.text, List.append_assoc, List.cons_append,
    Option.bind_eq_bind, Option.bind_some, after?_cons, exactly?_append x.date.year_digits,
    exactly?_append x.date.month_digits, exactly?_append x.date.day_digits,
    exactly?_append x.hour_digits, exactly?_append x.minute_digits,
    exactly?_append x.second_digits, hseparator, if_true, hfraction, hoffset, hday, x.hour_lt,
    x.minute_lt, x.second_le, decide_true, Bool.and_true]
  rfl

theorem exists_timestamp {t : List Char} (h : isTimestamp t = true) :
    ∃ x : Timestamp, x.text = t := by
  simp only [isTimestamp, beq_iff_eq, Option.bind_eq_bind, Option.bind_eq_some_iff, Prod.exists,
    after?_eq_some_iff, exactly?_eq_some_iff] at h
  obtain ⟨_, t₁, ⟨year, rfl, hyear, rfl⟩, t₂, rfl, _, t₃, ⟨month, rfl, hmonth, rfl⟩, t₄, rfl, _, t₅,
    ⟨day, rfl, hday, rfl⟩, h⟩ := h
  split at h
  · rename_i separator t₆
    split at h
    · rename_i hseparator
      simp only [Option.bind_some, Option.bind_eq_some_iff, Prod.exists, after?_eq_some_iff,
        exactly?_eq_some_iff, afterOffset?_eq_some_iff, Option.ite_none_right_eq_some,
        Bool.and_eq_true, decide_eq_true_eq, dayExists_iff, Option.some.injEq] at h
      obtain ⟨_, t₇, ⟨hour, rfl, hhour, rfl⟩, t₈, rfl, _, t₉, ⟨minute, rfl, hminute, rfl⟩, t₁₀, rfl,
        _, t₁₁, ⟨second, rfl, hsecond, rfl⟩, t₁₂, hfraction, t₁₃, ⟨offset, rfl, hoffset⟩,
        ⟨⟨⟨hexists, hhour'⟩, hminute'⟩, hsecond'⟩, rfl⟩ := h
      obtain ⟨fraction, rfl, hspelled⟩ := afterFraction?_sound hfraction
      simp only [Bool.or_eq_true, decide_eq_true_eq, or_assoc] at hseparator
      let date : PlainDate := ⟨year, month, day, hyear, hmonth, hday, hexists⟩
      exact ⟨⟨date, separator, hour, minute, second, fraction, offset, hseparator, hhour, hhour',
        hminute, hminute', hsecond, hsecond', hspelled, hoffset⟩, by
        simp [Timestamp.text, PlainDate.text, date]⟩
    · cases h
  · cases h

theorem isTimestamp_iff {t : List Char} :
    isTimestamp t = true ↔ ∃ x : Timestamp, x.text = t := by
  constructor
  · exact exists_timestamp
  · rintro ⟨x, rfl⟩
    exact isTimestamp_text x

theorem Timestamp.lt_length_text (x : Timestamp) : 10 < x.text.length := by
  rw [text, List.length_append, x.date.length_text, List.length_cons]
  omega

end FieldRules.Format
