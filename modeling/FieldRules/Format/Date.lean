import FieldRules.Text.Blank
import FieldRules.Binary64.Numeral

/-!
# Dates and timestamps

`isCalendarDate` accepts a year, a month and a day with hyphens between them, and `isTimestamp` the
timestamps of RFC 3339. The calendar is the proleptic Gregorian one. Calendar dates are read
leniently: blanks may stand before each number, a month or a day may have one digit and a year up to
four, and a signed year any number of digits. Timestamps have fixed widths.
-/

namespace FieldRules.Format

def isLeapYear (year : Int) : Bool :=
  year % 4 == 0 && (year % 100 != 0 || year % 400 == 0)

def daysIn (year : Int) (month : Nat) : Nat :=
  match month with
  | 2 => if isLeapYear year then 29 else 28
  | 4 | 6 | 9 | 11 => 30
  | _ => 31

def dayExists (year : Int) (month day : Nat) : Bool :=
  1 ≤ month && month ≤ 12 && 1 ≤ day && day ≤ daysIn year month

def isYear (year : Int) : Bool := -262143 ≤ year && year ≤ 262142

/-- The digits at the start of a text, at most `most` of them and at least one, as a number. -/
def upTo? (most : Nat) (t : List Char) : Option (Nat × List Char) :=
  let digits := (t.take most).takeWhile Char.isDigit
  if digits.isEmpty then none else some (Numeral.ofDigits digits, t.drop digits.length)

def exactly? (width : Nat) (t : List Char) : Option (Nat × List Char) :=
  let digits := t.take width
  if digits.length = width && digits.all Char.isDigit then
    some (Numeral.ofDigits digits, t.drop width)
  else none

def after? (c : Char) : List Char → Option (List Char)
  | x :: t => if x = c then some t else none
  | [] => none

/-- A year of up to four digits, or of any number of them behind a sign. -/
def year? (t : List Char) : Option (Int × List Char) :=
  match t with
  | '-' :: t => (upTo? t.length t).map fun p => (-(p.1 : Int), p.2)
  | '+' :: t => (upTo? t.length t).map fun p => ((p.1 : Int), p.2)
  | t => (upTo? 4 t).map fun p => ((p.1 : Int), p.2)

def calendarDate? (t : List Char) : Option (Int × Nat × Nat) := do
  let (year, t) ← year? (Text.trimStart t)
  let (month, t) ← upTo? 2 (Text.trimStart (← after? '-' t))
  let (day, t) ← upTo? 2 (Text.trimStart (← after? '-' t))
  if t.isEmpty then some (year, month, day) else none

def isCalendarDate (t : List Char) : Bool :=
  match calendarDate? t with
  | some (year, month, day) => isYear year && dayExists year month day
  | none => false

/-- The rest after an offset from UTC: `Z`, or a signed time below 24 hours. -/
def afterOffset? : List Char → Option (List Char)
  | [] => none
  | c :: t =>
    if c = 'Z' || c = 'z' then some t
    else if c = '+' || c = '-' || c = '−' then do
      let (hours, t) ← exactly? 2 t
      let (minutes, t) ← exactly? 2 (← after? ':' t)
      if hours < 24 && minutes < 60 then some t else none
    else none

def afterFraction? : List Char → Option (List Char)
  | '.' :: t => if (t.takeWhile Char.isDigit).isEmpty then none else some (t.dropWhile Char.isDigit)
  | t => some t

/-- A date, a `T` or a blank, a time with seconds, and an offset. Second 60 is allowed. -/
def isTimestamp (t : List Char) : Bool :=
  let rest? := do
    let (year, t) ← exactly? 4 t
    let (month, t) ← exactly? 2 (← after? '-' t)
    let (day, t) ← exactly? 2 (← after? '-' t)
    let t ← match t with
      | c :: t => if c = 'T' || c = 't' || c = ' ' then some t else none
      | [] => none
    let (hour, t) ← exactly? 2 t
    let (minute, t) ← exactly? 2 (← after? ':' t)
    let (second, t) ← exactly? 2 (← after? ':' t)
    let t ← afterFraction? t
    let t ← afterOffset? t
    if dayExists year month day && hour < 24 && minute < 60 && second ≤ 60 then some t else none
  rest? == some []

def isDate (t : List Char) : Bool := isCalendarDate t || isTimestamp t

end FieldRules.Format
