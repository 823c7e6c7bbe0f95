import ContractTemplates.Text.Basic

namespace ContractTemplates

/-!
# Calendar days

Days of the proleptic Gregorian calendar in the years 1 to 9999. A `Date` is a
day that exists: the proof is part of the value. `Date.text` writes ten
characters `dddd-dd-dd`; `Date.leading?` recognises that shape at the start of
a text without asking whether the day exists, and `Date.ofShape?` asks.
-/

/-- A year with a twenty-ninth of February. -/
def isLeapYear (year : Nat) : Bool :=
  year % 4 = 0 && (year % 100 ≠ 0 || year % 400 = 0)

/-- The number of days of a month, zero for a month that does not exist. -/
def daysInMonth (year month : Nat) : Nat :=
  match month with
  | 1 | 3 | 5 | 7 | 8 | 10 | 12 => 31
  | 4 | 6 | 9 | 11 => 30
  | 2 => if isLeapYear year then 29 else 28
  | _ => 0

/-- Whether year, month and day name a day of the calendar. -/
def DayExists (year month day : Nat) : Prop :=
  1 ≤ year ∧ year ≤ 9999 ∧ 1 ≤ day ∧ day ≤ daysInMonth year month

instance (year month day : Nat) :
    Decidable (DayExists year month day) :=
  inferInstanceAs (Decidable (_ ∧ _ ∧ _ ∧ _))

/-- A day of the calendar. -/
structure Date where
  year : Nat
  month : Nat
  day : Nat
  exist : DayExists year month day
  deriving DecidableEq, Repr

namespace Date

/-- The day with these parts, if there is one. -/
def of? (year month day : Nat) : Option Date :=
  if exist : DayExists year month day then
    some ⟨year, month, day, exist⟩
  else
    none

/-- Year, month and day in ten characters. -/
def text (date : Date) : Text :=
  Text.padded 4 date.year ++ '-' :: Text.padded 2 date.month ++
    '-' :: Text.padded 2 date.day

/-- The first ten characters of a text that begins with the shape `dddd-dd-dd`. -/
def leading? : Text → Option Text
  | a :: b :: c :: d :: '-' :: e :: f :: '-' :: g :: h :: _ =>
      if [a, b, c, d, e, f, g, h].all Char.isDigit then
        some [a, b, c, d, '-', e, f, '-', g, h]
      else
        none
  | _ => none

/-- The day that ten characters of the shape `dddd-dd-dd` name. -/
def ofShape? : Text → Option Date
  | [a, b, c, d, '-', e, f, '-', g, h] =>
      if [a, b, c, d, e, f, g, h].all Char.isDigit then
        of? (Nat.ofDigitChars 10 [a, b, c, d] 0)
          (Nat.ofDigitChars 10 [e, f] 0) (Nat.ofDigitChars 10 [g, h] 0)
      else
        none
  | _ => none

/-- The number of days from the first day of year 1 to the first day of a year. -/
def daysBeforeYear (year : Nat) : Nat :=
  let past := year - 1
  365 * past + past / 4 - past / 100 + past / 400

/-- The number of days in the first months of a year. -/
def daysInFirst (year : Nat) : Nat → Nat
  | 0 => 0
  | months + 1 => daysInFirst year months + daysInMonth year (months + 1)

/-- The number of the day, counted from the first day of year 1. -/
def dayNumber (date : Date) : Nat :=
  daysBeforeYear date.year + daysInFirst date.year (date.month - 1) +
    (date.day - 1)

/-- The day `count` days after the first day of a year, within that year. -/
def inYear? (year : Nat) (month count : Nat) : Nat → Option Date
  | 0 => none
  | months + 1 =>
      if count < daysInMonth year month then
        of? year month (count + 1)
      else
        inYear? year (month + 1) (count - daysInMonth year month) months

/-- The day with a number, if it lies in the years 1 to 9999. -/
def ofDayNumber? (number : Nat) : Option Date :=
  let guess := number * 400 / 146097 + 1
  let year :=
    if number < daysBeforeYear guess then
      guess - 1
    else if daysBeforeYear (guess + 1) ≤ number then
      guess + 1
    else
      guess
  inYear? year 1 (number - daysBeforeYear year) 12

/-- A day is recovered from its parts. -/
theorem of?_parts
    (date : Date) :
    of? date.year date.month date.day = some date := by
  simp [of?, date.exist]

/-- The parts of a day found by `of?` are the ones asked for. -/
theorem parts_of_of?
    {year month day : Nat}
    {date : Date}
    (found : of? year month day = some date) :
    date.year = year ∧ date.month = month ∧ date.day = day := by
  unfold of? at found
  split at found
  · cases found
    exact ⟨rfl, rfl, rfl⟩
  · cases found

end Date

end ContractTemplates
