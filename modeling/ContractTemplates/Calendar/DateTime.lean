import ContractTemplates.Calendar.Date

namespace ContractTemplates

/-!
# Points in time

A `DateTime` is a day, a time of that day to the microsecond and, for points in
time that are tied to a place, an offset from universal time in seconds. Without
an offset it is a reading of a clock and is comparable only to other readings.
-/

/-- A time of day to the microsecond. -/
structure TimeOfDay where
  hour : Nat
  minute : Nat
  second : Nat
  microsecond : Nat
  exist : hour < 24 ∧ minute < 60 ∧ second < 60 ∧ microsecond < 1000000
  deriving DecidableEq, Repr

/-- The time of day with these parts, if there is one. -/
def TimeOfDay.of? (hour minute second microsecond : Nat) : Option TimeOfDay :=
  if exist :
      hour < 24 ∧ minute < 60 ∧ second < 60 ∧ microsecond < 1000000 then
    some ⟨hour, minute, second, microsecond, exist⟩
  else
    none

/-- The first instant of a day. -/
def TimeOfDay.midnight : TimeOfDay :=
  ⟨0, 0, 0, 0, by decide⟩

/-- The seconds since midnight. -/
def TimeOfDay.seconds (time : TimeOfDay) : Nat :=
  (time.hour * 60 + time.minute) * 60 + time.second

/-- A day, a time of day and possibly an offset in seconds east of universal time. -/
structure DateTime where
  date : Date
  time : TimeOfDay
  offset : Option Int
  deriving DecidableEq, Repr

namespace DateTime

/-- An offset as sign, hours and minutes, with seconds only where there are any. -/
def offsetText (offset : Int) : Text :=
  let magnitude := offset.natAbs
  let seconds := magnitude % 60
  (if offset < 0 then '-' else '+') ::
    Text.padded 2 (magnitude / 3600) ++
      ':' :: Text.padded 2 (magnitude / 60 % 60) ++
        (if seconds = 0 then [] else ':' :: Text.padded 2 seconds)

/-- The date, `T`, the time with microseconds only where there are any, and the offset. -/
def text (point : DateTime) : Text :=
  let time := point.time
  point.date.text ++ 'T' :: Text.padded 2 time.hour ++
    ':' :: Text.padded 2 time.minute ++ ':' :: Text.padded 2 time.second ++
      (if time.microsecond = 0 then
        []
      else
        '.' :: Text.padded 6 time.microsecond) ++
      (point.offset.map offsetText).getD []

/-- Microseconds from the first instant of year 1, in universal time if there is an offset. -/
def microseconds (point : DateTime) : Int :=
  let seconds : Int := point.date.dayNumber * 86400 + point.time.seconds
  (seconds - point.offset.getD 0) * 1000000 + point.time.microsecond

/-- Whether two points are the same instant, or the same reading of a clock. -/
def sameInstant (a b : DateTime) : Bool :=
  a.offset.isSome = b.offset.isSome && a.microseconds = b.microseconds

/-- The point that lies some microseconds after the first instant of year 1. -/
def ofMicroseconds? (microseconds : Int) (offset : Option Int) :
    Option DateTime := do
  if microseconds < 0 then
    none
  else
    let total := microseconds.natAbs
    let seconds := total / 1000000
    let date ← Date.ofDayNumber? (seconds / 86400)
    let time ←
      TimeOfDay.of? (seconds / 3600 % 24) (seconds / 60 % 60) (seconds % 60)
        (total % 1000000)
    some ⟨date, time, offset⟩

/-- The value of two leading digits and the text after them. -/
def twoDigits? : Text → Option (Nat × Text)
  | a :: b :: rest =>
      if a.isDigit && b.isDigit then
        some (Nat.ofDigitChars 10 [a, b] 0, rest)
      else
        none
  | _ => none

/-- Microseconds from the digits after the point; digits beyond the sixth are dropped. -/
def fractionMicroseconds (digits : Text) : Nat :=
  let kept := digits.take 6
  Nat.ofDigitChars 10 (kept ++ List.replicate (6 - kept.length) '0') 0

/-- Whether a sign is a minus, as a hyphen or as the character U+2212. -/
def isMinus (sign : Char) : Bool :=
  sign = '-' || sign = '\u2212'

/-- An offset at the end of a text: none, `Z`, or a sign with hours and minutes. -/
def offset? (text : Text) : Option (Option Int) :=
  match text with
  | [] => some none
  | ['Z'] | ['z'] => some (some 0)
  | sign :: rest =>
      if sign = '+' ∨ isMinus sign then do
        let (hours, rest) ← twoDigits? rest
        let rest := (Text.after? [':'] rest).getD rest
        let (minutes, rest) ← twoDigits? rest
        let magnitude : Int := (hours * 60 + minutes : Nat) * 60
        if rest = [] ∧ hours < 24 ∧ minutes < 60 then
          some (some (if isMinus sign then -magnitude else magnitude))
        else
          none
      else
        none

/-- The microseconds after a point or a comma, and the text after them. -/
def fraction? (text : Text) : Option (Nat × Text) :=
  match text with
  | [] => some (0, [])
  | mark :: later =>
      if mark = '.' ∨ mark = ',' then
        let (digits, rest) := Text.spanDigits later
        if digits = [] then
          none
        else
          some (fractionMicroseconds digits, rest)
      else
        some (0, text)

/-- The seconds and microseconds after a colon, if there is one, and the text after them. -/
def seconds? (text : Text) : Option (Nat × Nat × Text) :=
  match Text.after? [':'] text with
  | none => some (0, 0, text)
  | some later => do
      let (second, later) ← twoDigits? later
      let (microsecond, rest) ← fraction? later
      some (second, microsecond, rest)

/-- Reads a date and a time that are parted by `T`, a space or an underscore. -/
def read? (text : Text) : Option DateTime := do
  let shape ← Date.leading? text
  let date ← Date.ofShape? shape
  match text.drop 10 with
  | mark :: rest =>
      if mark = 'T' ∨ mark = 't' ∨ mark = ' ' ∨ mark = '_' then
        let (hour, rest) ← twoDigits? rest
        let rest ← Text.after? [':'] rest
        let (minute, rest) ← twoDigits? rest
        let (second, microsecond, rest) ← seconds? rest
        let time ← TimeOfDay.of? hour minute second microsecond
        let offset ← offset? rest
        some ⟨date, time, offset⟩
      else
        none
  | [] => none

end DateTime

end ContractTemplates
