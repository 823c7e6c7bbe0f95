import ContractTemplates.Calendar.DateTime

namespace ContractTemplates.Yaml

/-!
# Timestamps

A timestamp is a date, alone or with a time of day and an offset. A date alone
is recognised only in its full form of ten characters; with a time, month, day
and hour may have one digit. `Timestamp.read?` looks at the form only, and
`Timestamp.date?` and `Timestamp.dateTime?` ask whether the day and the time
exist.
-/

/-- The offset at the end of a timestamp. -/
inductive TimestampZone where
  | none
  | universal
  | offset (behind : Bool) (hours minutes : Nat)
  deriving DecidableEq, Repr

/-- The time of a timestamp. -/
structure TimestampClock where
  hour : Nat
  minute : Nat
  second : Nat
  fraction : Text
  zone : TimestampZone
  deriving DecidableEq, Repr

/-- The parts of a timestamp. -/
structure Timestamp where
  year : Nat
  month : Nat
  day : Nat
  /-- Whether month and day have two digits each. -/
  full : Bool
  clock : Option TimestampClock
  deriving DecidableEq, Repr

namespace Timestamp

/-- A numeral of one or two digits, and what follows it. -/
def shortNumber? (text : Text) : Option (Text × Text) :=
  match (text.takeWhile Char.isDigit).take 2 with
  | [] => none
  | digits => some (digits, text.drop digits.length)

/-- The value of digits. -/
def valueOf (digits : Text) : Nat :=
  Nat.ofDigitChars 10 digits 0

/-- The offset that a text is, after blanks. -/
def zone? (text : Text) : Option TimestampZone :=
  if text = [] then
    some .none
  else
    match text.dropWhile (fun c => c = ' ' || c = '\t') with
    | ['Z'] => some .universal
    | sign :: rest =>
        if sign = '+' ∨ sign = '-' then do
          let (hours, later) ← shortNumber? rest
          match later with
          | [] => some (.offset (sign = '-') (valueOf hours) 0)
          | [':', a, b] =>
              if a.isDigit && b.isDigit then
                some (.offset (sign = '-') (valueOf hours) (valueOf [a, b]))
              else
                none
          | _ => none
        else
          none
    | [] => none

/-- The time that a text is. -/
def clock? (text : Text) : Option TimestampClock := do
  let (hour, afterHour) ← shortNumber? text
  let (minute, afterMinute) ←
    DateTime.twoDigits? (← Text.after? [':'] afterHour)
  let (second, afterSecond) ←
    DateTime.twoDigits? (← Text.after? [':'] afterMinute)
  let (fraction, rest) :=
    match afterSecond with
    | '.' :: digits => Text.spanDigits digits
    | _ => ([], afterSecond)
  let zone ← zone? rest
  some { hour := valueOf hour, minute, second, fraction, zone }

/-- The time after a `T` or after blanks. -/
def markedClock? (text : Text) : Option TimestampClock :=
  match text with
  | [] => none
  | mark :: rest =>
      if mark = 'T' ∨ mark = 't' then
        clock? rest
      else if mark = ' ' ∨ mark = '\t' then
        clock? (text.dropWhile fun c => c = ' ' || c = '\t')
      else
        none

/-- Reads the form of a timestamp. -/
def read? (text : Text) : Option Timestamp := do
  let year := text.take 4
  if year.length < 4 ∨ ¬ year.all Char.isDigit then
    none
  else
    let (month, afterMonth) ← shortNumber? (← Text.after? ['-'] (text.drop 4))
    let (day, rest) ← shortNumber? (← Text.after? ['-'] afterMonth)
    let clock ←
      if rest = [] then
        some none
      else
        (markedClock? rest).map some
    some {
      year := valueOf year
      month := valueOf month
      day := valueOf day
      full := month.length = 2 && day.length = 2
      clock }

/-- Whether a text without a tag is a timestamp. -/
def recognised (text : Text) : Bool :=
  (read? text).any fun stamp => stamp.full || stamp.clock.isSome

/-- The day of a timestamp. -/
def date? (stamp : Timestamp) : Option Date :=
  Date.of? stamp.year stamp.month stamp.day

/-- The offset in seconds; it lies within a day to either side. -/
def TimestampZone.seconds? : TimestampZone → Option (Option Int)
  | .none => some none
  | .universal => some (some 0)
  | .offset behind hours minutes =>
      let magnitude : Int := (hours * 60 + minutes : Nat) * 60
      if magnitude < 86400 then
        some (some (if behind then -magnitude else magnitude))
      else
        none

/-- The point in time of a timestamp with a time. -/
def dateTime? (stamp : Timestamp) (clock : TimestampClock) :
    Option DateTime := do
  let date ← stamp.date?
  let time ←
    TimeOfDay.of? clock.hour clock.minute clock.second
      (DateTime.fractionMicroseconds clock.fraction)
  let offset ← TimestampZone.seconds? clock.zone
  some ⟨date, time, offset⟩

end Timestamp

end ContractTemplates.Yaml
