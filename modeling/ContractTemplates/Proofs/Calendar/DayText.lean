import Mathlib.Tactic.IntervalCases
import ContractTemplates.Calendar.Date

namespace ContractTemplates

/-!
# Days as texts

`Date.Spells` says which ten characters write a year, a month and a day, and `Date.InCalendar`
which days the proleptic Gregorian calendar has. Neither mentions the functions that read and
write days.

What the library does with days agrees with both. `Date.leading?_eq_some_iff` is about the shape
at the start of a text, `Date.dayExists_iff` about the calendar, and
`Date.ofShape?_leading?_eq_some_iff` says that the day read from the start of a text is the one
whose own text stands there.
-/

namespace Text

theorem isDigit_iff
    {c : Char} :
    c.isDigit = true ↔ ∃ value : Fin 10, c = Nat.digitChar value := by
  constructor
  · intro digit
    obtain ⟨low, high⟩ := Char.isDigit_iff_toNat.mp digit
    have small : c.toNat - 48 < 10 := by
      have nine : '9'.toNat = 57 := rfl
      omega
    refine ⟨⟨c.toNat - 48, small⟩, Char.toNat_inj.mp ?_⟩
    rw [Nat.toNat_digitChar_of_lt_ten small]
    have zero : '0'.toNat = 48 := rfl
    omega
  · rintro ⟨value, rfl⟩
    simp [Nat.isDigit_digitChar]

theorem padded_one
    {n : Nat}
    (small : n < 10) :
    padded 1 n = [n.digitChar] := by
  simp [padded, Nat.toDigits_of_lt_base small]

/-- The last digit of a numeral that was filled up stands behind the others. -/
theorem padded_succ
    {width : Nat}
    (some : 0 < width)
    (n : Nat) :
    padded (width + 1) n = padded width (n / 10) ++ [(n % 10).digitChar] := by
  unfold padded
  rw [Nat.toDigits_eq_if (b := 10) (n := n) (by decide)]
  split
  · next small =>
      obtain ⟨width, rfl⟩ := Nat.exists_eq_add_one.mpr some
      simp [Nat.div_eq_of_lt small, Nat.mod_eq_of_lt small, List.replicate_succ']
  · simp

end Text

namespace Date

/-- Whether ten characters write a year, a month and a day in four, two and two digits. -/
inductive Spells (text : Text) (year month day : Nat) : Prop where
  | digits
      {a b c d e f g h : Fin 10}
      (characters :
        text = [
          Nat.digitChar a, Nat.digitChar b, Nat.digitChar c, Nat.digitChar d, '-',
          Nat.digitChar e, Nat.digitChar f, '-', Nat.digitChar g, Nat.digitChar h])
      (year : year = 1000 * a + 100 * b + 10 * c + d)
      (month : month = 10 * e + f)
      (day : day = 10 * g + h)

/-- Whether a text is ten characters `dddd-dd-dd`, whether or not there is such a day. -/
def HasShape (text : Text) : Prop :=
  ∃ year month day, Spells text year month day

/-- Whether a year has a leap day: each fourth has one, but of the centuries only each fourth. -/
def IsLeap (year : Nat) : Prop :=
  4 ∣ year ∧ (100 ∣ year → 400 ∣ year)

/-- The days of the proleptic Gregorian calendar in the years 1 to 9999. -/
structure InCalendar (year month day : Nat) : Prop where
  years : 1 ≤ year ∧ year ≤ 9999
  months : 1 ≤ month ∧ month ≤ 12
  days : 1 ≤ day ∧ day ≤ 31
  thirty : month = 4 ∨ month = 6 ∨ month = 9 ∨ month = 11 → day ≤ 30
  february : month = 2 → day ≤ 29
  leap : month = 2 → day = 29 → IsLeap year

/-- Whether a text is ten characters that write a day of the calendar. -/
def NamesDay (text : Text) : Prop :=
  ∃ year month day, Spells text year month day ∧ InCalendar year month day

variable
  {text shape other : Text}
  {year month day : Nat}
  {date : Date}

theorem isLeapYear_iff :
    isLeapYear year = true ↔ IsLeap year := by
  simp only [isLeapYear, IsLeap, Bool.and_eq_true, Bool.or_eq_true, decide_eq_true_eq]
  omega

theorem month_of_daysInMonth_pos
    (days : 0 < daysInMonth year month) :
    1 ≤ month ∧ month ≤ 12 := by
  by_contra unreal
  unfold daysInMonth at days
  split at days <;>
    omega

theorem le_daysInMonth_two_iff :
    day ≤ daysInMonth year 2 ↔ day ≤ 29 ∧ (day = 29 → IsLeap year) := by
  simp only [daysInMonth, ← isLeapYear_iff]
  cases isLeapYear year with
  | true =>
      simp
  | false =>
      simp only [Bool.false_eq_true, reduceIte, imp_false]
      omega

/-- Every month but February has as many days in each year. -/
theorem le_daysInMonth_iff
    (least : 1 ≤ month)
    (most : month ≤ 12)
    (other : month ≠ 2) :
    day ≤ daysInMonth year month ↔
      day ≤ 31 ∧ (month = 4 ∨ month = 6 ∨ month = 9 ∨ month = 11 → day ≤ 30) := by
  interval_cases month <;>
    simp [daysInMonth] at other ⊢ <;>
    omega

theorem dayExists_iff :
    DayExists year month day ↔ InCalendar year month day := by
  constructor
  · rintro ⟨first, last, one, within⟩
    obtain ⟨least, most⟩ := month_of_daysInMonth_pos (one.trans within)
    by_cases february : month = 2
    · subst february
      obtain ⟨short, leap⟩ := le_daysInMonth_two_iff.mp within
      exact ⟨⟨first, last⟩, by omega, by omega, by omega, by omega, fun _ => leap⟩
    · obtain ⟨long, thirty⟩ := (le_daysInMonth_iff least most february).mp within
      exact ⟨⟨first, last⟩, ⟨least, most⟩, ⟨one, long⟩, thirty, by omega, by omega⟩
  · rintro ⟨⟨first, last⟩, ⟨least, most⟩, ⟨one, long⟩, thirty, short, leap⟩
    refine ⟨first, last, one, ?_⟩
    by_cases february : month = 2
    · subst february
      exact le_daysInMonth_two_iff.mpr ⟨short rfl, leap rfl⟩
    · exact (le_daysInMonth_iff least most february).mpr ⟨long, thirty⟩

/-- Year, month and day decide the ten characters that write them. -/
theorem Spells.unique
    (spells : Spells text year month day)
    (again : Spells other year month day) :
    text = other := by
  obtain ⟨rfl, sameYear, sameMonth, sameDay⟩ := spells
  obtain ⟨rfl, _, _, _⟩ := again
  simp only [List.cons.injEq, and_true, true_and]
  refine ⟨?_, ?_, ?_, ?_, ?_, ?_, ?_, ?_⟩ <;>
    refine congrArg Nat.digitChar ?_ <;>
    omega

theorem Spells.length
    (spells : Spells text year month day) :
    text.length = 10 := by
  obtain ⟨rfl, _, _, _⟩ := spells
  rfl

/-- A text begins with a digit if it has the shape of a date. -/
theorem HasShape.head?
    (shaped : HasShape text) :
    ∃ c ∈ text.head?, c.isDigit = true := by
  obtain ⟨_, _, _, rfl, _, _, _⟩ := shaped
  exact ⟨_, rfl, Text.isDigit_iff.mpr ⟨_, rfl⟩⟩

/-- The text of a day writes its year, its month and its day. -/
theorem spells_text
    (date : Date) :
    Spells date.text date.year date.month date.day := by
  obtain ⟨⟨_, last⟩, ⟨_, most⟩, ⟨_, more⟩, _, _, _⟩ := dayExists_iff.mp date.exist
  have thousands : date.year / 10 / 10 / 10 < 10 := by omega
  have months : date.month / 10 < 10 := by omega
  have days : date.day / 10 < 10 := by omega
  have small (n : Nat) : n % 10 < 10 := Nat.mod_lt n (by decide)
  refine .digits
    (a := ⟨_, thousands⟩) (b := ⟨_, small (date.year / 10 / 10)⟩)
    (c := ⟨_, small (date.year / 10)⟩) (d := ⟨_, small date.year⟩)
    (e := ⟨_, months⟩) (f := ⟨_, small date.month⟩)
    (g := ⟨_, days⟩) (h := ⟨_, small date.day⟩) ?_ ?_ ?_ ?_
  · simp [text, Text.padded_succ, Text.padded_one, thousands, months, days]
  · show date.year = 1000 * (date.year / 10 / 10 / 10) + 100 * (date.year / 10 / 10 % 10) +
      10 * (date.year / 10 % 10) + date.year % 10
    omega
  · show date.month = 10 * (date.month / 10) + date.month % 10
    omega
  · show date.day = 10 * (date.day / 10) + date.day % 10
    omega

/-- The days of the calendar have the texts that name a day. -/
theorem namesDay_iff :
    NamesDay text ↔ ∃ date : Date, date.text = text := by
  constructor
  · rintro ⟨year, month, day, spells, exist⟩
    have written := spells_text ⟨year, month, day, dayExists_iff.mpr exist⟩
    exact ⟨_, written.unique spells⟩
  · rintro ⟨date, rfl⟩
    exact ⟨_, _, _, spells_text date, dayExists_iff.mp date.exist⟩

theorem hasShape_of_all
    {a b c d e f g h : Char}
    (digits : [a, b, c, d, e, f, g, h].all Char.isDigit = true) :
    HasShape [a, b, c, d, '-', e, f, '-', g, h] := by
  simp only [List.all_cons, List.all_nil, Bool.and_true, Bool.and_eq_true, Text.isDigit_iff]
    at digits
  obtain ⟨⟨a, rfl⟩, ⟨b, rfl⟩, ⟨c, rfl⟩, ⟨d, rfl⟩, ⟨e, rfl⟩, ⟨f, rfl⟩, ⟨g, rfl⟩, ⟨h, rfl⟩⟩ :=
    digits
  exact ⟨_, _, _, .digits rfl rfl rfl rfl⟩

/-- The shape of a date is recognised at the start of a text exactly if it stands there. -/
theorem leading?_eq_some_iff :
    leading? text = some shape ↔ HasShape shape ∧ shape <+: text := by
  constructor
  · intro found
    unfold leading? at found
    split at found
    · split at found
      · next digits =>
          cases found
          exact ⟨hasShape_of_all digits, _, rfl⟩
      · cases found
    · cases found
  · rintro ⟨⟨_, _, _, rfl, _, _, _⟩, later, rfl⟩
    simp [leading?, Nat.isDigit_digitChar]

/-- Ten characters are read as the day that has the year, the month and the day they write. -/
theorem Spells.ofShape?_eq
    (spells : Spells text year month day) :
    ofShape? text = of? year month day := by
  obtain ⟨rfl, rfl, rfl, rfl⟩ := spells
  simp only [ofShape?, Nat.isDigit_digitChar, Fin.is_lt,
    Nat.ofDigitChars_cons_digitChar_of_lt_ten, Nat.ofDigitChars_nil, List.all_cons,
    List.all_nil, decide_true, Bool.and_self, if_true]
  congr 1 <;>
    omega

theorem hasShape_of_ofShape?
    (found : ofShape? text = some date) :
    HasShape text := by
  unfold ofShape? at found
  split at found
  · split at found
    · next digits =>
        exact hasShape_of_all digits
    · cases found
  · cases found

theorem ofShape?_eq_some_iff :
    ofShape? text = some date ↔ Spells text date.year date.month date.day := by
  constructor
  · intro found
    obtain ⟨_, _, _, spells⟩ := hasShape_of_ofShape? found
    rw [spells.ofShape?_eq] at found
    obtain ⟨rfl, rfl, rfl⟩ := parts_of_of? found
    exact spells
  · intro spells
    rw [spells.ofShape?_eq, of?_parts]

/-- The day read from the start of a text is the one whose own text stands there. -/
theorem ofShape?_leading?_eq_some_iff :
    (leading? text).bind ofShape? = some date ↔ date.text <+: text := by
  simp only [Option.bind_eq_some_iff, leading?_eq_some_iff, ofShape?_eq_some_iff]
  constructor
  · rintro ⟨shape, ⟨_, begins⟩, spells⟩
    rw [(spells_text date).unique spells]
    exact begins
  · intro begins
    exact ⟨_, ⟨⟨_, _, _, spells_text date⟩, begins⟩, spells_text date⟩

end Date

end ContractTemplates
