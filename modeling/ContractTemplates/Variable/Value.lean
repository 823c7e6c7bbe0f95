import ContractTemplates.Calendar.Date
import ContractTemplates.Number.Numeral
import ContractTemplates.Text.Raw

namespace ContractTemplates

/-!
# Values of variables

What a form field holds once it has been checked. `Value.render` is the text
that takes the place of the field's placeholder. A text that begins with the
shape of a date is cut to that date, so that a date prints the same whether it
was declared as one or typed into a plain field.
-/

/-- A checked value of a variable. -/
inductive Value where
  | text (value : RawText)
  | number (value : Number)
  | boolean (value : Bool)
  | date (value : Date)
  deriving DecidableEq, Repr

namespace Value

/-- The word for a truth value. -/
def booleanText (value : Bool) : Text :=
  if value then "true".toList else "false".toList

/-- The text that stands for a value in a document. -/
def render : Value → RawText
  | text value => ((Date.leading? value.shown).map Text.raw).getD value
  | number value => value.text
  | boolean value => booleanText value
  | date value => value.text

end Value

end ContractTemplates
