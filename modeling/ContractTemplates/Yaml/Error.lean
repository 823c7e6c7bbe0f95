namespace ContractTemplates.Yaml

/-!
# Why YAML text has no value

Most faults are faults of the document: its characters, its layout, its anchors
and tags, or data that do not fit their tag. A few are faults of one scalar
whose tag says more than its text can hold, such as an integer without digits or
a day that does not exist; they are kept apart.
-/

/-- Why a text is not one YAML document with a value. -/
inductive Error where
  /-- A character that no document may contain. -/
  | unprintable
  /-- Text that does not form a token, or an indentation that does not fit. -/
  | badToken
  /-- Tokens in an order that no document has. -/
  | badStructure
  /-- An anchor that is set twice, or a reference to none. -/
  | badAnchor
  /-- More than one document. -/
  | severalDocuments
  /-- A tag without a meaning, or a tag on data of another shape. -/
  | badTag
  /-- A collection as a key. -/
  | badKey
  /-- A numeral, a day, a time or a character code that does not exist. -/
  | badValue
  /-- A numeral without any digits. -/
  | noDigits
  /-- A word that is no truth value under the tag of truth values. -/
  | unknownWord
  /-- Text that is no timestamp under the tag of timestamps. -/
  | notTimestamp
  /-- A mapping under the tag of timestamps. -/
  | mappedTimestamp
  /-- A number too large to be computed with. -/
  | tooLarge
  deriving DecidableEq, Repr

end ContractTemplates.Yaml
