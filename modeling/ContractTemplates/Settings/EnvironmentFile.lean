import ContractTemplates.Entries
import ContractTemplates.Text.Blank

namespace ContractTemplates

/-!
# Environment files

A file of settings has lines `name = value`. A line may begin with `export`, a
value may stand in quotes, and `#` begins a comment. In values without quotes a
comment needs a blank before it. Quoted values may contain line breaks and
escapes. A line that does not have this form is passed over.

Afterwards `${name}` in a value is replaced by the value of that name, which is
looked up first among the values before and then in the environment;
`${name:-text}` gives a text for names without a value.
-/

namespace EnvironmentFile

/-- A blank that does not end a line. -/
def isInlineBlank (c : Char) : Bool :=
  Text.isBlank c && c ≠ '\n' && c ≠ '\r'

/-- Whether a character ends a line. -/
def endsLine (c : Char) : Bool :=
  c = '\n' || c = '\r'

/-- The text without blanks of the line in front. -/
def skipInline (text : Text) : Text :=
  text.dropWhile isInlineBlank

/-- The text after the end of the current line. -/
def afterLine (text : Text) : Text :=
  (text.dropWhile (!endsLine ·)).drop 1

/-- The text up to a quote and the text after it; a quote after a backslash does not count. -/
def closed? (quote : Char) : Text → Option (Text × Text)
  | [] => none
  | '\\' :: c :: rest =>
      if c = quote then
        match closed? quote rest with
        | some (inside, later) => some ('\\' :: c :: inside, later)
        | none => some (['\\'], rest)
      else
        (closed? quote (c :: rest)).map fun (inside, later) =>
          ('\\' :: inside, later)
  | c :: rest =>
      if c = quote then
        some ([], rest)
      else
        (closed? quote rest).map fun (inside, later) => (c :: inside, later)

/-- The character for the letter after a backslash between double quotes. -/
def escape? : Char → Option Char
  | '\\' => some '\\'
  | '\'' => some '\''
  | '"' => some '"'
  | 'a' => some '\x07'
  | 'b' => some '\x08'
  | 'f' => some '\x0c'
  | 'n' => some '\n'
  | 'r' => some '\r'
  | 't' => some '\t'
  | 'v' => some '\x0b'
  | _ => none

/-- The character for the letter after a backslash between single quotes. -/
def plainEscape? : Char → Option Char
  | '\\' => some '\\'
  | '\'' => some '\''
  | _ => none

/-- The text with its escapes replaced. -/
def unescaped (escape? : Char → Option Char) : Text → Text
  | '\\' :: letter :: rest =>
      match escape? letter with
      | some c => c :: unescaped escape? rest
      | none => '\\' :: unescaped escape? (letter :: rest)
  | c :: rest => c :: unescaped escape? rest
  | [] => []

/-- The text up to blanks that are followed by a comment. -/
def withoutComment : Text → Text
  | [] => []
  | c :: rest =>
      if Text.isBlank c && (rest.dropWhile Text.isBlank).head? = some '#' then
        []
      else
        c :: withoutComment rest

/-- The text without blanks at the end. -/
def withoutTrailing (text : Text) : Text :=
  (text.reverse.dropWhile Text.isBlank).reverse

/-- The value that a text begins with, and the text after it. -/
def value? (text : Text) : Option (Text × Text) :=
  match text with
  | '\'' :: rest =>
      (closed? '\'' rest).map fun (inside, later) =>
        (unescaped plainEscape? inside, later)
  | '"' :: rest =>
      (closed? '"' rest).map fun (inside, later) =>
        (unescaped escape? inside, later)
  | _ =>
      let line := text.takeWhile (!endsLine ·)
      some (withoutTrailing (withoutComment line), text.drop line.length)

/-- What follows the end of the line, if nothing but a comment stands before it. -/
def endOfLine? (text : Text) : Option Text :=
  let rest := skipInline text
  let rest :=
    if rest.head? = some '#' then rest.dropWhile (!endsLine ·) else rest
  match rest with
  | [] => some []
  | c :: later => if endsLine c then some later else none

/-- The name that a text begins with; none before a comment. -/
def name? (text : Text) : Option (Option Text × Text) :=
  match text with
  | '#' :: _ => some (none, text)
  | '\'' :: rest =>
      match Text.cut '\'' rest with
      | ([], _) | (_, none) => none
      | (name, some later) => some (some name, later)
  | _ =>
      let isPart := fun c => c ≠ '=' && c ≠ '#' && !Text.isBlank c
      match text.takeWhile isPart with
      | [] => none
      | name => some (some name, text.drop name.length)

/-- The text after the word `export` and blanks, if it begins so. -/
def withoutExport (text : Text) : Text :=
  match Text.after? "export".toList text with
  | some rest =>
      if isInlineBlank (rest.headD 'x') then skipInline rest else text
  | none => text

/-- A name with its value; a name that stands alone has none. -/
abbrev Binding := Text × Option Text

/-- A line that has been read, and the text after it. -/
structure Line where
  binding : Option Binding
  rest : Text

/-- Reads a line; the text where the reading stopped if the line has another form. -/
def line? (text : Text) : Except Text Line :=
  let start := withoutExport text
  match name? start with
  | none => .error start
  | some (name, afterName) =>
      match skipInline afterName with
      | '=' :: afterSign =>
          let begun := skipInline afterSign
          match value? begun with
          | none => .error begun
          | some (value, afterValue) =>
              match endOfLine? afterValue with
              | some rest =>
                  .ok ⟨name.map fun name => (name, some value), rest⟩
              | none => .error afterValue
      | afterBlanks =>
          match endOfLine? afterBlanks with
          | some rest => .ok ⟨name.map fun name => (name, none), rest⟩
          | none => .error afterBlanks

/-- The names with their values, line by line. -/
def bindings : Nat → Text → List Binding
  | 0, _ => []
  | fuel + 1, text =>
      match text.dropWhile Text.isBlank with
      | [] => []
      | begun =>
          match line? begun with
          | .ok line => line.binding.toList ++ bindings fuel line.rest
          | .error stopped => bindings fuel (afterLine stopped)

/-- The reference that a text begins with: a name, a default, and the text after it. -/
def reference? (text : Text) : Option (Text × Option Text × Text) :=
  match text with
  | '$' :: '\x7b' :: rest =>
      let isPart := fun c => c ≠ '\x7d' && c ≠ ':'
      let name := rest.takeWhile isPart
      match rest.dropWhile isPart with
      | '\x7d' :: later => some (name, none, later)
      | ':' :: '-' :: more =>
          match Text.cut '\x7d' more with
          | (fallback, some later) => some (name, some fallback, later)
          | (_, none) => none
      | _ => none
  | _ => none

/-- A text with its references replaced. -/
def expanded (lookup : Text → Option (Option Text)) : Nat → Text → Text
  | 0, text => text
  | _ + 1, [] => []
  | fuel + 1, c :: rest =>
      match reference? (c :: rest) with
      | some (name, fallback, later) =>
          ((lookup name).getD fallback).getD [] ++ expanded lookup fuel later
      | none => c :: expanded lookup fuel rest

/-- Adds a name with its value, in which references are replaced. -/
def addExpanded
    (environment : List (Text × Text))
    (values : List Binding)
    (binding : Binding) :
    List Binding :=
  let lookup := fun name =>
    (Entries.find? values name).or
      ((Entries.find? environment name).map some)
  let value :=
    binding.2.map fun text => expanded lookup (text.length + 1) text
  Entries.put binding.1 value values

/-- The names of an environment file with their values. -/
def read (environment : List (Text × Text)) (text : Text) : List Binding :=
  (bindings (text.length + 1) text).foldl (addExpanded environment) []

end EnvironmentFile

end ContractTemplates
