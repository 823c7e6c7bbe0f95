import ContractTemplates.Host.Shell.Command

namespace ContractTemplates.Host.Shell

/-!
# Tokens of scripts

A script is divided into words, operators and line ends. Blanks part tokens, and
a number sign at the start of a word begins a comment. Between single quotes
every character is literal; between double quotes parameters and backslashes
keep a meaning.

The depth of recursion is bounded by the length of the script.
-/

/-- What a token is. -/
inductive TokenKind where
  /-- A word; one that was written without quotes may be a keyword. -/
  | word (pieces : Word) (bare : Bool)
  | operator (sign : Text)
  /-- A sign that sends a stream elsewhere, with the number of the stream. -/
  | redirection (descriptor : Option Nat) (sign : Text)
  | lineEnd
  deriving DecidableEq, Repr

/-- A token with the number of its line. -/
structure Token where
  kind : TokenKind
  line : Nat
  deriving DecidableEq, Repr

/-- The signs of operators, longer ones first. -/
def operatorSigns : List Text :=
  ["&&", "||", ";;", ";", "&", "|", "(", ")"].map String.toList

/-- The signs that send a stream elsewhere, longer ones first. -/
def redirectionSigns : List Text :=
  [">>", ">&", "<&", ">|", ">", "<"].map String.toList

/-- The first of several signs that a text begins with, and the text after it. -/
def signOf? (signs : List Text) (text : Text) : Option (Text × Text) :=
  signs.findSome? fun sign =>
    (Text.after? sign text).map fun rest => (sign, rest)

/-- Whether a character ends a word. -/
def endsWord (c : Char) : Bool :=
  c = ' ' || c = '\t' || c = '\n' || ";&|()<>".toList.contains c

/-- Whether a character alone is the name of a parameter. -/
def isSpecialParameter (c : Char) : Bool :=
  c.isDigit || "@*#?$!-".toList.contains c

/-- The text up to the closing parenthesis, and the text after it. -/
def untilParenthesis : Nat → Text → Option (Text × Text)
  | _, [] => none
  | depth, c :: rest =>
      if c = ')' ∧ depth = 0 then
        some ([], rest)
      else
        let next :=
          if c = '(' then depth + 1 else if c = ')' then depth - 1 else depth
        (untilParenthesis next rest).map fun (inside, later) =>
          (c :: inside, later)

/-- The piece that a text after a dollar sign begins with. -/
def dollarPiece (quoted : Bool) (text : Text) :
    Except ScriptFault (Piece × Text) :=
  match text with
  | '(' :: '(' :: rest =>
      match untilParenthesis 0 rest with
      | some (expression, ')' :: later) => .ok (.sum expression quoted, later)
      | _ => .error .endsEarly
  | '(' :: rest =>
      match untilParenthesis 0 rest with
      | some (script, later) => .ok (.output script quoted, later)
      | none => .error .endsEarly
  | '{' :: rest =>
      match Text.cut '}' rest with
      | (name, some later) =>
          if name ≠ [] ∧ (name.all Text.isWordCharacter ∨
              (name.length = 1 ∧ name.all isSpecialParameter)) then
            .ok (.parameter name quoted, later)
          else
            .error .badParameter
      | (_, none) => .error .endsEarly
  | c :: rest =>
      if isSpecialParameter c then
        .ok (.parameter [c] quoted, rest)
      else if Text.isWordCharacter c then
        .ok
          (.parameter (text.takeWhile Text.isWordCharacter) quoted,
            text.dropWhile Text.isWordCharacter)
      else
        .ok (.literal ['$'], text)
  | [] => .ok (.literal ['$'], [])

/-- Puts a piece before others; literal pieces are joined. -/
def consPiece (piece : Piece) (pieces : Word) : Word :=
  match piece, pieces with
  | .literal first, .literal second :: rest => .literal (first ++ second) :: rest
  | _, _ => piece :: pieces

/-- The pieces up to the closing double quote, and the text after it. -/
def doubleQuoted : Nat → Text → Except ScriptFault (Word × Text)
  | 0, _ => .error .openQuote
  | _, [] => .error .openQuote
  | _, '"' :: rest => .ok ([], rest)
  | fuel + 1, '$' :: rest => do
      let (piece, later) ← dollarPiece true rest
      let (pieces, remainder) ← doubleQuoted fuel later
      .ok (consPiece piece pieces, remainder)
  | fuel + 1, '`' :: rest =>
      match Text.cut '`' rest with
      | (script, some later) => do
          let (pieces, remainder) ← doubleQuoted fuel later
          .ok (.output script true :: pieces, remainder)
      | (_, none) => .error .openQuote
  | fuel + 1, '\\' :: c :: rest => do
      let (pieces, remainder) ← doubleQuoted fuel rest
      let text :=
        if c = '\n' then
          []
        else if "$`\"\\".toList.contains c then
          [c]
        else
          ['\\', c]
      .ok (consPiece (.literal text) pieces, remainder)
  | fuel + 1, c :: rest => do
      let (pieces, remainder) ← doubleQuoted fuel rest
      .ok (consPiece (.literal [c]) pieces, remainder)

/-- The pieces of a word, whether it is bare, and the text after it. -/
def wordPieces : Nat → Text → Except ScriptFault (Word × Bool × Text)
  | 0, text => .ok ([], true, text)
  | _, [] => .ok ([], true, [])
  | fuel + 1, c :: rest =>
      if endsWord c then
        .ok ([], true, c :: rest)
      else if c = '\'' then
        match Text.cut '\'' rest with
        | (inside, some later) => do
            let (pieces, _, remainder) ← wordPieces fuel later
            .ok (consPiece (.literal inside) pieces, false, remainder)
        | (_, none) => .error .openQuote
      else if c = '"' then do
        let (inside, later) ← doubleQuoted rest.length.succ rest
        let (pieces, _, remainder) ← wordPieces fuel later
        let quoted := if inside = [] then [.literal []] else inside
        .ok (quoted.foldr consPiece pieces, false, remainder)
      else if c = '$' then do
        let (piece, later) ← dollarPiece false rest
        let (pieces, bare, remainder) ← wordPieces fuel later
        .ok (consPiece piece pieces, bare, remainder)
      else if c = '`' then
        match Text.cut '`' rest with
        | (script, some later) => do
            let (pieces, bare, remainder) ← wordPieces fuel later
            .ok (.output script false :: pieces, bare, remainder)
        | (_, none) => .error .openQuote
      else if c = '\\' then
        match rest with
        | [] => .ok ([.literal ['\\']], false, [])
        | d :: later => do
            let (pieces, bare, remainder) ← wordPieces fuel later
            if d = '\n' then
              .ok (pieces, bare, remainder)
            else
              .ok (consPiece (.literal [d]) pieces, false, remainder)
      else do
        let (pieces, bare, remainder) ← wordPieces fuel rest
        .ok (consPiece (.literal [c]) pieces, bare, remainder)

/-- The number of a stream that stands directly before a sign. -/
def streamNumber? (text : Text) : Option (Nat × Text) :=
  match text with
  | c :: rest =>
      if c.isDigit ∧ (rest.head? = some '<' ∨ rest.head? = some '>') then
        some (c.toNat - '0'.toNat, rest)
      else
        none
  | [] => none

/-- The tokens of a script from a line on. -/
def tokensFrom : Nat → Nat → Text → Except ScriptFault (List Token)
  | 0, _, _ => .ok []
  | _, _, [] => .ok []
  | fuel + 1, number, c :: rest =>
      if c = ' ' ∨ c = '\t' then
        tokensFrom fuel number rest
      else if c = '\n' then do
        let later ← tokensFrom fuel (number + 1) rest
        .ok (⟨.lineEnd, number⟩ :: later)
      else if c = '#' then
        tokensFrom fuel number (rest.dropWhile (· ≠ '\n'))
      else
        let (descriptor, text) :=
          match streamNumber? (c :: rest) with
          | some (descriptor, text) => (some descriptor, text)
          | none => (none, c :: rest)
        match signOf? redirectionSigns text, signOf? operatorSigns text with
        | some (sign, remainder), _ => do
            let later ← tokensFrom fuel number remainder
            .ok (⟨.redirection descriptor sign, number⟩ :: later)
        | none, some (sign, remainder) => do
            let later ← tokensFrom fuel number remainder
            .ok (⟨.operator sign, number⟩ :: later)
        | none, none => do
            let (pieces, bare, remainder) ←
              wordPieces (text.length + 1) text
            let lines := (text.take (text.length - remainder.length)).count '\n'
            let later ← tokensFrom fuel (number + lines) remainder
            .ok (⟨.word pieces bare, number⟩ :: later)

/-- The tokens of a script. -/
def tokens (script : Text) : Except ScriptFault (List Token) :=
  tokensFrom (script.length + 1) 1 script

end ContractTemplates.Host.Shell
