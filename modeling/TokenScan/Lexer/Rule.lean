import TokenScan.CharClass
import TokenScan.Diagnostic
import TokenScan.Token

/-!
# Lexical rules

How the next piece of a text is cut off, as a function of the characters to come and of nothing
else: where the text stands in its file, and what was scanned before, plays no part.

There are six rules. Each looks at the front of a text and answers with a `Piece`: the raw
characters that it takes, the lexeme that it makes of them, and the warning it has to give. The
first character, or for comments the first two, decides which rule applies; `Rule.ofText?` says
which. A rule may also be asked to read a text that it does not apply to. It then takes what its
definition says, and still never more than there is.

Malformed text is cut like any other. Three things in it are worth a warning, and each has a code of
its own and a fixed message.

## Main definitions

* `Warning`, `Warning.report` — what is malformed, and the report about it
* `Piece` — a piece of text as a rule cuts it off
* `Rule.read` — the six rules
* `Rule.ofText?` — the rule that applies to a text

## Main results

* `Rule.raw_read_isPrefix` — a rule takes the front of the text
* `Rule.raw_read_ne_nil` — the rule that applies takes at least one character
-/

namespace TokenScan

open Text

/-- Something malformed that the scanner noticed. -/
inductive Warning where
  /-- A string literal reaches the end of the text without a closing quote. -/
  | unterminatedString
  /-- A block comment reaches the end of the text without its closing mark. -/
  | unterminatedComment
  /-- A number with a decimal point ends in front of another one. -/
  | splitNumber
deriving DecidableEq

namespace Warning

/-- The code of a warning. -/
def code : Warning → DiagnosticCode
  | .unterminatedString => .unterminatedString
  | .unterminatedComment => .unterminatedComment
  | .splitNumber => .splitNumber

/-- The message of a warning. -/
def message : Warning → String
  | .unterminatedString => "unterminated string literal"
  | .unterminatedComment => "unterminated block comment"
  | .splitNumber => "numeric literal contains more than one decimal point"

/-- The warning as a report about a span. -/
def report (w : Warning) (span : Span) : Diagnostic := .warning w.message (some w.code) span

end Warning

/-- A piece of text, as a rule cuts it off. -/
structure Piece where
  /-- The kind of the token it becomes. -/
  kind : TokenKind
  /-- The characters that it takes from the text. -/
  raw : List Char
  /-- The lexeme of the token. -/
  lexeme : List Char
  /-- What is malformed about it. -/
  warning? : Option Warning
deriving DecidableEq

namespace Piece

/-- The longest run of identifier characters: a keyword if it spells one, else an identifier. -/
def identifier (text : List Char) : Piece :=
  let word := text.takeWhile isIdentContinue
  { kind := if (Keyword.ofSpelling? (String.ofList word)).isSome then .keyword else .identifier
    raw := word
    lexeme := word
    warning? := none }

/-- Digits with at most one decimal point among or around them. A second point is left for the
next token, with a warning. -/
def number (text : List Char) : Piece :=
  let whole := text.takeWhile isDigit
  match text.dropWhile isDigit with
  | '.' :: rest =>
    let digits := whole ++ '.' :: rest.takeWhile isDigit
    { kind := .number
      raw := digits
      lexeme := digits
      warning? := if (rest.dropWhile isDigit).head? = some '.' then some .splitNumber else none }
  | _ => { kind := .number, raw := whole, lexeme := whole, warning? := none }

/-- A string literal: one character for the opening quote, then everything before the next quote,
and that quote. Backslashes have no meaning, and line feeds are allowed. -/
def stringLiteral (text : List Char) : Piece :=
  let inner := text.drop 1
  let body := inner.takeWhile (· != '\"')
  match inner.dropWhile (· != '\"') with
  | [] =>
    { kind := .stringLiteral
      raw := text
      lexeme := body
      warning? := some .unterminatedString }
  | _ :: _ =>
    { kind := .stringLiteral
      raw := text.take (body.length + 2)
      lexeme := body
      warning? := none }

/-- A line comment: two characters for its mark, then everything before the next line feed. -/
def lineComment (text : List Char) : Piece :=
  let body := (text.drop 2).takeWhile (· != '\n')
  { kind := .comment
    raw := text.take (body.length + 2)
    lexeme := body
    warning? := none }

/-- The characters before the first closing mark of a block comment, and whether there is one;
`seen` holds the characters already passed, nearest first. -/
def splitAtClose (seen : List Char) : List Char → List Char × Bool
  | [] => (seen.reverse, false)
  | '*' :: '/' :: _ => (seen.reverse, true)
  | c :: rest => splitAtClose (c :: seen) rest

/-- A block comment: two characters for its mark, then everything up to and including the next
closing mark. Block comments do not nest. -/
def blockComment (text : List Char) : Piece :=
  let (body, closed) := splitAtClose [] (text.drop 2)
  if closed then
    { kind := .comment
      raw := text.take (body.length + 4)
      lexeme := body
      warning? := none }
  else
    { kind := .comment
      raw := text
      lexeme := body
      warning? := some .unterminatedComment }

/-- Whether a character forms a two-character operator with an equals sign behind it. -/
def isComparisonHead (c : Char) : Bool := c == '=' || c == '!' || c == '<' || c == '>'

/-- An operator: one character, or a comparison of two. -/
def operator (text : List Char) : Piece :=
  let raw :=
    match text with
    | c :: '=' :: _ => if isComparisonHead c then [c, '='] else [c]
    | c :: _ => [c]
    | [] => []
  { kind := .operator, raw := raw, lexeme := raw, warning? := none }

section

variable {c : Char} (rest : List Char)

theorem raw_identifier_ne_nil (h : isIdentContinue c = true) :
    (identifier (c :: rest)).raw ≠ [] := by
  simp [identifier, h]

theorem raw_number_ne_nil (h : isDigit c = true) : (number (c :: rest)).raw ≠ [] := by
  rw [number]
  split <;> simp [h]

theorem raw_stringLiteral_ne_nil : (stringLiteral (c :: rest)).raw ≠ [] := by
  rw [stringLiteral]
  split <;> simp

theorem raw_lineComment_ne_nil : (lineComment (c :: rest)).raw ≠ [] := by
  simp [lineComment]

theorem raw_blockComment_ne_nil : (blockComment (c :: rest)).raw ≠ [] := by
  simp only [blockComment]
  split <;> simp

theorem raw_operator_ne_nil : (operator (c :: rest)).raw ≠ [] := by
  simp only [operator]
  split
  · split <;> simp
  · simp
  · next hnil => cases hnil

end

end Piece

/-- A lexical rule. -/
inductive Rule where
  /-- Identifiers and keywords. -/
  | identifier
  /-- Numeric literals. -/
  | number
  /-- String literals. -/
  | stringLiteral
  /-- Comments up to the end of the line. -/
  | lineComment
  /-- Comments between two marks. -/
  | blockComment
  /-- Operators and punctuation. -/
  | operator
deriving DecidableEq

namespace Rule

/-- The piece that a rule cuts off a text. -/
def read : Rule → List Char → Piece
  | .identifier => Piece.identifier
  | .number => Piece.number
  | .stringLiteral => Piece.stringLiteral
  | .lineComment => Piece.lineComment
  | .blockComment => Piece.blockComment
  | .operator => Piece.operator

/-- The rule that applies to a text, or `none` if the text is empty or begins with a blank. -/
def ofText? : List Char → Option Rule
  | [] => none
  | c :: rest =>
    match classify c with
    | .whitespace => none
    | .identStart => some .identifier
    | .digit => some .number
    | .quote => some .stringLiteral
    | .slash =>
      match rest with
      | '/' :: _ => some .lineComment
      | '*' :: _ => some .blockComment
      | _ => some .operator
    | .other => some .operator

/-! ### What a rule takes -/

/-- A rule takes the front of the text. -/
theorem raw_read_isPrefix (rule : Rule) (text : List Char) : (rule.read text).raw <+: text := by
  cases rule with
  | identifier => exact List.takeWhile_prefix _
  | number =>
    simp only [read, Piece.number]
    split
    · rename_i rest h
      refine ⟨rest.dropWhile isDigit, ?_⟩
      rw [List.append_assoc, List.cons_append, List.takeWhile_append_dropWhile, ← h,
        List.takeWhile_append_dropWhile]
    · exact List.takeWhile_prefix _
  | stringLiteral =>
    simp only [read, Piece.stringLiteral]
    split
    · exact List.prefix_refl _
    · exact List.take_prefix _ _
  | lineComment => exact List.take_prefix _ _
  | blockComment =>
    simp only [read, Piece.blockComment]
    split
    · exact List.take_prefix _ _
    · exact List.prefix_refl _
  | operator =>
    simp only [read, Piece.operator]
    split
    · split
      · exact ⟨_, rfl⟩
      · exact ⟨_, rfl⟩
    · exact ⟨_, rfl⟩
    · exact List.prefix_refl _

/-- The rule that applies to a text takes at least one character of it. -/
theorem raw_read_ne_nil {rule : Rule} {text : List Char} (h : ofText? text = some rule) :
    (rule.read text).raw ≠ [] := by
  cases text with
  | nil => cases h
  | cons c rest =>
    have hfits := fits_classify c
    simp only [ofText?] at h
    split at h
    · cases h
    · next hclass =>
      rw [hclass] at hfits
      cases h
      exact Piece.raw_identifier_ne_nil rest (isIdentContinue_of_isIdentStart hfits)
    · next hclass =>
      rw [hclass] at hfits
      cases h
      exact Piece.raw_number_ne_nil rest hfits
    · cases h
      exact Piece.raw_stringLiteral_ne_nil rest
    · split at h
      · cases h
        exact Piece.raw_lineComment_ne_nil _
      · cases h
        exact Piece.raw_blockComment_ne_nil _
      · cases h
        exact Piece.raw_operator_ne_nil rest
    · cases h
      exact Piece.raw_operator_ne_nil rest

end Rule

end TokenScan
