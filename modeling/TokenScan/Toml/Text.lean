import TokenScan.Toml.Reader

/-!
# Strings, keys and blanks

The parts of a configuration file below its values: what stands between them, the four kinds of
strings, and the keys in front of them.

A string is basic, in double quotes with escapes, or literal, in single quotes without any. Either
kind has a form with three quotes that may run over several lines. In that form a line break is
always read as one line feed, the one directly behind the opening quotes is not part of the
string, and one or two quotes in a row stand for themselves.

## Main definitions

* `blank`, `gap`, `lineEnd` — what may stand between two things
* `string` — a string of any kind
* `key` — a dotted key
-/

namespace TokenScan.Toml

/-! ### Between two things -/

/-- Reads spaces and tabs. -/
def blank : Reader Unit := do
  let _ ← run fun c => c == ' ' || c == '\t'

/-- Reads a line break. -/
def lineBreak : Reader Unit := word "\n" <|> word "\r\n"

/-- The characters that may stand in a comment, or anywhere else that allows all of a line. -/
def isVisible (c : Char) : Bool := c == '\t' || (' ' ≤ c && c ≤ '~') || '\x80' ≤ c

/-- Reads a comment up to the end of its line. -/
def comment : Reader Unit := do
  mark '#'
  let _ ← run isVisible

/-- Reads what may stand between a value and the end of its line, and the end of the line. -/
def lineEnd : Reader Unit := do
  blank
  let _ ← maybe comment
  lineBreak <|> atEnd

/-- Reads blanks, line breaks and comments. -/
def gap : Reader Unit := do
  let _ ← many (blank *> (lineBreak <|> comment *> (lineBreak <|> atEnd)))
  blank

/-! ### Escapes -/

/-- The value of a hexadecimal digit. -/
def hexValue? (c : Char) : Option Nat :=
  if c.isDigit then some (c.toNat - '0'.toNat)
  else if 'a' ≤ c && c ≤ 'f' then some (c.toNat - 'a'.toNat + 10)
  else if 'A' ≤ c && c ≤ 'F' then some (c.toNat - 'A'.toNat + 10)
  else none

/-- The value of digits in a base, the most significant one first. -/
def positional (base : Nat) (digits : List Nat) : Nat :=
  digits.foldl (fun value digit => base * value + digit) 0

/-- Reads one digit of a base. -/
def digit (base : Nat) : Reader Nat
  | [] => none
  | c :: rest =>
    match hexValue? c with
    | some value => if value < base then some (value, rest) else none
    | none => none

/-- Reads a character by a code point of so many hexadecimal digits. -/
def codePoint (digits : Nat) : Reader Char := do
  let value := positional 16 (← exactly (digit 16) digits)
  if valid : value.isValidChar then return Char.ofNatAux value valid else failure

/-- Reads the part of an escape behind the backslash. -/
def escape : Reader Char := do
  match ← oneOf fun _ => true with
  | 'b' => return '\x08'
  | 't' => return '\t'
  | 'n' => return '\n'
  | 'f' => return '\x0c'
  | 'r' => return '\r'
  | '\"' => return '\"'
  | '\\' => return '\\'
  | 'u' => codePoint 4
  | 'U' => codePoint 8
  | _ => failure

/-! ### Strings -/

/-- The characters that stand for themselves in a basic string. -/
def isBasic (c : Char) : Bool := isVisible c && c != '\"' && c != '\\'

/-- The characters that stand for themselves in a literal string. -/
def isLiteral (c : Char) : Bool := isVisible c && c != '\''

/-- Reads an escaped character. -/
def escaped : Reader (List Char) := do
  mark '\\'
  return [← escape]

/-- Reads a line break inside a string. -/
def brokenLine : Reader (List Char) := do
  lineBreak
  return ['\n']

/-- Reads a backslash at the end of a line, and all blanks and line breaks behind it. -/
def joinedLine : Reader (List Char) := do
  mark '\\'
  blank
  lineBreak
  let _ ← many (blank *> lineBreak)
  blank
  return []

/-- Reads one or two quotes that do not end a string. -/
def innerQuotes (quote : Char) : Reader (List Char) := do
  let quotes ← run1 (· == quote)
  guard (quotes.length < 3)
  return quotes

/-- Reads a string on one line, made of pieces between quotes. -/
def onOneLine (quote : Char) (piece : Reader (List Char)) : Reader (List Char) := do
  mark quote
  let pieces ← many piece
  mark quote
  return pieces.flatten

/-- Reads a string on several lines, made of pieces between three quotes. Up to two more quotes
before the closing ones belong to the string. -/
def onManyLines (quote : Char) (piece : Reader (List Char)) : Reader (List Char) := do
  let _ ← exactly (mark quote) 3
  let _ ← maybe lineBreak
  let pieces ← many (piece <|> brokenLine <|> innerQuotes quote)
  let quotes ← run (· == quote)
  guard (3 ≤ quotes.length ∧ quotes.length ≤ 5)
  return pieces.flatten ++ quotes.drop 3

/-- Reads a basic string. -/
def basicString : Reader (List Char) := onOneLine '\"' (run1 isBasic <|> escaped)

/-- Reads a literal string. -/
def literalString : Reader (List Char) := onOneLine '\'' (run1 isLiteral)

/-- Reads a string of any kind. -/
def string : Reader (List Char) :=
  onManyLines '\"' (run1 isBasic <|> escaped <|> joinedLine) <|> basicString <|>
    onManyLines '\'' (run1 isLiteral) <|> literalString

/-! ### Keys -/

/-- The characters of a key without quotes. -/
def isBare (c : Char) : Bool := c.isAlphanum || c == '_' || c == '-'

/-- Reads one part of a key. -/
def keyPart : Reader String := do
  blank
  let part ← run1 isBare <|> basicString <|> literalString
  blank
  return String.ofList part

/-- The number of parts, or of values inside each other, that is too many. -/
def depthLimit : Nat := 80

/-- Reads a key: parts with dots between them. -/
def key : Reader (List String) := do
  let parts ← separated (mark '.') keyPart
  guard (parts.length < depthLimit)
  return parts

end TokenScan.Toml
