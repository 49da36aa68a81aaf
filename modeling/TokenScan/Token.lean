import TokenScan.Json
import TokenScan.Text.Printed

/-!
# Tokens

A token is a piece of source text with its kind and the place where it begins. Its lexeme is the
text that matters: the quotes of a string literal and the marks of a comment are left out.

Every kind that a token can have is listed, though the scanner produces only six of them: it never
makes a `separator`, a `whitespace` or an `unknown` token.

## Main definitions

* `Keyword`, `Keyword.ofSpelling?` — the reserved words
* `TokenKind`, `Token` — tokens
* `Token.display`, `Token.toJson` — a token as a line of text, and as a JSON object
-/

namespace TokenScan

/-- A reserved word. -/
inductive Keyword where
  | int
  | float
  | double
  | char
  | if_
  | else_
  | while_
  | for_
  | return_
  | void
  | static
deriving DecidableEq

namespace Keyword

/-- How a keyword is spelled. -/
def spelling : Keyword → String
  | .int => "int"
  | .float => "float"
  | .double => "double"
  | .char => "char"
  | .if_ => "if"
  | .else_ => "else"
  | .while_ => "while"
  | .for_ => "for"
  | .return_ => "return"
  | .void => "void"
  | .static => "static"

/-- Every keyword, in the order of declaration. -/
def all : List Keyword :=
  [.int, .float, .double, .char, .if_, .else_, .while_, .for_, .return_, .void, .static]

/-- The keyword with exactly this spelling. -/
def ofSpelling? (word : String) : Option Keyword := all.find? fun k => k.spelling == word

theorem mem_all (k : Keyword) : k ∈ all := by
  cases k <;> decide

theorem eq_of_spelling_eq {j k : Keyword} (h : j.spelling = k.spelling) : j = k := by
  have hall : ∀ j ∈ all, ∀ k ∈ all, j.spelling = k.spelling → j = k := by decide
  exact hall j j.mem_all k k.mem_all h

theorem spelling_of_ofSpelling? {word : String} {k : Keyword} (h : ofSpelling? word = some k) :
    k.spelling = word := by
  rw [ofSpelling?] at h
  simpa using List.find?_some h

theorem ofSpelling?_eq_some_iff {word : String} {k : Keyword} :
    ofSpelling? word = some k ↔ k.spelling = word := by
  constructor
  · exact spelling_of_ofSpelling?
  · rintro rfl
    cases hfind : ofSpelling? k.spelling with
    | none => exact absurd (beq_self_eq_true _) (List.find?_eq_none.mp hfind k k.mem_all)
    | some j => rw [eq_of_spelling_eq (spelling_of_ofSpelling? hfind)]

/-- **The reserved words.** There are eleven of them, and each is read as its own keyword. -/
theorem ofSpelling?_eq_some_iff_mem {word : String} {k : Keyword} :
    ofSpelling? word = some k ↔ (word, k) ∈
      [("int", .int), ("float", .float), ("double", .double), ("char", .char), ("if", .if_),
        ("else", .else_), ("while", .while_), ("for", .for_), ("return", .return_),
        ("void", .void), ("static", .static)] := by
  have htable : (word, k) ∈ all.map (fun j => (j.spelling, j)) ↔ k.spelling = word := by
    simp [mem_all]
  rw [ofSpelling?_eq_some_iff, ← htable]
  rfl

end Keyword

/-- The kind of a token. -/
inductive TokenKind where
  /-- A reserved word. -/
  | keyword
  /-- A name. -/
  | identifier
  /-- A numeric literal. -/
  | number
  /-- An operator or a punctuation mark. -/
  | operator
  /-- A separator. -/
  | separator
  /-- A string literal. -/
  | stringLiteral
  /-- A comment. -/
  | comment
  /-- Blank space. -/
  | whitespace
  /-- Text that fits no rule. -/
  | unknown
deriving DecidableEq

namespace TokenKind

/-- The name of a kind in reports. -/
def name : TokenKind → String
  | .keyword => "KEYWORD"
  | .identifier => "IDENTIFIER"
  | .number => "NUMBER"
  | .operator => "OPERATOR"
  | .separator => "SEPARATOR"
  | .stringLiteral => "STRING_LITERAL"
  | .comment => "COMMENT"
  | .whitespace => "WHITESPACE"
  | .unknown => "UNKNOWN"

/-- Every kind, in the order of declaration. -/
def all : List TokenKind :=
  [.keyword, .identifier, .number, .operator, .separator, .stringLiteral, .comment, .whitespace,
    .unknown]

end TokenKind

/-- A piece of source text. -/
structure Token where
  /-- What it is. -/
  kind : TokenKind
  /-- Its text, without the delimiters of strings and comments. -/
  lexeme : String
  /-- The line where it begins. -/
  line : UInt32
  /-- The column where it begins. -/
  column : UInt32
deriving DecidableEq

namespace Token

/-- The keyword that a token is. -/
def keyword? (t : Token) : Option Keyword :=
  if t.kind = .keyword then Keyword.ofSpelling? t.lexeme else none

/-- A token as one line of text: its kind, its lexeme with everything invisible escaped, and where
it begins. -/
def display (t : Token) : String :=
  t.kind.name ++ " '" ++ String.ofList (Text.escape t.lexeme.toList) ++ "' at " ++
    Text.decimal t.line.toNat ++ ":" ++ Text.decimal t.column.toNat

/-- A token as a JSON object. -/
def toJson (t : Token) : Json :=
  .object [
    ("kind", .string t.kind.name),
    ("lexeme", .string t.lexeme),
    ("line", .number t.line.toNat),
    ("column", .number t.column.toNat)]

end Token

end TokenScan
