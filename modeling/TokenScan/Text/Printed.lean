import TokenScan.Text.Invisible

/-!
# Printed text

What reports are made of: numerals, padding, and arbitrary text on one line.

Numbers are printed in decimal without leading zeros, or hexadecimal in lower case, and either is
filled up on the left to a least width. Text is written so that it fits between single quotes on one
line and every character of it can be seen. A character is written as itself where that is
unambiguous, as a backslash and a letter or mark where such a form exists, and otherwise by its code
point, as in `\u\x7b1f\x7d`.

A mark that extends the character before it is written by its code point only when it comes first:
anywhere else it has a character to attach to.

## Main definitions

* `decimal`, `hexadecimal`, `padLeft`, `run` — numerals and padding
* `Form`, `Form.ofChar` — the three ways to write a character, and which of them it takes
* `escape` — a whole text
-/

namespace TokenScan.Text

/-! ### Numerals and padding -/

/-- The decimal numeral of a number, without leading zeros. -/
def decimal (n : Nat) : String := String.ofList (Nat.toDigits 10 n)

/-- The hexadecimal numeral of a number, in lower case and without leading zeros. -/
def hexadecimal (n : Nat) : String := String.ofList (Nat.toDigits 16 n)

/-- The text, with as many fill characters before it as it lacks to the width. -/
def padLeft (width : Nat) (fill : Char) (text : String) : String :=
  String.ofList (List.replicate (width - text.length) fill) ++ text

/-- `n` copies of a character. -/
def run (n : Nat) (c : Char) : String := String.ofList (List.replicate n c)

@[simp] theorem toList_decimal (n : Nat) : (decimal n).toList = Nat.toDigits 10 n := by
  simp [decimal]

@[simp] theorem toList_padLeft (width : Nat) (fill : Char) (text : String) :
    (padLeft width fill text).toList =
      List.replicate (width - text.length) fill ++ text.toList := by
  simp [padLeft]

@[simp] theorem toList_run (n : Nat) (c : Char) : (run n c).toList = List.replicate n c := by
  simp [run]

/-! ### Text on one line -/

/-- A way to write one character. -/
inductive Form where
  /-- The character itself. -/
  | plain (c : Char)
  /-- A backslash and one character. -/
  | short (mark : Char)
  /-- A backslash, `u`, and the code point in hexadecimal between braces. -/
  | codePoint (value : Nat)

/-- The text of a form. -/
def Form.text : Form → List Char
  | .plain c => [c]
  | .short mark => ['\\', mark]
  | .codePoint value => "\\u\x7b".toList ++ (hexadecimal value).toList ++ "\x7d".toList

/-- The mark that stands for a character after a backslash, for those that have one. -/
def shortMark? (c : Char) : Option Char :=
  if c = '\x00' then some '0'
  else if c = '\t' then some 't'
  else if c = '\r' then some 'r'
  else if c = '\n' then some 'n'
  else if c = '\'' then some '\''
  else if c = '\"' then some '\"'
  else if c = '\\' then some '\\'
  else none

/-- How a character is written: `first` says that it begins the text. -/
def Form.ofChar (first : Bool) (c : Char) : Form :=
  match shortMark? c with
  | some mark => .short mark
  | none =>
    if unprintableRanges.contains c || (first && extendingRanges.contains c) then
      .codePoint c.toNat
    else .plain c

/-- A text written on one line. -/
def escape : List Char → List Char
  | [] => []
  | c :: rest => (Form.ofChar true c).text ++ rest.flatMap fun d => (Form.ofChar false d).text

end TokenScan.Text
