import TokenScan.Text.Printed

/-!
# JSON documents

A value type for the documents that reports are made of, and its compact text: no blanks, the
members of an object in the order given, numbers in decimal.

Strings are written in double quotes. The quote, the backslash and the characters below U+0020 are
written after a backslash; every other character, U+007F and the slash included, is written as
itself. So a document never contains a line feed.

## Main definitions

* `Json` — null, natural numbers, strings, arrays, objects
* `Json.text` — the compact text of a value
-/

namespace TokenScan

/-- A JSON value. -/
inductive Json where
  /-- The literal `null`. -/
  | null
  /-- A natural number. -/
  | number (value : Nat)
  /-- A string. -/
  | string (value : String)
  /-- A list of values. -/
  | array (items : List Json)
  /-- Named values, in a fixed order. -/
  | object (members : List (String × Json))

namespace Json

/-- The two-character escape of a control character, for those that have one. -/
def shortEscape? (c : Char) : Option Char :=
  if c = '\"' then some '\"'
  else if c = '\\' then some '\\'
  else if c = '\x08' then some 'b'
  else if c = '\x0c' then some 'f'
  else if c = '\n' then some 'n'
  else if c = '\r' then some 'r'
  else if c = '\t' then some 't'
  else none

/-- One character inside a string. -/
def escapeChar (c : Char) : List Char :=
  match shortEscape? c with
  | some mark => ['\\', mark]
  | none =>
    if c.toNat < 0x20 then
      '\\' :: 'u' :: (Text.padLeft 4 '0' (Text.hexadecimal c.toNat)).toList
    else [c]

/-- A string in double quotes. -/
def quote (value : String) : String :=
  "\"" ++ String.ofList (value.toList.flatMap escapeChar) ++ "\""

mutual

/-- The compact text of a value. -/
def text : Json → String
  | .null => "null"
  | .number value => Text.decimal value
  | .string value => quote value
  | .array items => "[" ++ ",".intercalate (itemTexts items) ++ "]"
  | .object members => "\x7b" ++ ",".intercalate (memberTexts members) ++ "\x7d"

/-- The texts of the items of an array. -/
def itemTexts : List Json → List String
  | [] => []
  | item :: items => text item :: itemTexts items

/-- The texts of the members of an object: name, colon, value. -/
def memberTexts : List (String × Json) → List String
  | [] => []
  | (name, value) :: members => (quote name ++ ":" ++ text value) :: memberTexts members

end

end Json

end TokenScan
