import TokenScan.Text.Printed

/-!
# Diagnostic codes

Every kind of report has a code, by which it can be looked up and suppressed: a category, `E` for
errors and `W` for warnings, and a number that is written with at least four digits.

People type codes, so reading is more liberal than writing. Either case of the category is
accepted, and one to four digits: `w3` and `W0003` are the same code.

## Main definitions

* `DiagnosticCode.text` — a code as it is printed
* `DiagnosticCode.parse` — a code as people may type it
-/

namespace TokenScan

/-- The code of a kind of report. -/
structure DiagnosticCode where
  /-- The category, in upper case. -/
  category : String
  /-- The number within the category. -/
  number : Nat
deriving DecidableEq

/-- Why a text is not a code. -/
inductive CodeError where
  /-- It does not have the form of a code. -/
  | invalid (spelling : String)
deriving DecidableEq

/-- The text of an error. -/
def CodeError.message : CodeError → String
  | .invalid spelling => "Invalid diagnostic code: " ++ spelling

namespace DiagnosticCode

/-- A string literal without a closing quote. -/
def unterminatedString : DiagnosticCode := ⟨"W", 1001⟩

/-- A block comment without an end. -/
def unterminatedComment : DiagnosticCode := ⟨"W", 1002⟩

/-- A number that ends at a second decimal point. -/
def splitNumber : DiagnosticCode := ⟨"W", 1003⟩

/-- The codes of the reports that the scanner makes. -/
def scannerCodes : List DiagnosticCode := [unterminatedString, unterminatedComment, splitNumber]

/-- A code as it is printed: the category and at least four digits. -/
def text (code : DiagnosticCode) : String :=
  code.category ++ Text.padLeft 4 '0' (Text.decimal code.number)

/-- A code as it is shown to programmers. -/
def debugText (code : DiagnosticCode) : String := "DiagnosticCode(" ++ code.text ++ ")"

/-- The category that a letter names, in either case. -/
def category? (c : Char) : Option String :=
  if c = 'E' ∨ c = 'e' then some "E"
  else if c = 'W' ∨ c = 'w' then some "W"
  else none

/-- The value of a row of ASCII digits. -/
def digitsValue (digits : List Char) : Nat :=
  digits.foldl (fun value c => 10 * value + (c.toNat - '0'.toNat)) 0

/-- The code that a text spells: a category letter, then one to four digits, then nothing. -/
def parse (spelling : String) : Except CodeError DiagnosticCode :=
  match spelling.toList with
  | [] => .error (.invalid spelling)
  | letter :: digits =>
    match category? letter with
    | none => .error (.invalid spelling)
    | some category =>
      if digits ≠ [] ∧ digits.length ≤ 4 ∧ digits.all Char.isDigit then
        .ok ⟨category, digitsValue digits⟩
      else .error (.invalid spelling)

end DiagnosticCode

end TokenScan
