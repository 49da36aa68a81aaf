import TokenScan.Text.CharSet

/-!
# What a token may begin with

The first character of a token decides which lexical rule reads it, so every character falls into
one of six classes. The classes are tried in a fixed order; `classify` is that order.

## Main definitions

* `isIdentStart`, `isIdentContinue` — the characters of identifiers
* `CharClass`, `classify` — the six classes
* `CharClass.Fits` — what the name of a class says
-/

namespace TokenScan

open Text

/-- Whether a character may begin an identifier. -/
def isIdentStart (c : Char) : Bool := c == '_' || isLetter c

/-- Whether a character may follow the first one of an identifier. -/
def isIdentContinue (c : Char) : Bool := c == '_' || isLetter c || isDigit c

theorem isIdentContinue_of_isIdentStart {c : Char} (h : isIdentStart c = true) :
    isIdentContinue c = true := by
  simp only [isIdentStart, isIdentContinue] at h ⊢
  simp [h]

/-- The class of a token's first character. -/
inductive CharClass where
  /-- Blank: skipped between tokens. -/
  | whitespace
  /-- A letter or an underscore: begins an identifier or a keyword. -/
  | identStart
  /-- A decimal digit: begins a number. -/
  | digit
  /-- A double quote: begins a string literal. -/
  | quote
  /-- A slash: begins a comment, or is an operator. -/
  | slash
  /-- Any other character: begins an operator. -/
  | other
deriving DecidableEq

/-- The class of a character: the first one, in the order of the constructors, that fits. -/
def classify (c : Char) : CharClass :=
  if isBlank c then .whitespace
  else if isIdentStart c then .identStart
  else if isDigit c then .digit
  else if c = '\"' then .quote
  else if c = '/' then .slash
  else .other

/-- What the name of a class says about a character. -/
def CharClass.Fits : CharClass → Char → Prop
  | .whitespace, c => isBlank c = true
  | .identStart, c => isIdentStart c = true
  | .digit, c => isDigit c = true
  | .quote, c => c = '\"'
  | .slash, c => c = '/'
  | .other, c =>
    isBlank c = false ∧ isIdentStart c = false ∧ isDigit c = false ∧ c ≠ '\"' ∧ c ≠ '/'

theorem fits_classify (c : Char) : (classify c).Fits c := by
  rw [classify]
  split
  · next hblank => exact hblank
  split
  · next hstart => exact hstart
  split
  · next hdigit => exact hdigit
  split
  · next hquote => exact hquote
  split
  · next hslash => exact hslash
  · next hblank hstart hdigit hquote hslash =>
    rw [Bool.not_eq_true] at hblank hstart hdigit
    exact ⟨hblank, hstart, hdigit, hquote, hslash⟩

theorem classify_eq_whitespace_iff {c : Char} : classify c = .whitespace ↔ isBlank c = true := by
  constructor
  · intro h
    have hfits := fits_classify c
    rwa [h] at hfits
  · intro h
    rw [classify, if_pos h]

end TokenScan
