import TokenScan.Diagnostic.Code
import Mathlib.Data.Nat.Digits.Lemmas

/-!
# How codes are spelled

People type codes, and a code has many spellings: either case of the letter will do, and zeros in
front of the number may be left out. One of them is printed. So there are two languages to tell
apart, the texts that are accepted and the texts that are printed, and this module gives both by
their letters and digits: `SpelledBy` and `IsCanonical`. A row of digits is a list of numbers below
ten, and what it is worth is `Nat.ofDigits`.

## Guarding a number reader

A reader that goes by bytes has no numerals of its own. It takes the letter as a character, looks at
the bytes behind it, and has a general number reader read them. That one accepts more than a code
may have, a plus sign and any number of digits, and it may fail, when the number does not fit into a
word. `parseBytes` is that reader. Its guard refuses all that the number reader should not see, so
that the number reader never fails, and what is read is the same.

## Main definitions

* `DiagnosticCode.SpelledBy` — the texts that spell a code
* `DiagnosticCode.IsCanonical` — the form in which codes are printed
* `Text.word?`, `DiagnosticCode.parseBytes` — a number reader, and a reader of codes that guards it

## Main results

* `DiagnosticCode.parse_eq_ok_iff` — what is read is what is spelled
* `DiagnosticCode.parse_text_eq_ok_iff` — which codes can be read back
* `DiagnosticCode.IsCanonical.unique` — a code has one canonical spelling
* `DiagnosticCode.parseBytes_eq` — the guard is tight
-/

namespace TokenScan

/-! ### Rows of digits -/

namespace Text

theorem isDigit_iff_exists_digitChar {c : Char} :
    c.isDigit = true ↔ ∃ d < 10, c = d.digitChar := by
  constructor
  · intro h
    have hrange : 48 ≤ c.toNat ∧ c.toNat ≤ 57 := Char.isDigit_iff_toNat.mp h
    refine ⟨c.toNat - 48, by omega, ?_⟩
    rw [← Char.toNat_inj, Nat.toNat_digitChar_of_lt_ten (by omega)]
    omega
  · rintro ⟨d, hd, rfl⟩
    rw [Nat.isDigit_digitChar, decide_eq_true hd]

/-- Characters are digits if they are those of numbers below ten. -/
theorem all_isDigit_iff {chars : List Char} :
    chars.all Char.isDigit = true ↔
      ∃ digits : List Nat, (∀ d ∈ digits, d < 10) ∧ chars = digits.map Nat.digitChar := by
  induction chars with
  | nil => simp
  | cons c chars ih =>
    rw [List.all_cons, Bool.and_eq_true, ih, isDigit_iff_exists_digitChar]
    constructor
    · rintro ⟨⟨d, hd, rfl⟩, digits, hdigits, rfl⟩
      exact ⟨d :: digits, List.forall_mem_cons.mpr ⟨hd, hdigits⟩, rfl⟩
    · rintro ⟨digits, hdigits, hchars⟩
      obtain ⟨d, rest, rfl, rfl, rfl⟩ := List.map_eq_cons_iff.mp hchars.symm
      obtain ⟨hd, hrest⟩ := List.forall_mem_cons.mp hdigits
      exact ⟨⟨d, hd, rfl⟩, rest, hrest, rfl⟩

/-- Reading digits from the front gives their positional value. -/
theorem ofDigitChars_map_digitChar {digits : List Nat} (h : ∀ d ∈ digits, d < 10) :
    Nat.ofDigitChars 10 (digits.map Nat.digitChar) 0 = Nat.ofDigits 10 digits.reverse := by
  induction digits using List.reverseRecOn with
  | nil => rfl
  | append_singleton digits d ih =>
    have hd : d < 10 := h d (List.mem_append_right _ (List.mem_singleton_self d))
    rw [List.map_append, Nat.ofDigitChars_append,
      ih fun e he => h e (List.mem_append_left _ he), List.reverse_concat, Nat.ofDigits_cons,
      List.map_singleton, Nat.ofDigitChars_cons_digitChar_of_lt_ten hd, Nat.ofDigitChars_nil,
      Nat.add_comm]

theorem ofDigits_reverse_le {digits : List Nat} (hlength : digits.length ≤ 4)
    (h : ∀ d ∈ digits, d < 10) : Nat.ofDigits 10 digits.reverse ≤ 9999 := by
  have hlt : Nat.ofDigits 10 digits.reverse < 10 ^ digits.reverse.length :=
    Nat.ofDigits_lt_base_pow_length (by decide) fun d hd => h d (List.mem_reverse.mp hd)
  rw [List.length_reverse] at hlt
  have hle : 10 ^ digits.length ≤ 10 ^ 4 := Nat.pow_le_pow_right (by decide) hlength
  omega

end Text

namespace DiagnosticCode

/-! ### The spellings of a code -/

/-- The letters of the categories, in either case. -/
def letters : List (Char × String) := [('E', "E"), ('e', "E"), ('W', "W"), ('w', "W")]

/-- A text spells a code: a letter of its category, then one to four digits that are worth its
number, then nothing. -/
def SpelledBy (code : DiagnosticCode) (spelling : String) : Prop :=
  ∃ letter : Char, ∃ digits : List Nat, (letter, code.category) ∈ letters ∧
    (1 ≤ digits.length ∧ digits.length ≤ 4) ∧ (∀ d ∈ digits, d < 10) ∧
      code.number = Nat.ofDigits 10 digits.reverse ∧
        spelling = String.ofList (letter :: digits.map Nat.digitChar)

/-- The form of a printed code: an upper-case letter and four digits. -/
structure IsCanonical (spelling : String) : Prop where
  /-- It has five characters. -/
  length_eq : spelling.length = 5
  /-- The first is an upper-case letter. -/
  letter : spelling.toList.head? = some 'E' ∨ spelling.toList.head? = some 'W'
  /-- The others are digits. -/
  digits : ∀ c ∈ spelling.toList.tail, ∃ d < 10, c = d.digitChar

theorem category?_eq_some_iff {letter : Char} {category : String} :
    category? letter = some category ↔ (letter, category) ∈ letters := by
  unfold category? letters
  split
  · next h => rcases h with rfl | rfl <;> simp [eq_comm]
  · next he =>
    split
    · next h => rcases h with rfl | rfl <;> simp [eq_comm]
    · next hw => simp_all

theorem parse_ofList_eq_ok_iff {letter : Char} {digits : List Char} {code : DiagnosticCode} :
    parse (String.ofList (letter :: digits)) = .ok code ↔
      category? letter = some code.category ∧
        (digits ≠ [] ∧ digits.length ≤ 4 ∧ digits.all Char.isDigit) ∧
          digitsValue digits = code.number := by
  obtain ⟨category, number⟩ := code
  rw [parse, String.toList_ofList]
  cases hletter : category? letter with
  | none => simp [hletter]
  | some name =>
    simp only [hletter]
    split
    · next hform => simp [hform]
    · next hform =>
      constructor
      · simp
      · exact fun h => absurd h.2.1 hform

/-- What is not a code is reported as it was typed. -/
theorem parse_eq_error {entry : String}
    (h : ∀ code, parse entry ≠ .ok code) : parse entry = .error (.invalid entry) := by
  cases hparse : parse entry with
  | ok code => exact absurd hparse (h code)
  | error cause =>
    unfold parse at hparse
    grind

theorem digitsValue_map_digitChar {digits : List Nat} (h : ∀ d ∈ digits, d < 10) :
    digitsValue (digits.map Nat.digitChar) = Nat.ofDigits 10 digits.reverse :=
  Text.ofDigitChars_map_digitChar h

/-- **What is read is what is spelled.** -/
theorem parse_eq_ok_iff {spelling : String} {code : DiagnosticCode} :
    parse spelling = .ok code ↔ code.SpelledBy spelling := by
  constructor
  · intro h
    cases hchars : spelling.toList with
    | nil =>
      rw [parse, hchars] at h
      cases h
    | cons letter chars =>
      obtain rfl : spelling = String.ofList (letter :: chars) := by
        rw [← hchars, String.ofList_toList]
      obtain ⟨hletter, ⟨hne, hlength, hall⟩, hvalue⟩ := parse_ofList_eq_ok_iff.mp h
      obtain ⟨digits, hdigits, rfl⟩ := Text.all_isDigit_iff.mp hall
      rw [digitsValue_map_digitChar hdigits] at hvalue
      have hpos := List.length_pos_iff.mpr hne
      rw [List.length_map] at hlength hpos
      exact ⟨letter, digits, category?_eq_some_iff.mp hletter, ⟨hpos, hlength⟩, hdigits,
        hvalue.symm, rfl⟩
  · rintro ⟨letter, digits, hletter, ⟨hpos, hlength⟩, hdigits, hnumber, rfl⟩
    refine parse_ofList_eq_ok_iff.mpr ⟨category?_eq_some_iff.mpr hletter, ⟨?_, ?_, ?_⟩, ?_⟩
    · rw [ne_eq, List.map_eq_nil_iff]
      exact List.ne_nil_of_length_pos hpos
    · rwa [List.length_map]
    · exact Text.all_isDigit_iff.mpr ⟨digits, hdigits, rfl⟩
    · rw [digitsValue_map_digitChar hdigits, hnumber]

theorem parse_eq_error_iff {spelling : String} :
    parse spelling = .error (.invalid spelling) ↔ ∀ code, ¬ SpelledBy code spelling := by
  constructor
  · intro h code hcode
    rw [← parse_eq_ok_iff, h] at hcode
    cases hcode
  · exact fun h => parse_eq_error fun code => mt parse_eq_ok_iff.mp (h code)

theorem SpelledBy.category_eq {code : DiagnosticCode} {spelling : String}
    (h : code.SpelledBy spelling) : code.category = "E" ∨ code.category = "W" := by
  obtain ⟨letter, -, hletter, -⟩ := h
  simp only [letters, List.mem_cons, Prod.mk.injEq, List.not_mem_nil, or_false] at hletter
  rcases hletter with h | h | h | h <;> simp [h.2]

theorem SpelledBy.number_le {code : DiagnosticCode} {spelling : String}
    (h : code.SpelledBy spelling) : code.number ≤ 9999 := by
  obtain ⟨-, digits, -, ⟨-, hlength⟩, hdigits, hnumber, -⟩ := h
  rw [hnumber]
  exact Text.ofDigits_reverse_le hlength hdigits

/-! ### The printed spelling -/

/-- The digits that are printed for a number, of which there are at least four. -/
def printedDigits (number : Nat) : List Char :=
  List.replicate (4 - (Nat.toDigits 10 number).length) '0' ++ Nat.toDigits 10 number

theorem toList_text (code : DiagnosticCode) :
    code.text.toList = code.category.toList ++ printedDigits code.number := by
  rw [text, String.toList_append, Text.toList_padLeft, Text.toList_decimal, ← String.length_toList,
    Text.toList_decimal, printedDigits]

/-- What is printed is a letter of the category, the upper-case one, and digits. -/
theorem exists_text_eq_ofList {code : DiagnosticCode}
    (h : code.category = "E" ∨ code.category = "W") :
    ∃ letter, (letter = 'E' ∨ letter = 'W') ∧ (letter, code.category) ∈ letters ∧
      code.text = String.ofList (letter :: printedDigits code.number) := by
  have htext : ∀ letter : Char, code.category.toList = [letter] →
      code.text = String.ofList (letter :: printedDigits code.number) := by
    intro letter hcategory
    rw [← String.toList_inj, toList_text, hcategory, String.toList_ofList]
    rfl
  rcases h with h | h
  · exact ⟨'E', .inl rfl, by rw [h]; decide, htext 'E' (by rw [h]; rfl)⟩
  · exact ⟨'W', .inr rfl, by rw [h]; decide, htext 'W' (by rw [h]; rfl)⟩

theorem length_printedDigits_le_iff {number : Nat} :
    (printedDigits number).length ≤ 4 ↔ number ≤ 9999 := by
  have hdigits : (Nat.toDigits 10 number).length ≤ 4 ↔ number < 10 ^ 4 :=
    Nat.length_toDigits_le_iff (by decide) (by decide)
  rw [printedDigits, List.length_append, List.length_replicate]
  omega

theorem four_le_length_printedDigits (number : Nat) : 4 ≤ (printedDigits number).length := by
  rw [printedDigits, List.length_append, List.length_replicate]
  omega

theorem all_isDigit_printedDigits (number : Nat) : (printedDigits number).all Char.isDigit := by
  rw [List.all_eq_true]
  intro c hc
  rcases List.mem_append.mp hc with hc | hc
  · rw [List.eq_of_mem_replicate hc]
    decide
  · exact Nat.isDigit_of_mem_toDigits (by decide) (by decide) hc

theorem digitsValue_printedDigits (number : Nat) : digitsValue (printedDigits number) = number := by
  change Nat.ofDigitChars 10 (printedDigits number) 0 = number
  rw [printedDigits, Nat.ofDigitChars_append, Nat.ofDigitChars_replicate_zero, Nat.mul_zero,
    Nat.ofDigitChars_ten_toDigits]

/-- **Reading back.** A printed code can be read if its number needs no fifth digit. -/
theorem parse_text_eq_ok_iff {code : DiagnosticCode}
    (h : code.category = "E" ∨ code.category = "W") :
    parse code.text = .ok code ↔ code.number ≤ 9999 := by
  obtain ⟨letter, -, hletter, htext⟩ := exists_text_eq_ofList h
  have hfour := four_le_length_printedDigits code.number
  have hne : printedDigits code.number ≠ [] := List.ne_nil_of_length_pos (by omega)
  rw [htext, parse_ofList_eq_ok_iff, length_printedDigits_le_iff]
  simp [category?_eq_some_iff.mpr hletter, hne, all_isDigit_printedDigits,
    digitsValue_printedDigits]

theorem isCanonical_text {code : DiagnosticCode} (h : code.category = "E" ∨ code.category = "W")
    (hnumber : code.number ≤ 9999) : IsCanonical code.text := by
  obtain ⟨letter, hupper, -, hprinted⟩ := exists_text_eq_ofList h
  have htext : code.text.toList = letter :: printedDigits code.number := by
    rw [hprinted, String.toList_ofList]
  constructor
  · have hfour := four_le_length_printedDigits code.number
    have hle := length_printedDigits_le_iff.mpr hnumber
    rw [← String.length_toList, htext, List.length_cons]
    omega
  · rw [htext]
    simpa using hupper
  · intro c hc
    rw [htext] at hc
    exact Text.isDigit_iff_exists_digitChar.mp
      (List.all_eq_true.mp (all_isDigit_printedDigits code.number) c hc)

/-- **A code has one canonical spelling.** Its letter is known from the category, and four digits
are known from what they are worth. -/
theorem IsCanonical.unique {code : DiagnosticCode} {a b : String} (ha : IsCanonical a)
    (hb : IsCanonical b) (hcode : code.SpelledBy a) (hcode' : code.SpelledBy b) : a = b := by
  obtain ⟨letter, digits, hletter, -, hdigits, hnumber, rfl⟩ := hcode
  obtain ⟨letter', digits', hletter', -, hdigits', hnumber', rfl⟩ := hcode'
  have hcase : letter = letter' := by
    have hupper := ha.letter
    have hupper' := hb.letter
    simp only [String.toList_ofList, List.head?_cons, Option.some.injEq] at hupper hupper'
    simp only [letters, List.mem_cons, Prod.mk.injEq, List.not_mem_nil, or_false]
      at hletter hletter'
    grind
  have hlength : digits.reverse.length = digits'.reverse.length := by
    have h := ha.length_eq.trans hb.length_eq.symm
    simpa [← String.length_toList] using h
  have hreverse : digits.reverse = digits'.reverse :=
    Nat.ofDigits_inj_of_len_eq (by decide) hlength
      (fun d hd => hdigits d (List.mem_reverse.mp hd))
      (fun d hd => hdigits' d (List.mem_reverse.mp hd)) (hnumber.symm.trans hnumber')
  rw [hcase, List.reverse_injective hreverse]

end DiagnosticCode

/-! ### A number reader -/

namespace Text

/-- A word with one more digit behind it, if the character is a digit and the word has room. -/
def appendDigit? (value : UInt32) (c : Char) : Option UInt32 :=
  let next := 10 * value.toNat + (c.toNat - '0'.toNat)
  if c.isDigit ∧ next < 2 ^ 32 then some (.ofNat next) else none

/-- The word that a numeral denotes. A plus sign may stand in front, and there may be any number of
digits, as long as the value fits. -/
def word? (text : List Char) : Option UInt32 :=
  let digits := if text.head? = some '+' then text.tail else text
  if digits = [] then none else digits.foldlM appendDigit? 0

theorem le_ofDigitChars (digits : List Char) (value : Nat) :
    value ≤ Nat.ofDigitChars 10 digits value := by
  induction digits generalizing value with
  | nil => exact Nat.le_refl value
  | cons c digits ih =>
    have hnext := ih (10 * value + (c.toNat - '0'.toNat))
    rw [Nat.ofDigitChars_cons]
    omega

/-- Digit by digit, either the value fits all the time, or it does not fit in the end. -/
theorem foldlM_appendDigit? {digits : List Char} (hdigits : ∀ c ∈ digits, c.isDigit = true)
    (value : UInt32) :
    digits.foldlM appendDigit? value =
      if Nat.ofDigitChars 10 digits value.toNat < 2 ^ 32
      then some (.ofNat (Nat.ofDigitChars 10 digits value.toNat)) else none := by
  induction digits generalizing value with
  | nil =>
    rw [Nat.ofDigitChars_nil, if_pos value.toNat_lt, UInt32.ofNat_toNat]
    rfl
  | cons c digits ih =>
    obtain ⟨hc, hrest⟩ := List.forall_mem_cons.mp hdigits
    rw [List.foldlM_cons, appendDigit?, Nat.ofDigitChars_cons]
    by_cases hroom : 10 * value.toNat + (c.toNat - '0'.toNat) < 2 ^ 32
    · rw [if_pos ⟨hc, hroom⟩, Option.bind_eq_bind, Option.bind_some, ih hrest,
        UInt32.toNat_ofNat_of_lt' hroom]
    · have hle := le_ofDigitChars digits (10 * value.toNat + (c.toNat - '0'.toNat))
      rw [if_neg fun h => hroom h.2, if_neg fun h => hroom (Nat.lt_of_le_of_lt hle h)]
      rfl

/-- A row of digits is read if its value fits into a word. -/
theorem word?_of_digits {digits : List Char} (hne : digits ≠ [])
    (hdigits : ∀ c ∈ digits, c.isDigit = true) :
    word? digits =
      if Nat.ofDigitChars 10 digits 0 < 2 ^ 32 then some (.ofNat (Nat.ofDigitChars 10 digits 0))
      else none := by
  have hplain : ¬ digits.head? = some '+' := by
    intro hplus
    exact absurd (hdigits '+' (List.mem_of_head? hplus)) (by decide)
  rw [word?, if_neg hplain, if_neg hne, foldlM_appendDigit? hdigits]
  rfl

/-- Whether a byte is an ASCII digit. -/
def isDigitByte (byte : UInt8) : Bool := 0x30 ≤ byte && byte ≤ 0x39

theorem isDigitByte_iff {byte : UInt8} :
    isDigitByte byte = true ↔ 48 ≤ byte.toNat ∧ byte.toNat ≤ 57 := by
  simp [isDigitByte, UInt8.le_iff_toNat_le]

/-- The bytes of a character are digits if it is one. -/
theorem all_isDigitByte_utf8EncodeChar (c : Char) :
    (String.utf8EncodeChar c).all isDigitByte = c.isDigit := by
  have hdigit : c.isDigit = true ↔ 48 ≤ c.toNat ∧ c.toNat ≤ 57 := Char.isDigit_iff_toNat
  have hnat : c.val.toNat = c.toNat := rfl
  rw [Bool.eq_iff_iff, hdigit]
  simp only [String.utf8EncodeChar, hnat]
  split
  · rw [List.all_cons, List.all_nil, Bool.and_true, isDigitByte_iff, UInt8.toNat_ofNat']
    omega
  · -- a character beyond ASCII begins with a large byte
    repeat' split
    all_goals
      simp only [List.all_cons, Bool.and_eq_true, isDigitByte_iff, UInt8.toNat_ofNat']
      omega

theorem all_isDigitByte_flatMap (chars : List Char) :
    (chars.flatMap String.utf8EncodeChar).all isDigitByte = chars.all Char.isDigit := by
  rw [List.all_flatMap]
  exact congrArg chars.all (funext all_isDigitByte_utf8EncodeChar)

theorem length_flatMap_utf8EncodeChar {chars : List Char} (h : chars.all Char.isDigit = true) :
    (chars.flatMap String.utf8EncodeChar).length = chars.length := by
  induction chars with
  | nil => rfl
  | cons c chars ih =>
    obtain ⟨hc, hchars⟩ := Bool.and_eq_true_iff.mp h
    have hrange : 48 ≤ c.toNat ∧ c.toNat ≤ 57 := Char.isDigit_iff_toNat.mp hc
    have hone : c.utf8Size = 1 := by
      rw [Char.utf8Size_eq_one_iff, UInt32.le_iff_toNat_le]
      exact hrange.2.trans (by decide)
    rw [List.flatMap_cons, List.length_append, String.length_utf8EncodeChar, hone, ih hchars,
      List.length_cons, Nat.add_comm]

/-- **Bytes and characters.** If all of them are digits, there are as many of the one as of the
other. -/
theorem digitBytes_iff {chars : List Char} :
    (chars.flatMap String.utf8EncodeChar ≠ [] ∧
        (chars.flatMap String.utf8EncodeChar).length ≤ 4 ∧
        (chars.flatMap String.utf8EncodeChar).all isDigitByte) ↔
      chars ≠ [] ∧ chars.length ≤ 4 ∧ chars.all Char.isDigit := by
  rw [all_isDigitByte_flatMap, ← List.length_pos_iff, ← List.length_pos_iff]
  by_cases hall : chars.all Char.isDigit = true
  · rw [length_flatMap_utf8EncodeChar hall]
  · simp [hall]

end Text

namespace DiagnosticCode

/-- A code, read by its bytes: a letter, then one to four bytes that are digits, which a number
reader reads. -/
def parseBytes (spelling : String) : Except CodeError DiagnosticCode :=
  match spelling.toList with
  | [] => .error (.invalid spelling)
  | letter :: chars =>
    match category? letter with
    | none => .error (.invalid spelling)
    | some category =>
      let bytes := chars.flatMap String.utf8EncodeChar
      if bytes = [] ∨ 4 < bytes.length ∨ ¬ bytes.all Text.isDigitByte then
        .error (.invalid spelling)
      else
        match Text.word? chars with
        | none => .error (.invalid spelling)
        | some number => .ok ⟨category, number.toNat⟩

/-- Of what the guard lets through, the number reader reads the value. -/
theorem map_toNat_word? {chars : List Char} (hne : chars ≠ []) (hlength : chars.length ≤ 4)
    (hall : chars.all Char.isDigit = true) :
    (Text.word? chars).map UInt32.toNat = some (digitsValue chars) := by
  have hroom : Nat.ofDigitChars 10 chars 0 < 2 ^ 32 := by
    obtain ⟨digits, hdigits, rfl⟩ := Text.all_isDigit_iff.mp hall
    rw [List.length_map] at hlength
    rw [Text.ofDigitChars_map_digitChar hdigits]
    exact Nat.lt_of_le_of_lt (Text.ofDigits_reverse_le hlength hdigits) (by decide)
  rw [Text.word?_of_digits hne (List.all_eq_true.mp hall), if_pos hroom, Option.map_some,
    UInt32.toNat_ofNat_of_lt' hroom]
  rfl

/-- **The guard is tight.** What it lets through the number reader reads, and it lets through all
that spells a code. -/
theorem parseBytes_eq (spelling : String) : parseBytes spelling = parse spelling := by
  rw [parseBytes, parse]
  cases spelling.toList with
  | nil => rfl
  | cons letter chars =>
    cases hcategory : category? letter with
    | none => simp only [hcategory]
    | some category =>
      have hguard : (chars.flatMap String.utf8EncodeChar = [] ∨
          4 < (chars.flatMap String.utf8EncodeChar).length ∨
          ¬ (chars.flatMap String.utf8EncodeChar).all Text.isDigitByte) ↔
          ¬ (chars ≠ [] ∧ chars.length ≤ 4 ∧ chars.all Char.isDigit) := by
        rw [← Text.digitBytes_iff]
        simp only [ne_eq, not_and_or, not_not, Nat.not_le]
      simp only [hcategory, hguard]
      by_cases hform : chars ≠ [] ∧ chars.length ≤ 4 ∧ chars.all Char.isDigit
      · obtain ⟨number, hword, hnumber⟩ :=
          Option.map_eq_some_iff.mp (map_toNat_word? hform.1 hform.2.1 hform.2.2)
        rw [if_neg (not_not_intro hform), if_pos hform, hword, ← hnumber]
      · rw [if_pos hform, if_neg hform]

end DiagnosticCode

/-- **What spells a code, and what is printed for it.** A text is read as a code exactly if it
spells that code, and refused as a whole if it spells none. A printed code can be read back exactly
if its number has no fifth digit, and for a code that was read, what is printed is its one canonical
spelling. -/
theorem codes_spelled (spelling : String) (code : DiagnosticCode) :
    ((DiagnosticCode.parse spelling = .ok code ↔ code.SpelledBy spelling) ∧
        (DiagnosticCode.parse spelling = .error (.invalid spelling) ↔
          ∀ other : DiagnosticCode, ¬ other.SpelledBy spelling) ∧
        DiagnosticCode.parseBytes spelling = DiagnosticCode.parse spelling) ∧
      (code.category = "E" ∨ code.category = "W" →
        (DiagnosticCode.parse code.text = .ok code ↔ code.number ≤ 9999)) ∧
      (DiagnosticCode.parse spelling = .ok code → ∀ other,
        (DiagnosticCode.IsCanonical other ∧ DiagnosticCode.parse other = .ok code) ↔
          other = code.text) := by
  refine ⟨⟨DiagnosticCode.parse_eq_ok_iff, DiagnosticCode.parse_eq_error_iff,
    DiagnosticCode.parseBytes_eq spelling⟩, DiagnosticCode.parse_text_eq_ok_iff, ?_⟩
  intro h other
  have hspelled := DiagnosticCode.parse_eq_ok_iff.mp h
  have hcanonical := DiagnosticCode.isCanonical_text hspelled.category_eq hspelled.number_le
  have hback := (DiagnosticCode.parse_text_eq_ok_iff hspelled.category_eq).mpr hspelled.number_le
  constructor
  · rintro ⟨hother, hparse⟩
    exact hother.unique hcanonical (DiagnosticCode.parse_eq_ok_iff.mp hparse)
      (DiagnosticCode.parse_eq_ok_iff.mp hback)
  · rintro rfl
    exact ⟨hcanonical, hback⟩

/-- A short spelling in lower case. Its category has an upper-case letter, so that the code can be
read back; its number is printed with three zeros in front, and this is its canonical spelling. -/
theorem codes_spelled_short :
    let code : DiagnosticCode := ⟨"W", 7⟩
    (code.category = "E" ∨ code.category = "W") ∧ DiagnosticCode.parse "w7" = .ok code ∧
      code.text = "W0007" ∧ (DiagnosticCode.parse code.text = .ok code ↔ code.number ≤ 9999) ∧
        ∀ other, (DiagnosticCode.IsCanonical other ∧ DiagnosticCode.parse other = .ok code) ↔
          other = code.text :=
  have hcategory : "W" = "E" ∨ "W" = "W" := by decide
  have hparse : DiagnosticCode.parse "w7" = .ok ⟨"W", 7⟩ := by decide +kernel
  ⟨hcategory, hparse, by decide +kernel, (codes_spelled "w7" ⟨"W", 7⟩).2.1 hcategory,
    (codes_spelled "w7" ⟨"W", 7⟩).2.2 hparse⟩

end TokenScan
