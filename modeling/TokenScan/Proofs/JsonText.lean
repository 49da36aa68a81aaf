import TokenScan.Json
import TokenScan.Proofs.Unambiguous
import Mathlib.Tactic.SplitIfs

/-!
# The compact text of a JSON value can be read in one way

The text of a value determines the value, and its end: in front of anything that does not go on with
a digit, it is the text of no other value. Only numerals need that. A string ends at the quote that
is not inside it, an array and an object at their bracket, at whatever depth they stand.

The text of a value is one line. Line feeds are inside strings, and there they are escaped.

## Main definitions

* `Json.Writes` — characters that stand for a character inside a string
* `Json.stringEscaping` — the same, as a way to escape characters
* `Json.Shape`, `Json.shape` — which kind of value a value is
* `Json.memberChars` — the text of a member of an object

## Main results

* `Json.quote_append_inj` — a string ends at its quote
* `Json.text_append_inj`, `Json.text_injective` — a value can be told from its text
* `Json.lineFeed_not_mem_text` — the text of a value is one line
-/

namespace TokenScan

namespace Json

open Text

/-! ### Strings -/

/-- The characters that are written with a mark, each with its mark. -/
def shortEscapes : List (Char × Char) :=
  [('\"', '\"'), ('\\', '\\'), ('\x08', 'b'), ('\x0c', 'f'), ('\n', 'n'), ('\r', 'r'), ('\t', 't')]

theorem mem_shortEscapes_of_shortEscape? {c mark : Char} (h : shortEscape? c = some mark) :
    (c, mark) ∈ shortEscapes := by
  unfold shortEscape? at h
  split_ifs at h <;> cases h <;> simp_all [shortEscapes]

theorem shortEscapes_injective :
    ∀ p ∈ shortEscapes, ∀ q ∈ shortEscapes, p.2 = q.2 → p.1 = q.1 := by
  decide

/-- Characters that stand for a character inside a string. -/
inductive Writes : List Char → Char → Prop
  /-- A character without a mark may stand for itself. -/
  | plain {c : Char} (h : shortEscape? c = none) : Writes [c] c
  /-- A mark stands for the character that has it. -/
  | short {c mark : Char} (h : shortEscape? c = some mark) : Writes ['\\', mark] c
  /-- Two hexadecimal digits stand for the character with their number. -/
  | control {c : Char} {high low : Nat} (hhigh : high < 16) (hlow : low < 16)
      (h : c.toNat = 16 * high + low) :
      Writes ['\\', 'u', '0', '0', high.digitChar, low.digitChar] c

/-- Control characters have a code of four digits, of which the first two are zeros. -/
theorem toList_controlCode {n : Nat} (hn : n < 0x20) :
    (padLeft 4 '0' (hexadecimal n)).toList =
      ['0', '0', (n / 16).digitChar, (n % 16).digitChar] := by
  have hdigits : ∀ n < 0x20, List.replicate (4 - (Nat.toDigits 16 n).length) '0' ++
      Nat.toDigits 16 n = ['0', '0', (n / 16).digitChar, (n % 16).digitChar] := by decide
  rw [toList_padLeft, hexadecimal, String.length_ofList, String.toList_ofList]
  exact hdigits n hn

theorem writes_escapeChar (c : Char) : Writes (escapeChar c) c := by
  unfold escapeChar
  split
  · next hmark => exact .short hmark
  · next hmark =>
    split
    · next hcontrol =>
      rw [toList_controlCode hcontrol]
      exact .control (by omega) (Nat.mod_lt _ (by omega)) (Nat.div_add_mod ..).symm
    · exact .plain hmark

/-- The marks and the codes of strings, as a way to escape characters. -/
def stringEscaping : Escaping where
  mark? := shortEscape?
  IsCode code c := ∃ high < 16, ∃ low < 16, c.toNat = 16 * high + low ∧
    code = ['0', '0', high.digitChar, low.digitChar]
  mark?_injective := by
    intro c d mark hc hd
    exact shortEscapes_injective _ (mem_shortEscapes_of_shortEscape? hc) _
      (mem_shortEscapes_of_shortEscape? hd) rfl
  mark?_ne_u := by
    intro c hc
    have hno : ∀ p ∈ shortEscapes, p.2 ≠ 'u' := by decide
    exact hno _ (mem_shortEscapes_of_shortEscape? hc) rfl
  mark?_ne_lineFeed := by
    intro c hc
    have hno : ∀ p ∈ shortEscapes, p.2 ≠ '\n' := by decide
    exact hno _ (mem_shortEscapes_of_shortEscape? hc) rfl
  mark?_backslash := by decide
  mark?_lineFeed := by decide
  code_append_inj := by
    rintro _ _ c d x y ⟨high, hhigh, low, hlow, hc, rfl⟩ ⟨high', hhigh', low', hlow', hd, rfl⟩ heq
    simp only [List.cons_append, List.nil_append, List.cons.injEq, true_and] at heq
    obtain ⟨hfirst, hsecond, hxy⟩ := heq
    have hhighs := digitChar_injective _ hhigh _ hhigh' hfirst
    have hlows := digitChar_injective _ hlow _ hlow' hsecond
    exact ⟨Char.toNat_inj.mp (by rw [hc, hd, hhighs, hlows]), hxy⟩
  lineFeed_not_mem_code := by
    rintro _ c ⟨high, hhigh, low, hlow, -, rfl⟩
    have hno : ∀ digit < 16, digit.digitChar ≠ '\n' := by decide
    simp [(hno high hhigh).symm, (hno low hlow).symm]

theorem Writes.escaped {form : List Char} {c : Char} (h : Writes form c) :
    stringEscaping.Writes form c := by
  cases h with
  | plain h => exact .plain h
  | short h => exact .short h
  | @control _ high low hhigh hlow h => exact .code ⟨high, hhigh, low, hlow, h, rfl⟩

theorem escaped_escapeChar (c : Char) : stringEscaping.Writes (escapeChar c) c :=
  (writes_escapeChar c).escaped

theorem toList_quote (value : String) :
    (quote value).toList = '\"' :: (value.toList.flatMap escapeChar ++ ['\"']) := by
  simp [quote, String.toList_append]

/-- **A string ends at its quote.** -/
theorem quote_append_inj {a b : String} {x y : List Char}
    (h : (quote a).toList ++ x = (quote b).toList ++ y) : a = b ∧ x = y := by
  rw [toList_quote, toList_quote] at h
  simp only [List.cons_append, List.append_assoc, List.nil_append, List.cons.injEq, true_and] at h
  obtain ⟨hab, hxy⟩ := flatMap_append_cons_inj
    (fun heq => (escaped_escapeChar _).append_inj (escaped_escapeChar _) heq)
    ((escaped_escapeChar _).append_ne (by decide) (by decide)) h
  exact ⟨String.toList_inj.mp hab, hxy⟩

theorem lineFeed_not_mem_quote (value : String) : '\n' ∉ (quote value).toList := by
  have hno : ∀ c, '\n' ∉ escapeChar c := fun c => (escaped_escapeChar c).lineFeed_not_mem
  simp [toList_quote, hno]

/-! ### Values -/

/-- Induction on a value, from all its items or the values of all its members. -/
@[elab_as_elim]
theorem induction {motive : Json → Prop} (null : motive .null)
    (number : ∀ value, motive (.number value)) (string : ∀ value, motive (.string value))
    (array : ∀ items, (∀ item ∈ items, motive item) → motive (.array items))
    (object : ∀ members, (∀ member ∈ members, motive member.2) → motive (.object members)) :
    ∀ json, motive json
  | .null => null
  | .number value => number value
  | .string value => string value
  | .array items => array items fun item _hitem => induction null number string array object item
  | .object members => object members fun member _hmember =>
      induction null number string array object member.2
termination_by json => sizeOf json
decreasing_by
  · have hitem := List.sizeOf_lt_of_mem _hitem
    rw [Json.array.sizeOf_spec]
    omega
  · have hmember := List.sizeOf_lt_of_mem _hmember
    obtain ⟨name, value⟩ := member
    rw [Prod.mk.sizeOf_spec] at hmember
    rw [Json.object.sizeOf_spec]
    show sizeOf value < 1 + sizeOf members
    omega

theorem itemTexts_eq_map (items : List Json) : itemTexts items = items.map text := by
  induction items with
  | nil => rw [itemTexts, List.map_nil]
  | cons item items ih => rw [itemTexts, ih, List.map_cons]

/-- The text of a member of an object: its name as a string, a colon, its value. -/
def memberChars (member : String × Json) : List Char :=
  (quote member.1).toList ++ ':' :: member.2.text.toList

theorem map_toList_memberTexts (members : List (String × Json)) :
    (memberTexts members).map String.toList = members.map memberChars := by
  induction members with
  | nil => rw [memberTexts, List.map_nil, List.map_nil]
  | cons member members ih =>
    obtain ⟨name, value⟩ := member
    rw [memberTexts, List.map_cons, List.map_cons, ih]
    simp [memberChars, String.toList_append]

theorem toList_text_array (items : List Json) :
    (text (.array items)).toList =
      '[' :: ([','].intercalate (items.map fun item => item.text.toList) ++ [']']) := by
  simp [text, itemTexts_eq_map, String.toList_append, String.toList_intercalate, Function.comp_def]

theorem toList_text_object (members : List (String × Json)) :
    (text (.object members)).toList =
      '\x7b' :: ([','].intercalate (members.map memberChars) ++ ['\x7d']) := by
  simp [text, String.toList_append, String.toList_intercalate, map_toList_memberTexts]

/-- The kinds of values. -/
inductive Shape where
  /-- The literal `null`. -/
  | null
  /-- Numbers. -/
  | number
  /-- Strings. -/
  | string
  /-- Arrays. -/
  | array
  /-- Objects. -/
  | object

/-- The kind of a value. -/
def shape : Json → Shape
  | .null => .null
  | .number _ => .number
  | .string _ => .string
  | .array _ => .array
  | .object _ => .object

/-- The kind of the values whose text begins with a character. -/
def Shape.ofInitial (c : Char) : Shape :=
  if c = 'n' then .null
  else if c = '\"' then .string
  else if c = '[' then .array
  else if c = '\x7b' then .object
  else .number

theorem Shape.ofInitial_of_isDigit {c : Char} (h : c.isDigit = true) : ofInitial c = .number := by
  have hne : ∀ d : Char, d.isDigit = false → c ≠ d := by
    rintro d hd rfl
    rw [h] at hd
    cases hd
  rw [ofInitial, if_neg (hne _ (by decide)), if_neg (hne _ (by decide)),
    if_neg (hne _ (by decide)), if_neg (hne _ (by decide))]

/-- **The first character of a text tells what kind of value it is.** No value begins with the
bracket that closes an array. -/
theorem exists_text_eq_cons (json : Json) :
    ∃ c rest, json.text.toList = c :: rest ∧ Shape.ofInitial c = json.shape ∧ c ≠ ']' := by
  cases json with
  | null => exact ⟨'n', "ull".toList, by rw [text]; rfl, rfl, by decide⟩
  | number value =>
    have hne : (decimal value).toList ≠ [] := by rw [toList_decimal]; exact Nat.toDigits_ne_nil
    obtain ⟨c, rest, hcons⟩ := List.exists_cons_of_ne_nil hne
    have hdigit : c.isDigit = true :=
      isDigit_of_mem_decimal (by rw [hcons]; exact List.mem_cons_self ..)
    refine ⟨c, rest, by rw [text, hcons], Shape.ofInitial_of_isDigit hdigit, ?_⟩
    rintro rfl
    exact absurd hdigit (by decide)
  | string value => exact ⟨_, _, by rw [text, toList_quote], rfl, by decide⟩
  | array items => exact ⟨_, _, toList_text_array items, rfl, by decide⟩
  | object members => exact ⟨_, _, toList_text_object members, rfl, by decide⟩

theorem shape_eq_of_text_append {json other : Json} {x y : List Char}
    (h : json.text.toList ++ x = other.text.toList ++ y) : json.shape = other.shape := by
  obtain ⟨c, rest, htext, hshape, -⟩ := json.exists_text_eq_cons
  obtain ⟨d, rest', htext', hshape', -⟩ := other.exists_text_eq_cons
  rw [htext, htext'] at h
  obtain rfl : c = d := List.head_eq_of_cons_eq h
  rw [← hshape, hshape']

theorem text_append_ne (json : Json) (x y : List Char) : json.text.toList ++ x ≠ ']' :: y := by
  intro h
  obtain ⟨c, rest, htext, -, hclosing⟩ := json.exists_text_eq_cons
  rw [htext] at h
  exact hclosing (List.head_eq_of_cons_eq h)

/-- No member begins with the bracket that closes an object. -/
theorem memberChars_append_ne (member : String × Json) (x y : List Char) :
    memberChars member ++ x ≠ '\x7d' :: y := by
  intro h
  rw [memberChars, toList_quote] at h
  exact absurd (List.head_eq_of_cons_eq h) (by decide)

/-- **A value can be told from its text**, in front of what does not go on with a digit, and so can
what follows. -/
theorem text_append_inj {json other : Json} {x y : List Char}
    (hx : ∀ c ∈ x.head?, c.isDigit = false) (hy : ∀ c ∈ y.head?, c.isDigit = false)
    (h : json.text.toList ++ x = other.text.toList ++ y) : json = other ∧ x = y := by
  have hshape := shape_eq_of_text_append h
  -- Inside brackets a value is in front of a comma or of the bracket.
  have hfollow : ∀ {stop : Char}, stop.isDigit = false → ∀ {z : List Char},
      (∀ c ∈ z.head?, c = ',' ∨ c = stop) → ∀ c ∈ z.head?, c.isDigit = false := by
    intro stop hstop z hz c hc
    rcases hz c hc with rfl | rfl
    · rfl
    · exact hstop
  induction json using Json.induction generalizing other x y with
  | null =>
    cases other with
    | null => exact ⟨rfl, List.append_cancel_left h⟩
    | _ => cases hshape
  | number value =>
    cases other with
    | number value' =>
      rw [text, text] at h
      obtain ⟨rfl, hxy⟩ := decimal_append_inj hx hy h
      exact ⟨rfl, hxy⟩
    | _ => cases hshape
  | string value =>
    cases other with
    | string value' =>
      rw [text, text] at h
      obtain ⟨rfl, hxy⟩ := quote_append_inj h
      exact ⟨rfl, hxy⟩
    | _ => cases hshape
  | array items ih =>
    cases other with
    | array items' =>
      rw [toList_text_array, toList_text_array] at h
      simp only [List.cons_append, List.append_assoc, List.nil_append, List.cons.injEq,
        true_and] at h
      obtain ⟨rfl, hxy⟩ := intercalate_append_cons_inj (by decide) text_append_ne
        (fun item hitem other _ {x y} hx hy heq => ih item hitem (hfollow (by decide) hx)
          (hfollow (by decide) hy) heq (shape_eq_of_text_append heq)) h
      exact ⟨rfl, hxy⟩
    | _ => cases hshape
  | object members ih =>
    cases other with
    | object members' =>
      rw [toList_text_object, toList_text_object] at h
      simp only [List.cons_append, List.append_assoc, List.nil_append, List.cons.injEq,
        true_and] at h
      refine (intercalate_append_cons_inj (by decide) memberChars_append_ne ?_ h).imp_left
        (congrArg object)
      intro member hmember other _ x y hx hy heq
      simp only [memberChars, List.append_assoc, List.cons_append] at heq
      obtain ⟨hname, hcolon⟩ := quote_append_inj heq
      have hvalues := List.tail_eq_of_cons_eq hcolon
      obtain ⟨hvalue, hxy⟩ := ih member hmember (hfollow (by decide) hx) (hfollow (by decide) hy)
        hvalues (shape_eq_of_text_append hvalues)
      exact ⟨Prod.ext hname hvalue, hxy⟩
    | _ => cases hshape

theorem text_injective : Function.Injective text := by
  intro json other h
  exact (text_append_inj (x := []) (y := []) (by simp) (by simp) (by rw [h])).1

/-- **The text of a value is one line.** -/
theorem lineFeed_not_mem_text (json : Json) : '\n' ∉ json.text.toList := by
  induction json using Json.induction with
  | null => rw [text]; decide
  | number value =>
    intro hmem
    rw [text] at hmem
    exact absurd (isDigit_of_mem_decimal hmem) (by decide)
  | string value => rw [text]; exact lineFeed_not_mem_quote value
  | array items ih =>
    have hitems : '\n' ∉ [','].intercalate (items.map fun item => item.text.toList) :=
      not_mem_intercalate (by decide) (List.forall_mem_map.mpr ih)
    rw [toList_text_array]
    simp [hitems]
  | object members ih =>
    have hmembers : '\n' ∉ [','].intercalate (members.map memberChars) := by
      refine not_mem_intercalate (by decide) (List.forall_mem_map.mpr fun member hmember => ?_)
      rw [memberChars]
      simp [lineFeed_not_mem_quote, ih member hmember]
    rw [toList_text_object]
    simp [hmembers]

end Json

end TokenScan
