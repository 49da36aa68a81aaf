import TokenScan.Proofs.Unambiguous
import TokenScan.Report
import Mathlib.Tactic.SplitIfs

/-!
# The text report loses nothing

The text report is for people, but nothing is lost in it: whoever has its bytes can tell the
tokens, and with more than one input which input they belong to. A lexeme may hold whatever it
likes. Quotes, line feeds and whole lines of a report are escaped in it, so that it ends at the
quote that ends it, and no line of the report begins inside it.

Three kinds of lines are told apart by how they begin: the line of a token by the name of a kind, a
header by its arrow, and the line between two inputs by its line feed. Labels are not escaped. They
are the one thing that must not hold a line feed.

## Escaping

What is used of the way in which a character is written is `Form.Writes`: the form says which
character it stands for, and a form that is the character itself is none of those that have a short
form. That makes it an `Escaping`. Whether a character that comes first is written in another way
makes no difference.

## Main definitions

* `Text.Form.Writes` — a form stands for a character
* `Text.debugEscaping` — the forms, as a way to escape characters
* `Report.block` — the header of an input and the lines of its tokens
* `Scanned.SameText` — two inputs are the same as far as this report shows them

## Main results

* `Text.escape_append_inj` — an escaped text ends at the quote behind it
* `Token.display_append_inj` — a token can be told from its line
* `Report.tokenLines_append_inj`, `Report.block_append_inj` — so can the tokens of an input, and its
  label
* `text_report_lossless` — the whole report
-/

namespace TokenScan

open Text

namespace Text

/-! ### Forms of characters -/

/-- The characters that have a short form, each with its mark. -/
def shortMarks : List (Char × Char) :=
  [('\x00', '0'), ('\t', 't'), ('\r', 'r'), ('\n', 'n'), ('\'', '\''), ('\"', '\"'), ('\\', '\\')]

theorem mem_shortMarks_of_shortMark? {c mark : Char} (h : shortMark? c = some mark) :
    (c, mark) ∈ shortMarks := by
  unfold shortMark? at h
  split_ifs at h <;> cases h <;> simp_all [shortMarks]

theorem shortMarks_injective : ∀ p ∈ shortMarks, ∀ q ∈ shortMarks, p.2 = q.2 → p.1 = q.1 := by
  decide

/-- A form stands for a character. -/
inductive Form.Writes : Form → Char → Prop
  /-- A character without a short form may stand for itself. -/
  | plain {c : Char} (h : shortMark? c = none) : Writes (.plain c) c
  /-- A mark stands for the character that has it. -/
  | short {c mark : Char} (h : shortMark? c = some mark) : Writes (.short mark) c
  /-- A code point stands for its character. -/
  | codePoint (c : Char) : Writes (.codePoint c.toNat) c

theorem Form.writes_ofChar (first : Bool) (c : Char) : (ofChar first c).Writes c := by
  unfold ofChar
  split
  · next hmark => exact .short hmark
  · next hmark =>
    split
    · exact .codePoint c
    · exact .plain hmark

theorem exists_digitChar_of_mem_hexadecimal {value : Nat} {c : Char}
    (hc : c ∈ (hexadecimal value).toList) : ∃ digit < 16, c = digit.digitChar := by
  rw [hexadecimal, String.toList_ofList] at hc
  exact exists_digitChar_of_mem_toDigits (by decide) hc

theorem not_mem_hexadecimal {stop : Char} (hstop : ∀ digit < 16, stop ≠ digit.digitChar)
    (value : Nat) : stop ∉ (hexadecimal value).toList := by
  intro hmem
  obtain ⟨digit, hdigit, heq⟩ := exists_digitChar_of_mem_hexadecimal hmem
  exact hstop digit hdigit heq

theorem hexadecimal_injective {m n : Nat}
    (h : (hexadecimal m).toList = (hexadecimal n).toList) : m = n := by
  rw [hexadecimal, hexadecimal, String.toList_ofList, String.toList_ofList] at h
  exact toDigits_injective (by decide) (by decide) h

/-- The marks and the code points, as a way to escape characters. -/
def debugEscaping : Escaping where
  mark? := shortMark?
  IsCode code c := code = '\x7b' :: ((hexadecimal c.toNat).toList ++ ['\x7d'])
  mark?_injective := by
    intro c d mark hc hd
    exact shortMarks_injective _ (mem_shortMarks_of_shortMark? hc) _
      (mem_shortMarks_of_shortMark? hd) rfl
  mark?_ne_u := by
    intro c hc
    have hno : ∀ p ∈ shortMarks, p.2 ≠ 'u' := by decide
    exact hno _ (mem_shortMarks_of_shortMark? hc) rfl
  mark?_ne_lineFeed := by
    intro c hc
    have hno : ∀ p ∈ shortMarks, p.2 ≠ '\n' := by decide
    exact hno _ (mem_shortMarks_of_shortMark? hc) rfl
  mark?_backslash := by decide
  mark?_lineFeed := by decide
  code_append_inj := by
    rintro _ _ c d x y rfl rfl heq
    have hbrace : ∀ value, '\x7d' ∉ (hexadecimal value).toList :=
      not_mem_hexadecimal (by decide)
    simp only [List.cons_append, List.append_assoc, List.cons.injEq, true_and] at heq
    obtain ⟨hvalue, hxy⟩ := append_cons_inj (hbrace _) (hbrace _) heq
    exact ⟨Char.toNat_inj.mp (hexadecimal_injective hvalue), hxy⟩
  lineFeed_not_mem_code := by
    rintro _ c rfl
    have hno : '\n' ∉ (hexadecimal c.toNat).toList := not_mem_hexadecimal (by decide) _
    simp [hno]

theorem Form.Writes.escaped {form : Form} {c : Char} (h : form.Writes c) :
    debugEscaping.Writes form.text c := by
  cases h with
  | plain h => exact .plain h
  | short h => exact .short h
  | codePoint => exact .code rfl

theorem Form.escaped_ofChar (first : Bool) (c : Char) :
    debugEscaping.Writes (ofChar first c).text c := (writes_ofChar first c).escaped

/-- No form begins with a quote. -/
theorem Form.text_ofChar_append_ne {first : Bool} {c : Char} {x y : List Char} :
    (ofChar first c).text ++ x ≠ '\'' :: y :=
  (escaped_ofChar first c).append_ne (by decide) (by decide)

/-! ### Escaped text -/

theorem escape_cons (c : Char) (text : List Char) :
    escape (c :: text) =
      (Form.ofChar true c).text ++ text.flatMap fun d => (Form.ofChar false d).text := rfl

theorem not_mem_escape (text : List Char) : '\n' ∉ escape text := by
  cases text with
  | nil => simp [escape]
  | cons c text =>
    rw [escape_cons, List.mem_append, List.mem_flatMap]
    rintro (hmem | ⟨d, -, hmem⟩)
    · exact (Form.escaped_ofChar true c).lineFeed_not_mem hmem
    · exact (Form.escaped_ofChar false d).lineFeed_not_mem hmem

/-- **An escaped text ends at the quote behind it.** The first character may be written in another
way than the same character elsewhere. -/
theorem escape_append_inj {a b x y : List Char}
    (h : escape a ++ '\'' :: x = escape b ++ '\'' :: y) : a = b ∧ x = y := by
  cases a with
  | nil =>
    cases b with
    | nil => exact ⟨rfl, List.tail_eq_of_cons_eq h⟩
    | cons d b =>
      rw [escape_cons, List.append_assoc] at h
      exact absurd h.symm Form.text_ofChar_append_ne
  | cons c a =>
    cases b with
    | nil =>
      rw [escape_cons, List.append_assoc] at h
      exact absurd h Form.text_ofChar_append_ne
    | cons d b =>
      rw [escape_cons, escape_cons, List.append_assoc, List.append_assoc] at h
      obtain ⟨rfl, hrest⟩ :=
        (Form.escaped_ofChar true c).append_inj (Form.escaped_ofChar true d) h
      obtain ⟨rfl, hxy⟩ := flatMap_append_cons_inj
        (fun heq => (Form.escaped_ofChar false _).append_inj (Form.escaped_ofChar false _) heq)
        Form.text_ofChar_append_ne hrest
      exact ⟨rfl, hxy⟩

end Text

/-! ### The line of a token -/

theorem TokenKind.name_injective : Function.Injective name := by
  intro a b h
  cases a <;> cases b <;> first | rfl | exact absurd h (by decide)

theorem TokenKind.space_not_mem_name (kind : TokenKind) : ' ' ∉ kind.name.toList := by
  cases kind <;> decide

namespace Token

theorem toList_display (token : Token) :
    token.display.toList = token.kind.name.toList ++ ' ' :: '\'' :: (escape token.lexeme.toList ++
      '\'' :: (" at ".toList ++ ((decimal token.line.toNat).toList ++
        ':' :: (decimal token.column.toNat).toList))) := by
  simp [display, String.toList_append]

/-- The line of a token is one line. -/
theorem lineFeed_not_mem_display (token : Token) : '\n' ∉ token.display.toList := by
  have hname : '\n' ∉ token.kind.name.toList := by cases token.kind <;> decide
  have hnumeral : ∀ n, '\n' ∉ (decimal n).toList := fun n hmem =>
    absurd (isDigit_of_mem_decimal hmem) (by decide)
  rw [toList_display]
  simp [hname, not_mem_escape, hnumeral, -toList_decimal]

/-- **A token can be told from its line**, and so can what follows the line. -/
theorem display_append_inj {token other : Token} {x y : List Char}
    (h : token.display.toList ++ '\n' :: x = other.display.toList ++ '\n' :: y) :
    token = other ∧ x = y := by
  obtain ⟨kind, lexeme, line, column⟩ := token
  obtain ⟨kind', lexeme', line', column'⟩ := other
  rw [toList_display, toList_display] at h
  simp only [List.append_assoc, List.cons_append] at h
  obtain ⟨hname, hquote⟩ := append_cons_inj kind.space_not_mem_name kind'.space_not_mem_name h
  obtain rfl := TokenKind.name_injective (String.toList_inj.mp hname)
  obtain ⟨hlexeme, hat⟩ := escape_append_inj (List.tail_eq_of_cons_eq hquote)
  obtain rfl := String.toList_inj.mp hlexeme
  obtain ⟨hline, hcolon⟩ := decimal_append_inj (by simp) (by simp) (List.append_cancel_left hat)
  obtain rfl := UInt32.toNat_inj.mp hline
  obtain ⟨hcolumn, hend⟩ :=
    decimal_append_inj (by simp) (by simp) (List.tail_eq_of_cons_eq hcolon)
  obtain rfl := UInt32.toNat_inj.mp hcolumn
  exact ⟨rfl, List.tail_eq_of_cons_eq hend⟩

end Token

/-! ### The lines of the report -/

/-- Two inputs are the same as far as the text report shows them. -/
structure Scanned.SameText (item other : Scanned) : Prop where
  /-- They have the same label. -/
  label_eq : item.input.label = other.input.label
  /-- They have the same tokens. -/
  tokens_eq : item.scan.tokens = other.scan.tokens

namespace Report

/-- The line of a token, with the line feed that ends it. -/
def tokenLine (token : Token) : List Char := token.display.toList ++ ['\n']

/-- The header of an input and the lines of its tokens. -/
def block (item : Scanned) : List Chunk := header item.input.label :: tokenLines item

/-- A line feed, and then the header of an input and the lines of its tokens. -/
def laterBlock (item : Scanned) : List Chunk := line "" :: block item

theorem text_cons_cons (first second : Scanned) (others : List Scanned) :
    text (first :: second :: others) = block first ++ (second :: others).flatMap laterBlock := rfl

theorem toList_join_tokenLines (item : Scanned) :
    (Chunk.join (tokenLines item)).toList = item.scan.tokens.flatMap tokenLine := by
  rw [Chunk.toList_join, tokenLines, List.flatMap_map]
  refine List.flatMap_congr fun token _ => ?_
  rw [line, tokenLine, String.toList_append]
  rfl

theorem toList_join_block (item : Scanned) :
    (Chunk.join (block item)).toList =
      "==> ".toList ++ (item.input.label.toList ++ " <==".toList ++
        '\n' :: item.scan.tokens.flatMap tokenLine) := by
  have hlines := toList_join_tokenLines item
  rw [Chunk.toList_join] at hlines ⊢
  simp [block, header, line, hlines]

theorem toList_join_laterBlock (item : Scanned) :
    (Chunk.join (laterBlock item)).toList = '\n' :: (Chunk.join (block item)).toList := by
  simp [Chunk.toList_join, laterBlock, line]

/-- The line of a token does not begin with a line feed. -/
theorem tokenLine_append_ne {token : Token} {x y : List Char} (hx : ∀ c ∈ x.head?, c = '\n') :
    tokenLine token ++ y ≠ x := by
  rintro rfl
  have hname : token.kind.name.toList ≠ [] := by cases token.kind <;> decide
  have hdisplay : token.display.toList ≠ [] := by
    rw [Token.toList_display]
    exact List.append_ne_nil_of_left_ne_nil hname _
  obtain ⟨c, rest, hcons⟩ := List.exists_cons_of_ne_nil hdisplay
  obtain rfl : c = '\n' := hx c (by rw [tokenLine, hcons]; rfl)
  exact token.lineFeed_not_mem_display (by rw [hcons]; exact List.mem_cons_self ..)

/-- **The tokens of an input can be told from their lines**, up to a line feed with which a line
begins. -/
theorem tokenLines_append_inj {tokens others : List Token} {x y : List Char}
    (hx : ∀ c ∈ x.head?, c = '\n') (hy : ∀ c ∈ y.head?, c = '\n')
    (h : tokens.flatMap tokenLine ++ x = others.flatMap tokenLine ++ y) :
    tokens = others ∧ x = y := by
  have hform : ∀ {token other x y}, tokenLine token ++ x = tokenLine other ++ y →
      token = other ∧ x = y := by
    intro token other x y heq
    rw [tokenLine, tokenLine, List.append_assoc, List.append_assoc] at heq
    exact Token.display_append_inj heq
  obtain ⟨hall, hxy⟩ := forall₂_of_flatMap_append (R := Eq) (fun z => ∀ c ∈ z.head?, c = '\n')
    (fun token _ other _ {x y} _ _ heq => hform heq) (fun _ _ hz => tokenLine_append_ne hz rfl)
    hx hy h
  exact ⟨(List.forall₂_eq_eq_eq ▸ hall : tokens = others), hxy⟩

/-- **An input can be told from its header and its lines.** Its label ends at the first line
feed. -/
theorem block_append_inj {item other : Scanned} (hitem : '\n' ∉ item.input.label.toList)
    (hother : '\n' ∉ other.input.label.toList) {x y : List Char}
    (hx : ∀ c ∈ x.head?, c = '\n') (hy : ∀ c ∈ y.head?, c = '\n')
    (h : (Chunk.join (block item)).toList ++ x = (Chunk.join (block other)).toList ++ y) :
    item.SameText other ∧ x = y := by
  have hline : ∀ {label : String}, '\n' ∉ label.toList → '\n' ∉ label.toList ++ " <==".toList :=
    fun hlabel hmem => (List.mem_append.mp hmem).elim hlabel (by decide)
  rw [toList_join_block, toList_join_block] at h
  simp only [List.append_assoc, List.cons_append] at h
  have hheader := List.append_cancel_left h
  rw [← List.append_assoc, ← List.append_assoc other.input.label.toList] at hheader
  obtain ⟨hlabel, hlines⟩ := append_cons_inj (hline hitem) (hline hother) hheader
  obtain ⟨htokens, hxy⟩ := tokenLines_append_inj hx hy hlines
  exact ⟨⟨String.toList_inj.mp (List.append_cancel_right hlabel), htokens⟩, hxy⟩

/-- What follows an input is nothing or begins with a line feed. -/
theorem head?_of_mayFollow_laterBlock {x : List Char}
    (h : MayFollow (fun item => (Chunk.join (laterBlock item)).toList) ([] = ·) x) :
    ∀ c ∈ x.head?, c = '\n' := by
  rcases h with rfl | ⟨item, z, rfl⟩ <;> simp [toList_join_laterBlock]

/-- Inputs one behind the other can be told. -/
theorem laterBlocks_injective {items others : List Scanned}
    (hitems : ∀ item ∈ items, '\n' ∉ item.input.label.toList)
    (hothers : ∀ item ∈ others, '\n' ∉ item.input.label.toList)
    (h : (items.flatMap fun item => (Chunk.join (laterBlock item)).toList) =
      others.flatMap fun item => (Chunk.join (laterBlock item)).toList) :
    List.Forall₂ Scanned.SameText items others := by
  rw [← List.append_nil (items.flatMap _), ← List.append_nil (others.flatMap _)] at h
  refine (forall₂_of_flatMap_append ([] = ·) ?_ (fun item z => ?_) rfl rfl h).1
  · intro item hitem other hother x y hx hy heq
    rw [toList_join_laterBlock, toList_join_laterBlock] at heq
    exact block_append_inj (hitems item hitem) (hothers other hother)
      (head?_of_mayFollow_laterBlock hx) (head?_of_mayFollow_laterBlock hy)
      (List.tail_eq_of_cons_eq heq)
  · simp [toList_join_laterBlock]

theorem text_injective {items others : List Scanned} (hlength : 2 ≤ items.length)
    (hlength' : 2 ≤ others.length) (hitems : ∀ item ∈ items, '\n' ∉ item.input.label.toList)
    (hothers : ∀ item ∈ others, '\n' ∉ item.input.label.toList)
    (h : (Chunk.join (text items)).toList = (Chunk.join (text others)).toList) :
    List.Forall₂ Scanned.SameText items others := by
  match items, others, hlength, hlength' with
  | first :: second :: items, first' :: second' :: others, _, _ =>
    rw [List.forall_mem_cons] at hitems hothers
    simp only [text_cons_cons, Chunk.toList_join, List.flatMap_append, List.flatMap_assoc] at h
    simp only [← Chunk.toList_join] at h
    have hfollow : ∀ items : List Scanned, ∀ c ∈ (items.flatMap fun item =>
        (Chunk.join (laterBlock item)).toList).head?, c = '\n' := fun items =>
      head?_of_mayFollow_laterBlock
        (List.append_nil (items.flatMap _) ▸ mayFollow_flatMap_append rfl items)
    obtain ⟨hsame, hrest⟩ := block_append_inj hitems.1 hothers.1 (hfollow _) (hfollow _) h
    exact .cons hsame (laterBlocks_injective hitems.2 hothers.2 hrest)

end Report

/-- **The text report loses nothing.** With one input it is a line for each token, and the tokens
can be told from its bytes. With more than one, the inputs can be told as well, each with its label,
if no label holds a line feed. -/
theorem text_report_lossless :
    (∀ item : Scanned,
      (Chunk.join (Report.text [item])).toList =
          item.scan.tokens.flatMap (fun token => token.display.toList ++ ['\n']) ∧
        ∀ token ∈ item.scan.tokens, '\n' ∉ token.display.toList) ∧
      (∀ item other : Scanned,
        bytesOf (Chunk.join (Report.text [item])) = bytesOf (Chunk.join (Report.text [other])) →
          item.scan.tokens = other.scan.tokens) ∧
      ∀ items others : List Scanned, 2 ≤ items.length → 2 ≤ others.length →
        (∀ item ∈ items, '\n' ∉ item.input.label.toList) →
        (∀ item ∈ others, '\n' ∉ item.input.label.toList) →
        bytesOf (Chunk.join (Report.text items)) = bytesOf (Chunk.join (Report.text others)) →
          List.Forall₂ Scanned.SameText items others := by
  refine ⟨fun item => ⟨Report.toList_join_tokenLines item, ?_⟩, ?_, ?_⟩
  · exact fun token _ => token.lineFeed_not_mem_display
  · intro item other h
    have hchars := congrArg String.toList (bytesOf_injective h)
    rw [Report.text, Report.text, Report.toList_join_tokenLines,
      Report.toList_join_tokenLines] at hchars
    refine (Report.tokenLines_append_inj (x := []) (y := []) (by simp) (by simp) ?_).1
    rw [List.append_nil, List.append_nil, hchars]
  · intro items others hlength hlength' hitems hothers h
    exact Report.text_injective hlength hlength' hitems hothers
      (congrArg String.toList (bytesOf_injective h))

/-- A lexeme that holds the end of its own line and the header of another input. The source texts,
which the report does not show, may differ. -/
theorem text_report_lossless_forged_header :
    let token : Token := ⟨.stringLiteral, "' at 1:1\n\n==> b.c <==\n", 1, 1⟩
    let items : List Scanned := [⟨⟨"a.c", "x"⟩, ⟨[token], []⟩⟩, ⟨⟨"b.c", ""⟩, ⟨[], []⟩⟩]
    let others : List Scanned := [⟨⟨"a.c", "y"⟩, ⟨[token], []⟩⟩, ⟨⟨"b.c", "z"⟩, ⟨[], []⟩⟩]
    2 ≤ items.length ∧ 2 ≤ others.length ∧
      (∀ item ∈ items, '\n' ∉ item.input.label.toList) ∧
      (∀ item ∈ others, '\n' ∉ item.input.label.toList) ∧
      bytesOf (Chunk.join (Report.text items)) = bytesOf (Chunk.join (Report.text others)) ∧
      List.Forall₂ Scanned.SameText items others := by
  intro token items others
  have hitems : ∀ item ∈ items, '\n' ∉ item.input.label.toList := by decide
  have hothers : ∀ item ∈ others, '\n' ∉ item.input.label.toList := by decide
  have hbytes : bytesOf (Chunk.join (Report.text items)) =
    bytesOf (Chunk.join (Report.text others)) := rfl
  exact ⟨by decide, by decide, hitems, hothers, hbytes,
    text_report_lossless.2.2 items others (by decide) (by decide) hitems hothers hbytes⟩

end TokenScan
