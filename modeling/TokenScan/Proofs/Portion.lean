import TokenScan.Scan
import Mathlib.Data.List.TakeWhile

/-!
# A scan, taken apart

What the scanner does depends on the characters to come and on nothing else; its location and its
handler are only carried along. A `Portion` is what one step takes from a text, the blanks in front
and the piece behind them, and `portions` is what a whole run takes. Tokens and reports are then
made from the portions and the places where they begin.

Everything about runs of the scanner is proved about `portions`, a function of a list of
characters. `Portion.induction` is the one induction for it.

## Main definitions

* `Portion.ofText?`, `portions` — what one step takes from a text, and what all steps take
* `tokensFrom`, `reportsFrom` — the tokens and the reports of portions that begin at a location

## Main results

* `Portion.ofText?_eq_some_iff` — a portion is blanks and a piece
* `Lexer.next_of_portion`, `Lexer.next_of_blank` — a step of the scanner takes a portion
* `Lexer.tokens_finish`, `Lexer.toList_handler_finish` — a run of the scanner takes them all
-/

namespace TokenScan

open Text

/-! ### Runs of characters -/

namespace Text

/-- The longest run of characters that satisfy `p` is followed by one that does not. -/
theorem eq_false_of_mem_head?_dropWhile {p : Char → Bool} {text : List Char} :
    ∀ c ∈ (text.dropWhile p).head?, p c = false := by
  intro c hc
  have hnot := List.head?_dropWhile_not p text
  rw [Option.mem_def.mp hc] at hnot
  simpa using hnot

/-- What stands behind the characters in front of the first `c` begins with that `c`. -/
theorem eq_of_mem_head?_dropWhile_bne {c : Char} {text : List Char} :
    ∀ d ∈ (text.dropWhile (· != c)).head?, d = c := by
  intro d hd
  simpa using eq_false_of_mem_head?_dropWhile d hd

theorem takeWhile_append_stop {p : Char → Bool} {run after : List Char}
    (inside : ∀ d ∈ run, p d = true) (stop : ∀ d ∈ after.head?, p d = false) :
    (run ++ after).takeWhile p = run := by
  rw [List.takeWhile_append_of_pos inside]
  cases after with
  | nil => simp
  | cons d rest => simp [stop d rfl]

theorem dropWhile_append_stop {p : Char → Bool} {run after : List Char}
    (inside : ∀ d ∈ run, p d = true) (stop : ∀ d ∈ after.head?, p d = false) :
    (run ++ after).dropWhile p = after := by
  rw [List.dropWhile_append_of_pos inside]
  cases after with
  | nil => simp
  | cons d rest => simp [stop d rfl]

end Text

/-! ### Pieces -/

/-- The piece at the very front of a text, cut off by the rule that applies. -/
def Piece.ofText? (text : List Char) : Option Piece :=
  (Rule.ofText? text).map fun rule => rule.read text

theorem Rule.ofText?_eq_none_iff {text : List Char} :
    Rule.ofText? text = none ↔ ∀ c ∈ text.head?, isBlank c = true := by
  cases text with
  | nil => simp [Rule.ofText?]
  | cons c rest =>
    have hhead : (∀ d ∈ (c :: rest).head?, isBlank d = true) ↔ classify c = .whitespace := by
      rw [classify_eq_whitespace_iff]
      simp
    rw [hhead]
    cases hclass : classify c with
    | slash =>
      simp only [Rule.ofText?, hclass]
      split <;> simp
    | _ => simp [Rule.ofText?, hclass]

namespace Piece

theorem ofText?_eq_none_iff {text : List Char} :
    ofText? text = none ↔ ∀ c ∈ text.head?, isBlank c = true := by
  rw [ofText?, Option.map_eq_none_iff, Rule.ofText?_eq_none_iff]

/-- A piece is taken from a text that begins with a character that is not blank. -/
theorem exists_eq_cons {text : List Char} {piece : Piece} (h : ofText? text = some piece) :
    ∃ c rest, text = c :: rest ∧ isBlank c = false := by
  have hsome : ¬ ofText? text = none := by rw [h]; simp
  rw [ofText?_eq_none_iff] at hsome
  cases text with
  | nil => simp at hsome
  | cons c rest => exact ⟨c, rest, rfl, by simpa using hsome⟩

theorem raw_isPrefix {text : List Char} {piece : Piece} (h : ofText? text = some piece) :
    piece.raw <+: text := by
  obtain ⟨rule, -, rfl⟩ := Option.map_eq_some_iff.mp h
  exact rule.raw_read_isPrefix text

theorem raw_ne_nil {text : List Char} {piece : Piece} (h : ofText? text = some piece) :
    piece.raw ≠ [] := by
  obtain ⟨rule, hrule, rfl⟩ := Option.map_eq_some_iff.mp h
  exact Rule.raw_read_ne_nil hrule

end Piece

/-! ### One step -/

/-- What one step of the scanner takes from a text. -/
structure Portion where
  /-- The blanks in front. -/
  gap : List Char
  /-- The piece behind them. -/
  piece : Piece

namespace Portion

/-- The first portion of a text, or `none` if the text is blank. -/
def ofText? (text : List Char) : Option Portion :=
  (Piece.ofText? (text.dropWhile isBlank)).map fun piece => ⟨text.takeWhile isBlank, piece⟩

/-- All the characters of a portion. -/
def chars (portion : Portion) : List Char := portion.gap ++ portion.piece.raw

/-- The token of a portion that begins at a location. -/
def token (portion : Portion) (l : Location) : Token where
  kind := portion.piece.kind
  lexeme := String.ofList portion.piece.lexeme
  line := (l.past portion.gap).line
  column := (l.past portion.gap).column

/-- The report about a portion that begins at a location, if there is one. -/
def report? (portion : Portion) (l : Location) : Option Diagnostic :=
  portion.piece.warning?.map fun w =>
    w.report (.between (l.past portion.gap) (l.past portion.chars))

theorem ofText?_eq_none_iff {text : List Char} :
    ofText? text = none ↔ ∀ c ∈ text, isBlank c = true := by
  rw [ofText?, Option.map_eq_none_iff, Piece.ofText?_eq_none_iff, ← List.dropWhile_eq_nil_iff]
  constructor
  · intro h
    cases hdrop : text.dropWhile isBlank with
    | nil => rfl
    | cons c rest =>
      have hfalse : isBlank c = false := eq_false_of_mem_head?_dropWhile c (by rw [hdrop]; rfl)
      rw [hdrop] at h
      have htrue : isBlank c = true := h c rfl
      rw [htrue] at hfalse
      cases hfalse
  · intro h
    simp [h]

/-- **A portion is blanks and a piece.** The blanks are all that stand in front, for no piece
begins with one. -/
theorem ofText?_eq_some_iff {text : List Char} {portion : Portion} :
    ofText? text = some portion ↔
      (∀ c ∈ portion.gap, isBlank c = true) ∧
        ∃ behind, text = portion.gap ++ behind ∧ Piece.ofText? behind = some portion.piece := by
  constructor
  · intro h
    obtain ⟨piece, hpiece, rfl⟩ := Option.map_eq_some_iff.mp h
    refine ⟨fun c hc => List.mem_takeWhile_imp hc, text.dropWhile isBlank, ?_, hpiece⟩
    exact List.takeWhile_append_dropWhile.symm
  · rintro ⟨hgap, behind, rfl, hpiece⟩
    obtain ⟨c, rest, rfl, hc⟩ := Piece.exists_eq_cons hpiece
    have hstop : ∀ d ∈ (c :: rest).head?, isBlank d = false := by simpa using hc
    rw [ofText?, takeWhile_append_stop hgap hstop, dropWhile_append_stop hgap hstop, hpiece]
    rfl

/-- A portion is the front of the text that it was taken from. -/
theorem exists_rest {text : List Char} {portion : Portion} (h : ofText? text = some portion) :
    ∃ rest, text = portion.chars ++ rest ∧
      Piece.ofText? (portion.piece.raw ++ rest) = some portion.piece := by
  obtain ⟨-, behind, rfl, hpiece⟩ := ofText?_eq_some_iff.mp h
  obtain ⟨rest, rfl⟩ := Piece.raw_isPrefix hpiece
  exact ⟨rest, (List.append_assoc ..).symm, hpiece⟩

theorem chars_ne_nil {text : List Char} {portion : Portion} (h : ofText? text = some portion) :
    portion.chars ≠ [] := by
  obtain ⟨-, behind, -, hpiece⟩ := ofText?_eq_some_iff.mp h
  exact List.append_ne_nil_of_right_ne_nil _ (Piece.raw_ne_nil hpiece)

end Portion

/-! ### All steps -/

/-- What the scanner takes from a text, up to the blanks at its end. -/
def portions (text : List Char) : List Portion :=
  match _h : Portion.ofText? text with
  | none => []
  | some portion => portion :: portions (text.drop portion.chars.length)
termination_by text.length
decreasing_by
  obtain ⟨rest, rfl, -⟩ := Portion.exists_rest _h
  have hpos := List.length_pos_iff.mpr (Portion.chars_ne_nil _h)
  simp only [List.drop_left, List.length_append]
  omega

/-- The blanks at the end of a text, behind the last piece. -/
def blankEnd (text : List Char) : List Char :=
  text.drop ((portions text).flatMap Portion.chars).length

theorem portions_of_none {text : List Char} (h : Portion.ofText? text = none) :
    portions text = [] := by
  rw [portions]
  split
  · rfl
  · next hsome => rw [h] at hsome; simp at hsome

theorem portions_of_some {portion : Portion} {rest : List Char}
    (h : Portion.ofText? (portion.chars ++ rest) = some portion) :
    portions (portion.chars ++ rest) = portion :: portions rest := by
  rw [portions]
  split
  · next hnone => rw [h] at hnone; simp at hnone
  · next other hother =>
    rw [h] at hother
    obtain rfl := Option.some.inj hother
    rw [List.drop_left]

/-- A text is either blank, or a portion in front of another text. -/
@[elab_as_elim]
theorem Portion.induction {motive : List Char → Prop} (text : List Char)
    (blank : ∀ text, Portion.ofText? text = none → motive text)
    (cons : ∀ portion rest, Portion.ofText? (portion.chars ++ rest) = some portion →
      motive rest → motive (portion.chars ++ rest)) : motive text := by
  induction hlen : text.length using Nat.strongRecOn generalizing text with
  | ind n ih =>
    cases hportion : Portion.ofText? text with
    | none => exact blank text hportion
    | some portion =>
      obtain ⟨rest, rfl, -⟩ := Portion.exists_rest hportion
      have hpos := List.length_pos_iff.mpr (Portion.chars_ne_nil hportion)
      rw [List.length_append] at hlen
      exact cons portion rest hportion (ih rest.length (by omega) rest rfl)

theorem blankEnd_of_none {text : List Char} (h : Portion.ofText? text = none) :
    blankEnd text = text := by
  simp [blankEnd, portions_of_none h]

theorem blankEnd_of_some {portion : Portion} {rest : List Char}
    (h : Portion.ofText? (portion.chars ++ rest) = some portion) :
    blankEnd (portion.chars ++ rest) = blankEnd rest := by
  rw [blankEnd, portions_of_some h, List.flatMap_cons, List.length_append, ← List.drop_drop,
    List.drop_left, blankEnd]

/-- The portions of a text and the blanks at its end are the text. -/
theorem flatMap_chars_append_blankEnd (text : List Char) :
    (portions text).flatMap Portion.chars ++ blankEnd text = text := by
  induction text using Portion.induction with
  | blank text h => rw [portions_of_none h, blankEnd_of_none h, List.flatMap_nil, List.nil_append]
  | cons portion rest h ih =>
    rw [portions_of_some h, blankEnd_of_some h, List.flatMap_cons, List.append_assoc, ih]

/-! ### Where the portions begin -/

/-- Portions that follow one another from a location on, each with the place where it begins. -/
def placed (l : Location) : List Portion → List (Location × Portion)
  | [] => []
  | portion :: rest => (l, portion) :: placed (l.past portion.chars) rest

/-- The tokens of portions that follow one another from a location on. -/
def tokensFrom (l : Location) (list : List Portion) : List Token :=
  (placed l list).map fun p => p.2.token p.1

/-- The reports about portions that follow one another from a location on. -/
def reportsFrom (l : Location) (list : List Portion) : List Diagnostic :=
  (placed l list).filterMap fun p => p.2.report? p.1

@[simp] theorem tokensFrom_nil (l : Location) : tokensFrom l [] = [] := rfl

@[simp] theorem tokensFrom_cons (l : Location) (portion : Portion) (rest : List Portion) :
    tokensFrom l (portion :: rest) = portion.token l :: tokensFrom (l.past portion.chars) rest :=
  rfl

@[simp] theorem reportsFrom_nil (l : Location) : reportsFrom l [] = [] := rfl

@[simp] theorem reportsFrom_cons (l : Location) (portion : Portion) (rest : List Portion) :
    reportsFrom l (portion :: rest) =
      (portion.report? l).toList ++ reportsFrom (l.past portion.chars) rest := by
  cases h : portion.report? l <;> simp [reportsFrom, placed, h]

section

variable (l : Location) (list later : List Portion)

theorem placed_append :
    placed l (list ++ later) =
      placed l list ++ placed (l.past (list.flatMap Portion.chars)) later := by
  induction list generalizing l with
  | nil => rfl
  | cons portion rest ih =>
    rw [List.cons_append, placed, placed, ih, List.flatMap_cons, Location.past_append,
      List.cons_append]

theorem tokensFrom_append :
    tokensFrom l (list ++ later) =
      tokensFrom l list ++ tokensFrom (l.past (list.flatMap Portion.chars)) later := by
  rw [tokensFrom, placed_append, List.map_append]
  rfl

theorem reportsFrom_append :
    reportsFrom l (list ++ later) =
      reportsFrom l list ++ reportsFrom (l.past (list.flatMap Portion.chars)) later := by
  rw [reportsFrom, placed_append, List.filterMap_append]
  rfl

end

/-! ### The scanner takes portions -/

namespace Handler

/-- Adds a report behind the others, if there is one. -/
def emit? (handler : Handler) (d? : Option Diagnostic) : Handler := d?.elim handler handler.emit

@[simp] theorem toList_emit? (handler : Handler) (d? : Option Diagnostic) :
    (handler.emit? d?).toList = handler.toList ++ d?.toList := by
  cases d? <;> simp [emit?]

end Handler

namespace Cursor

theorem forward_of_append {cursor : Cursor} {taken behind : List Char}
    (h : cursor.rest = taken ++ behind) :
    (cursor.forward taken.length).rest = behind ∧
      (cursor.forward taken.length).location = cursor.location.past taken := by
  rw [rest_forward, location_forward, h, List.drop_left, List.take_left]
  exact ⟨rfl, rfl⟩

@[simp] theorem forward_zero (cursor : Cursor) : cursor.forward 0 = cursor := rfl

theorem forward_forward (cursor : Cursor) (m n : Nat) :
    (cursor.forward m).forward n = cursor.forward (m + n) := by
  simp only [forward, List.take_add, Location.past_append, List.drop_drop, List.reverseAux_eq,
    List.reverse_append, List.append_assoc]

@[simp] theorem rest_forwardWhile (cursor : Cursor) (p : Char → Bool) :
    (cursor.forwardWhile p).rest = cursor.rest.dropWhile p := by
  calc (cursor.forwardWhile p).rest
      = (cursor.rest.takeWhile p ++ cursor.rest.dropWhile p).drop
          (cursor.rest.takeWhile p).length := by
        rw [forwardWhile, rest_forward, List.takeWhile_append_dropWhile]
    _ = cursor.rest.dropWhile p := List.drop_left

@[simp] theorem location_forwardWhile (cursor : Cursor) (p : Char → Bool) :
    (cursor.forwardWhile p).location = cursor.location.past (cursor.rest.takeWhile p) := by
  rw [forwardWhile, location_forward, ← List.prefix_iff_eq_take.mp (List.takeWhile_prefix p)]

end Cursor

namespace Lexer

theorem cursor_skipBlanks (lexer : Lexer) :
    lexer.skipBlanks.cursor = lexer.cursor.forwardWhile isBlank := by
  unfold skipBlanks
  split
  · split
    · rfl
    · simp_all [Cursor.forwardWhile]
  · simp_all [Cursor.forwardWhile]

@[simp] theorem handler_skipBlanks (lexer : Lexer) :
    lexer.skipBlanks.handler = lexer.handler := by
  unfold skipBlanks
  split
  · split <;> rfl
  · rfl

theorem rest_skipBlanks_eq_nil {lexer : Lexer} (h : Portion.ofText? lexer.cursor.rest = none) :
    lexer.skipBlanks.cursor.rest = [] := by
  rw [cursor_skipBlanks, Cursor.rest_forwardWhile]
  exact List.dropWhile_eq_nil_iff.mpr (Portion.ofText?_eq_none_iff.mp h)

theorem next_of_blank {lexer : Lexer} (h : Portion.ofText? lexer.cursor.rest = none) :
    lexer.next = (none, lexer.skipBlanks) := by
  have hnone : Rule.ofText? lexer.skipBlanks.cursor.rest = none := by
    rw [rest_skipBlanks_eq_nil h]
    rfl
  rw [next]
  split
  · rfl
  · next hsome => rw [hnone] at hsome; simp at hsome

/-- **A step of the scanner takes a portion.** -/
theorem next_of_portion {lexer : Lexer} {portion : Portion}
    (h : Portion.ofText? lexer.cursor.rest = some portion) :
    lexer.next = (some (portion.token lexer.cursor.location),
      { cursor := lexer.cursor.forward portion.chars.length
        tokenStart := lexer.cursor.location.past portion.gap
        handler := lexer.handler.emit? (portion.report? lexer.cursor.location) }) := by
  have htake : lexer.cursor.rest.take portion.chars.length = portion.chars := by
    obtain ⟨rest, hrest, -⟩ := Portion.exists_rest h
    rw [hrest, List.take_left]
  obtain ⟨piece, hpiece, rfl⟩ := Option.map_eq_some_iff.mp h
  obtain ⟨rule, hrule, rfl⟩ := Option.map_eq_some_iff.mp hpiece
  have hrest : lexer.skipBlanks.cursor.rest = lexer.cursor.rest.dropWhile isBlank := by
    rw [cursor_skipBlanks, Cursor.rest_forwardWhile]
  have hcursor : ∀ n, lexer.skipBlanks.cursor.forward n =
      lexer.cursor.forward ((lexer.cursor.rest.takeWhile isBlank).length + n) := by
    intro n
    rw [cursor_skipBlanks, Cursor.forwardWhile, Cursor.forward_forward]
  rw [next]
  split
  · next hnone => rw [hrest, hrule] at hnone; simp at hnone
  · next other hother =>
    rw [hrest, hrule] at hother
    obtain rfl := Option.some.inj hother
    simp only [apply, mark, hrest, hcursor, handler_skipBlanks, Cursor.location_forward,
      ← List.length_append]
    rw [Portion.chars] at htake ⊢
    rw [htake, cursor_skipBlanks, Cursor.location_forwardWhile]
    cases hw : (rule.read (lexer.cursor.rest.dropWhile isBlank)).warning? with
    | none => simp [Portion.token, Portion.report?, Handler.emit?, hw]
    | some w => simp [Portion.token, Portion.report?, Portion.chars, Handler.emit?, hw]

/-- A run of the scanner, up to the tokens that it had found before and the handler that it was
given. -/
theorem finishFrom_eq (found : Array Token) (lexer : Lexer) :
    (finishFrom found lexer).1.toList =
        found.toList ++ tokensFrom lexer.cursor.location (portions lexer.cursor.rest) ∧
      (finishFrom found lexer).2.handler.toList =
        lexer.handler.toList ++
          reportsFrom lexer.cursor.location (portions lexer.cursor.rest) := by
  generalize htext : lexer.cursor.rest = text
  induction text using Portion.induction generalizing found lexer with
  | blank text h =>
    subst htext
    rw [finishFrom, portions_of_none h]
    split
    · next after hafter =>
      rw [next_of_blank h] at hafter
      obtain ⟨-, rfl⟩ := Prod.mk.inj hafter
      simp
    · next token after hafter => rw [next_of_blank h] at hafter; simp at hafter
  | cons portion rest h ih =>
    have hportion : Portion.ofText? lexer.cursor.rest = some portion := by rw [htext, h]
    rw [finishFrom, portions_of_some h]
    split
    · next after hafter => rw [next_of_portion hportion] at hafter; simp at hafter
    · next token after hafter =>
      rw [next_of_portion hportion] at hafter
      obtain ⟨htoken, rfl⟩ := Prod.mk.inj hafter
      obtain rfl := Option.some.inj htoken
      obtain ⟨hrest, hlocation⟩ := Cursor.forward_of_append htext
      obtain ⟨htokens, hreports⟩ := ih (found.push (portion.token lexer.cursor.location))
        { cursor := lexer.cursor.forward portion.chars.length
          tokenStart := lexer.cursor.location.past portion.gap
          handler := lexer.handler.emit? (portion.report? lexer.cursor.location) } hrest
      rw [htokens, hreports, hlocation]
      simp

/-- **A run of the scanner takes all portions.** Its tokens are theirs. -/
theorem tokens_finish (lexer : Lexer) :
    lexer.finish.1 = tokensFrom lexer.cursor.location (portions lexer.cursor.rest) :=
  (finishFrom_eq #[] lexer).1.trans (List.nil_append _)

/-- The handler has the reports about the portions behind what it had before. -/
theorem toList_handler_finish (lexer : Lexer) :
    lexer.finish.2.handler.toList =
      lexer.handler.toList ++ reportsFrom lexer.cursor.location (portions lexer.cursor.rest) :=
  (finishFrom_eq #[] lexer).2

end Lexer

namespace Scan

theorem tokens_ofText (source : String) :
    (ofText source).tokens = tokensFrom .start (portions source.toList) :=
  Lexer.tokens_finish (.ofText source.toList .empty)

theorem diagnostics_ofText (source : String) :
    (ofText source).diagnostics = reportsFrom .start (portions source.toList) :=
  (Lexer.toList_handler_finish (.ofText source.toList .empty)).trans (List.nil_append _)

end Scan

end TokenScan
