import TokenScan.Proofs.Motion
import Mathlib.Data.PFun

/-!
# The loops of the scanner

`Lexer.next` is put together from functions of the characters to come, and each of them is total: a
run of characters is a `takeWhile`, a comment is split at its mark. A scanner that reads in place
has loops instead. It looks at one character, passes it, and looks again, and such a loop might go
on for ever. The one that reads a number does not even test for the end of the text, and stops there
only because the NUL that is seen behind the last character is neither a digit nor a point. The one
that looks for the next token skips blanks and starts over, and would do so at the same place again
if what it takes for a blank were not what the skipping passes.

This module has the scanner with these loops. They are partial functions, built by `PFun.fix` from
one round: where a loop never ends it has no value, and a cut that fails has none either. The
scanner with loops always has a value, and it is that of `Lexer.next`.

## Main definitions

* `Cursor.passWhile`, `Cursor.passNumber`, `Cursor.passBody` — the loops that pass characters
* `Rule.readLoop` — what a rule finds at a cursor
* `Lexer.nextLoop`, `Lexer.finishLoop` — the loops that make a token, and all tokens

## Main results

* `Cursor.passWhile_eq`, `Cursor.passNumber_eq`, `Cursor.passBody_eq` — where each loop ends
* `Rule.readLoop_eq` — what a rule finds is the piece that it cuts off
* `Lexer.nextLoop_eq`, `Lexer.finishLoop_eq` — the scanner with loops is the scanner
-/

namespace TokenScan

open Text

/-! ### Rounds of a loop -/

section

variable {σ α : Type} {round : σ →. α ⊕ σ} {s t : σ} {a : α}

/-- A round that leaves the loop gives its value. -/
theorem fix_of_left (h : round s = Part.some (.inl a)) : round.fix s = Part.some a :=
  Part.eq_some_iff.mpr (PFun.fix_stop (Part.eq_some_iff.mp h))

/-- A round that does not leaves the value to the next one. -/
theorem fix_of_right (h : round s = Part.some (.inr t)) : round.fix s = round.fix t :=
  PFun.fix_fwd_eq (Part.eq_some_iff.mp h)

end

/-! ### Passing characters -/

namespace Cursor

/-- Passes one character after the other, as long as there is one and it satisfies `p`. -/
def passWhile (p : Char → Bool) : Cursor →. Cursor :=
  PFun.fix fun cursor => Part.some <|
    if cursor.atEnd = false ∧ p cursor.current = true then .inr cursor.advance.2 else .inl cursor

/-- Passes digits and at most one point, and says whether there was a point; `(true, _)` stands for
having passed one already. Whether the text has ended is not tested. -/
def passNumber : Bool × Cursor →. Bool × Cursor :=
  PFun.fix fun (pointSeen, cursor) => Part.some <|
    if isDigit cursor.current = true then .inr (pointSeen, cursor.advance.2)
    else if cursor.current = '.' ∧ pointSeen = false then .inr (true, cursor.advance.2)
    else .inl (pointSeen, cursor)

/-- Passes everything in front of the next closing mark of a block comment, and says whether there
is one. -/
def passBody : Cursor →. Bool × Cursor :=
  PFun.fix fun cursor => Part.some <|
    if cursor.atEnd = true then .inl (false, cursor)
    else if cursor.current = '*' ∧ cursor.peek 1 = '/' then .inl (true, cursor)
    else .inr cursor.advance.2

variable {cursor : Cursor} {c : Char} {rest : List Char} {p : Char → Bool}

/-- **The end that is seen.** A test that a NUL does not pass is passed by the character that is
seen only if that is really there. -/
theorem apply_current_iff (hnul : p '\x00' = false) :
    p cursor.current = true ↔ ∃ c rest, cursor.rest = c :: rest ∧ p c = true := by
  cases hrest : cursor.rest with
  | nil =>
    have hcurrent : cursor.current = '\x00' := by
      rw [current, peek, hrest]
      rfl
    simp [hcurrent, hnul]
  | cons c rest => simp [current_of_cons hrest]

theorem current_eq_iff (hnul : c ≠ '\x00') : cursor.current = c ↔ cursor.rest.head? = some c := by
  have hseen : (cursor.current == c) = true ↔
      ∃ d rest, cursor.rest = d :: rest ∧ (d == c) = true :=
    apply_current_iff (p := (· == c)) (by simpa using hnul.symm)
  simp only [beq_iff_eq] at hseen
  rw [hseen, List.head?_eq_some_iff]
  constructor
  · rintro ⟨c, rest, hrest, rfl⟩
    exact ⟨rest, hrest⟩
  · rintro ⟨rest, hrest⟩
    exact ⟨c, rest, hrest, rfl⟩

theorem passWhile_unfold (p : Char → Bool) (cursor : Cursor) :
    passWhile p cursor =
      if cursor.atEnd = false ∧ p cursor.current = true then passWhile p cursor.advance.2
      else Part.some cursor := by
  split
  · next h => exact fix_of_right (congrArg Part.some (if_pos h))
  · next h => exact fix_of_left (congrArg Part.some (if_neg h))

theorem passNumber_unfold (pointSeen : Bool) (cursor : Cursor) :
    passNumber (pointSeen, cursor) =
      if isDigit cursor.current = true then passNumber (pointSeen, cursor.advance.2)
      else if cursor.current = '.' ∧ pointSeen = false then passNumber (true, cursor.advance.2)
      else Part.some (pointSeen, cursor) := by
  split
  · next h => exact fix_of_right (congrArg Part.some (if_pos h))
  · next h =>
    split
    · next h' => exact fix_of_right (congrArg Part.some ((if_neg h).trans (if_pos h')))
    · next h' => exact fix_of_left (congrArg Part.some ((if_neg h).trans (if_neg h')))

theorem passBody_unfold (cursor : Cursor) :
    passBody cursor =
      if cursor.atEnd = true then Part.some (false, cursor)
      else if cursor.current = '*' ∧ cursor.peek 1 = '/' then Part.some (true, cursor)
      else passBody cursor.advance.2 := by
  split
  · next h => exact fix_of_left (congrArg Part.some (if_pos h))
  · next h =>
    split
    · next h' => exact fix_of_left (congrArg Part.some ((if_neg h).trans (if_pos h')))
    · next h' => exact fix_of_right (congrArg Part.some ((if_neg h).trans (if_neg h')))

theorem passWhile_eq (p : Char → Bool) (cursor : Cursor) :
    passWhile p cursor = Part.some (cursor.forwardWhile p) := by
  induction hrest : cursor.rest generalizing cursor with
  | nil =>
    rw [passWhile_unfold, forwardWhile_of_stop (by rw [hrest]; simp),
      if_neg (by simp [atEnd_of_nil hrest])]
  | cons c rest ih =>
    rw [passWhile_unfold, atEnd_of_cons hrest, current_of_cons hrest]
    cases hc : p c with
    | false =>
      rw [forwardWhile_of_stop (by rw [hrest]; simpa using hc), if_neg (by simp)]
    | true =>
      rw [if_pos ⟨rfl, rfl⟩, forwardWhile_of_cons hrest hc, ih _ (rest_advance_of_cons hrest)]

/-- Digits are passed whether there was a point or not. The loop goes on only where a digit stands,
so that it does not go on at the end. -/
theorem passNumber_of_digits (pointSeen : Bool) (cursor : Cursor) :
    passNumber (pointSeen, cursor) = passNumber (pointSeen, cursor.forwardWhile isDigit) := by
  induction hrest : cursor.rest generalizing cursor with
  | nil => rw [forwardWhile_of_stop (by rw [hrest]; simp)]
  | cons c rest ih =>
    cases hc : isDigit c with
    | false => rw [forwardWhile_of_stop (by rw [hrest]; simpa using hc)]
    | true =>
      rw [passNumber_unfold, current_of_cons hrest, if_pos hc, forwardWhile_of_cons hrest hc,
        ih _ (rest_advance_of_cons hrest)]

/-- Where no digit stands, and at the end, the loop ends or passes a point. -/
theorem passNumber_of_stop (pointSeen : Bool) (hstop : ∀ c ∈ cursor.rest.head?, isDigit c = false) :
    passNumber (pointSeen, cursor) =
      if cursor.rest.head? = some '.' ∧ pointSeen = false then passNumber (true, cursor.advance.2)
      else Part.some (pointSeen, cursor) := by
  have hdigit : ¬ isDigit cursor.current = true := by
    rw [apply_current_iff (by decide)]
    rintro ⟨c, rest, hrest, hc⟩
    rw [hstop c (by rw [hrest]; rfl)] at hc
    cases hc
  rw [passNumber_unfold, if_neg hdigit]
  simp only [current_eq_iff (show '.' ≠ '\x00' by decide)]

/-- **Reading a number ends.** It ends where the rule for numbers does, and has passed a point if
the one behind the first digits was accepted. -/
theorem passNumber_eq (cursor : Cursor) :
    passNumber (false, cursor) =
      Part.some (((cursor.forwardWhile isDigit).accept '.').1,
        (Rule.number.motion cursor).after) := by
  rw [passNumber_of_digits, passNumber_of_stop false (head?_forwardWhile isDigit cursor),
    Rule.motion]
  by_cases hpoint : (cursor.forwardWhile isDigit).rest.head? = some '.'
  · rw [if_pos ⟨hpoint, rfl⟩, accept_of_head? hpoint, passNumber_of_digits,
      passNumber_of_stop true (head?_forwardWhile isDigit _), if_neg (by simp)]
    rfl
  · rw [if_neg fun h => hpoint h.1, accept_of_not_head? hpoint]
    rfl

theorem length_le_splitAtClose (seen text : List Char) :
    seen.length ≤ (Piece.splitAtClose seen text).1.length := by
  fun_induction Piece.splitAtClose seen text with
  | case1 seen => simp
  | case2 seen rest => simp
  | case3 seen c rest hpair ih => exact Nat.le_of_succ_le ih

/-- Reading the body of a comment ends at its closing mark, or at the end of the text. -/
theorem passBody_eq (cursor : Cursor) :
    passBody cursor =
      Part.some ((Piece.splitAtClose [] cursor.rest).2,
        cursor.forward (Piece.splitAtClose [] cursor.rest).1.length) := by
  suffices h : ∀ seen text, ∀ cursor : Cursor, cursor.rest = text → passBody cursor =
      Part.some ((Piece.splitAtClose seen text).2,
        cursor.forward ((Piece.splitAtClose seen text).1.length - seen.length)) from
    h [] cursor.rest cursor rfl
  intro seen text
  fun_induction Piece.splitAtClose seen text with
  | case1 seen =>
    intro cursor hrest
    rw [passBody_unfold, if_pos (atEnd_of_nil hrest)]
    simp
  | case2 seen rest =>
    intro cursor hrest
    have hmark : cursor.current = '*' ∧ cursor.peek 1 = '/' := by
      rw [current_of_cons hrest, peek, hrest]
      exact ⟨rfl, rfl⟩
    rw [passBody_unfold, if_neg (by rw [atEnd_of_cons hrest]; simp), if_pos hmark]
    simp
  | case3 seen c rest hpair ih =>
    intro cursor hrest
    have hmark : ¬ (cursor.current = '*' ∧ cursor.peek 1 = '/') := by
      rw [current_of_cons hrest, peek, hrest]
      rintro ⟨rfl, hslash⟩
      cases rest with
      | nil => simp at hslash
      | cons d rest => exact hpair rest rfl (by simpa using hslash)
    have hle := length_le_splitAtClose (c :: seen) rest
    rw [passBody_unfold, if_neg (by rw [atEnd_of_cons hrest]; simp), if_neg hmark,
      ih _ (rest_advance_of_cons hrest), advance, forward_forward]
    rw [List.length_cons] at hle ⊢
    congr 3
    omega

end Cursor

/-! ### Rules -/

/-- What a rule finds at a cursor. -/
structure Reading where
  /-- The kind of the token. -/
  kind : TokenKind
  /-- The lexeme, cut out of the text. -/
  lexeme : List Char
  /-- What is malformed. -/
  warning? : Option Warning
  /-- Where the cursor is left. -/
  after : Cursor

namespace Rule

/-- What a rule finds at a cursor, by passing characters and cutting out the text between two
places. Whether something is malformed is seen where the cursor then stands. -/
def readLoop : Rule → Cursor →. Reading
  | .identifier, cursor => do
    let after ← Cursor.passWhile isIdentContinue cursor
    let word ← Part.ofOption (after.textFrom? cursor.location.offset)
    let isKeyword := (Keyword.ofSpelling? (String.ofList word)).isSome
    return ⟨if isKeyword then .keyword else .identifier, word, none, after⟩
  | .number, cursor => do
    let (pointSeen, after) ← Cursor.passNumber (false, cursor)
    let digits ← Part.ofOption (after.textFrom? cursor.location.offset)
    let split := pointSeen && after.current == '.'
    return ⟨.number, digits, if split then some .splitNumber else none, after⟩
  | .stringLiteral, cursor => do
    let first := cursor.advance.2
    let last ← Cursor.passWhile (· != '\"') first
    let body ← Part.ofOption (last.textFrom? first.location.offset)
    let (closed, after) := last.accept '\"'
    return ⟨.stringLiteral, body, if closed then none else some .unterminatedString, after⟩
  | .lineComment, cursor => do
    let first := cursor.forward 2
    let after ← Cursor.passWhile (· != '\n') first
    let body ← Part.ofOption (after.textFrom? first.location.offset)
    return ⟨.comment, body, none, after⟩
  | .blockComment, cursor => do
    let first := cursor.forward 2
    let (closed, last) ← Cursor.passBody first
    let body ← Part.ofOption (last.textFrom? first.location.offset)
    if closed then return ⟨.comment, body, none, last.forward 2⟩
    else return ⟨.comment, body, some .unterminatedComment, last⟩
  | .operator, cursor => do
    let (head?, last) := cursor.advance
    let after := if head?.any Piece.isComparisonHead then (last.accept '=').2 else last
    let sign ← Part.ofOption (after.textFrom? cursor.location.offset)
    return ⟨.operator, sign, none, after⟩

/-- What a rule finds if it cuts off a piece. -/
def reading (rule : Rule) (cursor : Cursor) : Reading :=
  let piece := rule.read cursor.rest
  ⟨piece.kind, piece.lexeme, piece.warning?, cursor.forward piece.raw.length⟩

variable {cursor : Cursor} {text : List Char}

theorem readLoop_identifier (h : cursor.StandsIn text) :
    identifier.readLoop cursor = Part.some (identifier.reading cursor) := by
  have hcuts := identifier.cuts_motion h
  have htext : (cursor.forwardWhile isIdentContinue).textFrom? cursor.location.offset =
      some (identifier.read cursor.rest).lexeme := hcuts.textFrom?_eq
  have hafter : cursor.forwardWhile isIdentContinue = _ := hcuts.after_eq
  simp only [readLoop, Cursor.passWhile_eq, Part.bind_eq_bind, Part.bind_some, htext,
    Part.ofOption, Part.pure_eq_some, reading, ← hafter]
  rfl

/-- A number is split at a second point, which is seen where the cursor then stands. -/
theorem warning?_number (cursor : Cursor) :
    (number.read cursor.rest).warning? =
      if (((cursor.forwardWhile isDigit).accept '.').1 &&
        (number.motion cursor).after.current == '.') = true then some .splitNumber else none := by
  have hwhole : (cursor.forwardWhile isDigit).rest = cursor.rest.dropWhile isDigit :=
    cursor.rest_forwardWhile isDigit
  by_cases hpoint : (cursor.rest.dropWhile isDigit).head? = some '.'
  · obtain ⟨rest, hrest⟩ := List.head?_eq_some_iff.mp hpoint
    have hbehind : (number.motion cursor).after.rest = rest.dropWhile isDigit := by
      rw [motion_number_point hpoint, Cursor.rest_forwardWhile, Cursor.rest_forward, hwhole, hrest]
      rfl
    rw [Cursor.accept_of_head? (by rwa [hwhole]), read_number_point hrest]
    simp only [Bool.true_and, beq_iff_eq, Cursor.current_eq_iff (show '.' ≠ '\x00' by decide),
      hbehind]
  · rw [Cursor.accept_of_not_head? (by rwa [hwhole]), read_number_whole hpoint]
    rfl

theorem readLoop_number (h : cursor.StandsIn text) :
    number.readLoop cursor = Part.some (number.reading cursor) := by
  have hcuts := number.cuts_motion h
  have htext : (number.motion cursor).after.textFrom? cursor.location.offset =
      some (number.read cursor.rest).lexeme := hcuts.textFrom?_eq
  have hkind : (number.read cursor.rest).kind = .number := by
    rw [read, Piece.number]
    split <;> rfl
  simp only [readLoop, Cursor.passNumber_eq, Part.bind_eq_bind, Part.bind_some, htext,
    Part.ofOption, Part.pure_eq_some, reading, ← hcuts.after_eq, hkind, warning?_number]

/-- A string is open if no quote is accepted behind its body. -/
theorem warning?_stringLiteral (cursor : Cursor) :
    (stringLiteral.read cursor.rest).warning? =
      if ((stringLiteral.motion cursor).last.accept '\"').1 = true then none
      else some .unterminatedString := by
  have hlast : (stringLiteral.motion cursor).last.rest =
      (cursor.rest.drop 1).dropWhile (· != '\"') := Cursor.rest_forwardWhile _ _
  rw [read, Piece.stringLiteral]
  split
  · next hrest =>
    rw [Cursor.accept_of_not_head? (by rw [hlast, hrest]; simp)]
    rfl
  · next c rest hrest =>
    have hquote : c = '\"' := eq_of_mem_head?_dropWhile_bne c (by rw [hrest]; rfl)
    rw [Cursor.accept_of_head? (by rw [hlast, hrest, hquote]; rfl)]
    rfl

theorem readLoop_stringLiteral (h : cursor.StandsIn text) :
    stringLiteral.readLoop cursor = Part.some (stringLiteral.reading cursor) := by
  have hcuts := stringLiteral.cuts_motion h
  have htext : (cursor.advance.2.forwardWhile (· != '\"')).textFrom?
      cursor.advance.2.location.offset = some (stringLiteral.read cursor.rest).lexeme :=
    hcuts.textFrom?_eq
  have hkind : (stringLiteral.read cursor.rest).kind = .stringLiteral := by
    rw [read, Piece.stringLiteral]
    split <;> rfl
  simp only [readLoop, Cursor.passWhile_eq, Part.bind_eq_bind, Part.bind_some, htext,
    Part.ofOption, Part.pure_eq_some, reading, ← hcuts.after_eq, hkind, warning?_stringLiteral]
  rfl

theorem readLoop_lineComment (h : cursor.StandsIn text) :
    lineComment.readLoop cursor = Part.some (lineComment.reading cursor) := by
  have hcuts := lineComment.cuts_motion h
  have htext : ((cursor.forward 2).forwardWhile (· != '\n')).textFrom?
      (cursor.forward 2).location.offset = some (lineComment.read cursor.rest).lexeme :=
    hcuts.textFrom?_eq
  simp only [readLoop, Cursor.passWhile_eq, Part.bind_eq_bind, Part.bind_some, htext,
    Part.ofOption, Part.pure_eq_some, reading, ← hcuts.after_eq]
  rfl

theorem readLoop_blockComment (h : cursor.StandsIn text) :
    blockComment.readLoop cursor = Part.some (blockComment.reading cursor) := by
  have hcuts := blockComment.cuts_motion h
  have htext : (blockComment.motion cursor).last.textFrom? (cursor.forward 2).location.offset =
      some (blockComment.read cursor.rest).lexeme := hcuts.textFrom?_eq
  have hpass : Cursor.passBody (cursor.forward 2) =
      Part.some ((Piece.splitAtClose [] (cursor.rest.drop 2)).2,
        (blockComment.motion cursor).last) := Cursor.passBody_eq _
  simp only [readLoop, hpass, Part.bind_eq_bind, Part.bind_some, htext, Part.ofOption,
    Part.pure_eq_some, reading, ← hcuts.after_eq]
  rcases exists_split_at_pair '*' '/' (cursor.rest.drop 2) with
    hopen | ⟨body, behind, hrest, hbody⟩
  · -- at the end, there is nothing left that the motion could pass behind the body
    have hsplit := Piece.splitAtClose_open hopen
    have hlast : (blockComment.motion cursor).last.rest = [] := by
      change ((cursor.rest.drop 2).drop
        (Piece.splitAtClose [] (cursor.rest.drop 2)).1.length) = []
      rw [hsplit, List.drop_length]
    have hstay : (blockComment.motion cursor).after = (blockComment.motion cursor).last :=
      Cursor.forward_of_atEnd (Cursor.atEnd_of_nil hlast) 2
    rw [hstay, hsplit, read, Piece.blockComment, hsplit]
    rfl
  · have hsplit := Piece.splitAtClose_closed hbody behind
    rw [← hrest] at hsplit
    rw [hsplit, read, Piece.blockComment, hsplit]
    rfl

theorem readLoop_operator (h : cursor.StandsIn text) :
    operator.readLoop cursor = Part.some (operator.reading cursor) := by
  have hcuts := operator.cuts_motion h
  have htext : (operator.motion cursor).after.textFrom? cursor.location.offset =
      some (operator.read cursor.rest).lexeme := hcuts.textFrom?_eq
  rw [motion] at htext
  simp only [readLoop, Part.bind_eq_bind, Part.bind_some, htext,
    Part.ofOption, Part.pure_eq_some, reading, ← hcuts.after_eq]
  rfl

/-- **What a rule finds is the piece that it cuts off.** Its loops end, and its cut does not
fail. -/
theorem readLoop_eq (rule : Rule) (h : cursor.StandsIn text) :
    rule.readLoop cursor = Part.some (rule.reading cursor) := by
  cases rule with
  | identifier => exact readLoop_identifier h
  | number => exact readLoop_number h
  | stringLiteral => exact readLoop_stringLiteral h
  | lineComment => exact readLoop_lineComment h
  | blockComment => exact readLoop_blockComment h
  | operator => exact readLoop_operator h

end Rule

/-! ### Tokens -/

namespace Lexer

/-- Lets a rule read at the cursor, with its loops. -/
def applyLoop (lexer : Lexer) : Rule →. Token × Lexer := fun rule => do
  let reading ← rule.readLoop lexer.cursor
  let token : Token := {
    kind := reading.kind
    lexeme := String.ofList reading.lexeme
    line := lexer.tokenStart.line
    column := lexer.tokenStart.column }
  let handler :=
    match reading.warning? with
    | some w => lexer.handler.emit (w.report (.between lexer.tokenStart reading.after.location))
    | none => lexer.handler
  return (token, { lexer with cursor := reading.after, handler := handler })

/-- The rule that the class of the next character selects, if it is not a blank, with the character
behind it if that is a slash. -/
def ruleAt? (cursor : Cursor) : Option Rule :=
  match classify cursor.current with
  | .whitespace => none
  | .identStart => some .identifier
  | .digit => some .number
  | .quote => some .stringLiteral
  | .slash =>
    if cursor.peek 1 = '/' then some .lineComment
    else if cursor.peek 1 = '*' then some .blockComment
    else some .operator
  | .other => some .operator

/-- The next token, or `none` at the end of the text. In front of blanks, a round of the loop passes
them and notes where they begin. -/
def nextLoop : Lexer →. Option Token × Lexer :=
  PFun.fix fun lexer =>
    if lexer.cursor.atEnd = true then Part.some (.inl (none, lexer))
    else
      match ruleAt? lexer.cursor with
      | none => do
        let cursor ← Cursor.passWhile isBlank lexer.cursor
        return .inr { lexer.mark with cursor := cursor }
      | some rule => do
        let (token, after) ← lexer.mark.applyLoop rule
        return .inl (some token, after)

/-- All tokens up to the end, behind those already found, and the scanner at the end. -/
def finishLoop : Array Token × Lexer →. Array Token × Lexer :=
  PFun.fix fun (found, lexer) => do
    match ← lexer.nextLoop with
    | (none, after) => return .inl (found, after)
    | (some token, after) => return .inr (found.push token, after)

variable {lexer : Lexer} {text : List Char}

theorem reaches_skipBlanks (lexer : Lexer) : lexer.cursor.Reaches lexer.skipBlanks.cursor := by
  rw [cursor_skipBlanks]
  exact lexer.cursor.reaches_forward _

theorem reaches_next (lexer : Lexer) : lexer.cursor.Reaches lexer.next.2.cursor := by
  rw [next]
  split
  · exact lexer.reaches_skipBlanks
  · exact lexer.reaches_skipBlanks.trans (Cursor.reaches_forward _ _)

theorem applyLoop_eq (rule : Rule) (h : lexer.cursor.StandsIn text) :
    lexer.applyLoop rule = Part.some (lexer.apply rule) := by
  rw [applyLoop, rule.readLoop_eq h, Part.bind_eq_bind, Part.bind_some]
  rfl

/-- In front of a character, the class of it and the character behind select the rule that
applies. -/
theorem ruleAt?_of_cons {cursor : Cursor} {c : Char} {rest : List Char}
    (hrest : cursor.rest = c :: rest) : ruleAt? cursor = Rule.ofText? cursor.rest := by
  rw [ruleAt?, Cursor.current_of_cons hrest, hrest]
  cases hclass : classify c with
  | slash =>
    simp only [Rule.ofText?, hclass, Cursor.peek, hrest, List.getD_cons_succ]
    cases rest with
    | nil => rfl
    | cons d rest =>
      rw [List.getD_cons_zero]
      by_cases hline : d = '/'
      · rw [if_pos hline, hline]
        rfl
      · by_cases hblock : d = '*'
        · rw [if_neg hline, if_pos hblock, hblock]
          rfl
        · rw [if_neg hline, if_neg hblock]
          split
          · next heq => exact absurd (List.head_eq_of_cons_eq heq) hline
          · next heq => exact absurd (List.head_eq_of_cons_eq heq) hblock
          · rfl
  | _ => simp only [Rule.ofText?, hclass]

/-- A round that starts in front of blanks passes them. They are passed because they are what the
class says, and so the next round does not start at the same place. -/
theorem nextLoop_of_blank {c : Char} {rest : List Char} (hrest : lexer.cursor.rest = c :: rest)
    (hc : isBlank c = true) : lexer.nextLoop = lexer.skipBlanks.nextLoop := by
  have hrule : ruleAt? lexer.cursor = none := by
    rw [ruleAt?_of_cons hrest, Rule.ofText?_eq_none_iff, hrest]
    simpa using hc
  have hskip : lexer.skipBlanks =
      { lexer.mark with cursor := lexer.cursor.forwardWhile isBlank } := by
    simp only [skipBlanks, hrest, hc, if_true]
  refine fix_of_right ?_
  rw [if_neg (by rw [Cursor.atEnd_of_cons hrest]; simp), hrule, hskip]
  simp only [Cursor.passWhile_eq, Part.bind_eq_bind, Part.bind_some]
  rfl

/-- Where no blank stands, the first round ends the loop. -/
theorem nextLoop_of_stop (h : lexer.cursor.StandsIn text)
    (hstop : ∀ c ∈ lexer.cursor.rest.head?, isBlank c = false) :
    lexer.nextLoop = Part.some (
      match Rule.ofText? lexer.cursor.rest with
      | none => (none, lexer)
      | some rule =>
        let (token, after) := lexer.mark.apply rule
        (some token, after)) := by
  refine fix_of_left ?_
  cases hrest : lexer.cursor.rest with
  | nil => exact if_pos (Cursor.atEnd_of_nil hrest)
  | cons c rest =>
    have hc : isBlank c = false := hstop c (by rw [hrest]; rfl)
    have hsome : Rule.ofText? (c :: rest) ≠ none := by
      rw [ne_eq, Rule.ofText?_eq_none_iff]
      simp [hc]
    obtain ⟨rule, hrule⟩ := Option.ne_none_iff_exists'.mp hsome
    have hmark : lexer.mark.cursor.StandsIn text := h
    rw [if_neg (by rw [Cursor.atEnd_of_cons hrest]; simp), ruleAt?_of_cons hrest, hrest, hrule]
    simp only [applyLoop_eq rule hmark, Part.bind_eq_bind, Part.bind_some]
    rfl

theorem skipBlanks_of_stop (hstop : ∀ c ∈ lexer.cursor.rest.head?, isBlank c = false) :
    lexer.skipBlanks = lexer := by
  rw [skipBlanks]
  split
  · next c rest hrest =>
    have hc : isBlank c = false := hstop c (by rw [hrest]; rfl)
    rw [hc]
    rfl
  · rfl

/-- **The next token.** The loop ends, and does what the scanner does. -/
theorem nextLoop_eq (h : lexer.cursor.StandsIn text) : lexer.nextLoop = Part.some lexer.next := by
  have hskipped : lexer.nextLoop = lexer.skipBlanks.nextLoop := by
    cases hrest : lexer.cursor.rest with
    | nil => rw [skipBlanks_of_stop (by rw [hrest]; simp)]
    | cons c rest =>
      cases hc : isBlank c with
      | true => exact nextLoop_of_blank hrest hc
      | false => rw [skipBlanks_of_stop (by rw [hrest]; simpa using hc)]
  have hstop : ∀ c ∈ lexer.skipBlanks.cursor.rest.head?, isBlank c = false := by
    rw [cursor_skipBlanks]
    exact Cursor.head?_forwardWhile isBlank lexer.cursor
  rw [hskipped, nextLoop_of_stop (h.of_reaches lexer.reaches_skipBlanks) hstop]
  rfl

/-- **All tokens.** The loop that asks for one token after the other ends. -/
theorem finishLoop_eq (h : lexer.cursor.StandsIn text) (found : Array Token) :
    finishLoop (found, lexer) = Part.some (finishFrom found lexer) := by
  fun_induction finishFrom found lexer with
  | case1 found lexer after hnext =>
    refine fix_of_left ?_
    simp only [nextLoop_eq h, Part.bind_eq_bind, Part.bind_some, hnext]
    rfl
  | case2 found lexer token after hnext ih =>
    have hafter : after.cursor.StandsIn text := by
      have hreach := lexer.reaches_next
      rw [hnext] at hreach
      exact h.of_reaches hreach
    refine (fix_of_right ?_).trans (ih hafter)
    simp only [nextLoop_eq h, Part.bind_eq_bind, Part.bind_some, hnext]
    rfl

end Lexer

end TokenScan
