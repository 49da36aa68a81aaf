import TokenScan.Proofs.Grammar
import TokenScan.Proofs.Position

/-!
# How a rule moves a cursor

A rule takes characters from a list, where nothing can go wrong. What could go wrong is hidden
there: a cursor reads a character at a time, and cuts a lexeme out of the text between two byte
offsets, which fails between the bytes of a character. `Rule.motion` says how a rule moves a cursor,
and `Rule.cuts_motion` that the cut between two of its places never fails.

All of it rests on one fact. A cursor that goes forward stands in the same text at every place, and
its location is the one that is counted from what lies before it.

## Main definitions

* `Cursor.Reaches` — a cursor gets to another one by going forward
* `Cursor.StandsIn` — a cursor stands in a text
* `Rule.motion` — where a rule begins its lexeme, where it ends it, and where it leaves the cursor
* `Text.IsPlace`, `Span.Fits` — a place in a text, and a span that is about a stretch of it

## Main results

* `Cursor.StandsIn.textFrom?_of_reaches` — a cut between two places of a cursor does not fail
* `Rule.moves`, `Rule.cuts_motion` — the motion of a rule takes what the rule takes
-/

namespace TokenScan

open Text

/-! ### Going forward -/

namespace Cursor

/-- A cursor gets to another one by passing characters. It passes one after the other, so on its way
it visits every place in between. -/
def Reaches (cursor later : Cursor) : Prop := ∃ n, later = cursor.forward n

/-- A cursor stands in a text, at the place that its location says. -/
structure StandsIn (cursor : Cursor) (text : List Char) : Prop where
  /-- The characters on both sides are the text. -/
  append_eq : cursor.before ++ cursor.rest = text
  /-- The location is the one behind the characters that were passed. -/
  location_eq : cursor.location = Location.start.past cursor.before

variable {cursor later last : Cursor} {text rest : List Char} {c : Char} {p : Char → Bool}

theorem reaches_forward (cursor : Cursor) (n : Nat) : cursor.Reaches (cursor.forward n) := ⟨n, rfl⟩

theorem Reaches.refl (cursor : Cursor) : cursor.Reaches cursor := ⟨0, rfl⟩

theorem Reaches.trans (h : cursor.Reaches later) (h' : later.Reaches last) :
    cursor.Reaches last := by
  obtain ⟨m, rfl⟩ := h
  obtain ⟨n, rfl⟩ := h'
  exact ⟨m + n, forward_forward cursor m n⟩

/-- Going forward passes the front of what is left. -/
theorem Reaches.exists_taken (h : cursor.Reaches later) :
    ∃ taken, later.before = cursor.before ++ taken ∧ cursor.rest = taken ++ later.rest ∧
      later.location = cursor.location.past taken := by
  obtain ⟨n, rfl⟩ := h
  exact ⟨cursor.rest.take n, before_forward .., (List.take_append_drop ..).symm, rfl⟩

/-- At the end of the text no motion leads anywhere. -/
theorem forward_of_atEnd (h : cursor.atEnd = true) (n : Nat) : cursor.forward n = cursor := by
  rcases cursor with ⟨passed, rest, location⟩
  obtain rfl : rest = [] := List.isEmpty_iff.mp h
  simp [forward]

/-- How far a cursor has gone can be told from what is left. -/
theorem Reaches.eq_forward (h : cursor.Reaches later) {taken : List Char}
    (hrest : cursor.rest = taken ++ later.rest) : later = cursor.forward taken.length := by
  obtain ⟨n, rfl⟩ := h
  rw [rest_forward] at hrest
  have htaken : cursor.rest.take n = taken := by
    conv_lhs at hrest => rw [← List.take_append_drop n cursor.rest]
    exact List.append_cancel_right hrest
  have hlength : taken.length = min n cursor.rest.length := by rw [← htaken, List.length_take]
  rcases Nat.le_total n cursor.rest.length with hn | hn
  · rw [hlength, Nat.min_eq_left hn]
  · -- no motion goes past the end
    rw [hlength, Nat.min_eq_right hn, forward, forward, List.take_of_length_le hn,
      List.take_length, List.drop_of_length_le hn, List.drop_length]

theorem current_of_cons (h : cursor.rest = c :: rest) : cursor.current = c := by
  rw [current, peek, h]
  rfl

theorem atEnd_of_cons (h : cursor.rest = c :: rest) : cursor.atEnd = false := by
  rw [atEnd, h]
  rfl

theorem atEnd_of_nil (h : cursor.rest = []) : cursor.atEnd = true := List.isEmpty_iff.mpr h

theorem rest_advance_of_cons (h : cursor.rest = c :: rest) : cursor.advance.2.rest = rest := by
  rw [advance, rest_forward, h]
  rfl

theorem forwardWhile_of_stop (h : ∀ c ∈ cursor.rest.head?, p c = false) :
    cursor.forwardWhile p = cursor := by
  have hnone : cursor.rest.takeWhile p = [] := takeWhile_append_stop (List.forall_mem_nil _) h
  rw [forwardWhile, hnone]
  rfl

theorem forwardWhile_of_cons (hrest : cursor.rest = c :: rest) (hc : p c = true) :
    cursor.forwardWhile p = cursor.advance.2.forwardWhile p := by
  rw [forwardWhile, forwardWhile, rest_advance_of_cons hrest, advance, forward_forward, hrest,
    List.takeWhile_cons, hc, if_pos rfl, List.length_cons, Nat.add_comm]

theorem head?_forwardWhile (p : Char → Bool) (cursor : Cursor) :
    ∀ c ∈ (cursor.forwardWhile p).rest.head?, p c = false := by
  rw [rest_forwardWhile]
  exact eq_false_of_mem_head?_dropWhile

theorem accept_of_head? (h : cursor.rest.head? = some c) :
    cursor.accept c = (true, cursor.forward 1) := by rw [accept, if_pos h]

theorem accept_of_not_head? (h : ¬ cursor.rest.head? = some c) :
    cursor.accept c = (false, cursor) := by rw [accept, if_neg h]

theorem standsIn_ofText (text : List Char) : (ofText text).StandsIn text where
  append_eq := rfl
  location_eq := rfl

theorem StandsIn.of_reaches (h : cursor.StandsIn text) (hreach : cursor.Reaches later) :
    later.StandsIn text := by
  obtain ⟨taken, hbefore, hrest, hlocation⟩ := hreach.exists_taken
  constructor
  · rw [hbefore, List.append_assoc, ← hrest, h.append_eq]
  · rw [hlocation, h.location_eq, hbefore, Location.past_append]

/-- **A cut between two places of the cursor.** It does not fail, and gives what was passed between
the two. -/
theorem StandsIn.textFrom?_of_reaches (h : cursor.StandsIn text) (hreach : cursor.Reaches later)
    {taken : List Char} (hrest : cursor.rest = taken ++ later.rest) :
    later.textFrom? cursor.location.offset = some taken := by
  obtain ⟨other, hbefore, hother, -⟩ := hreach.exists_taken
  obtain rfl : taken = other := by
    rw [hother] at hrest
    exact (List.append_cancel_right hrest).symm
  have hslice := slice?_append cursor.before taken []
  rw [List.append_nil] at hslice
  rw [textFrom?, (h.of_reaches hreach).location_eq, h.location_eq, Location.past_start,
    Location.past_start, hbefore, hslice]

end Cursor

/-! ### How a rule moves a cursor -/

/-- Three places of a cursor: where a lexeme begins, where it ends, and where the cursor is left. -/
structure Motion where
  /-- Where the lexeme begins. -/
  first : Cursor
  /-- Where the lexeme ends. -/
  last : Cursor
  /-- Where the cursor is left. -/
  after : Cursor

namespace Rule

/-- How a rule moves a cursor, looking at one or two characters at a time. -/
def motion : Rule → Cursor → Motion
  | .identifier, cursor =>
    let last := cursor.forwardWhile isIdentContinue
    ⟨cursor, last, last⟩
  | .number, cursor =>
    let (point, last) := (cursor.forwardWhile isDigit).accept '.'
    let last := if point then last.forwardWhile isDigit else last
    ⟨cursor, last, last⟩
  | .stringLiteral, cursor =>
    let first := cursor.advance.2
    let last := first.forwardWhile (· != '\"')
    ⟨first, last, (last.accept '\"').2⟩
  | .lineComment, cursor =>
    let first := cursor.forward 2
    let last := first.forwardWhile (· != '\n')
    ⟨first, last, last⟩
  | .blockComment, cursor =>
    let first := cursor.forward 2
    let last := first.forward (Piece.splitAtClose [] first.rest).1.length
    ⟨first, last, last.forward 2⟩
  | .operator, cursor =>
    let (head?, last) := cursor.advance
    let last := if head?.any Piece.isComparisonHead then (last.accept '=').2 else last
    ⟨cursor, last, last⟩

/-- A motion does what the rule says: its three places stand one behind the other, the lexeme stands
between the first two, and in front of the last one stands what the rule takes. -/
structure Moves (rule : Rule) (cursor : Cursor) : Prop where
  /-- The lexeme begins at the cursor or behind it. -/
  first_reached : cursor.Reaches (rule.motion cursor).first
  /-- The lexeme ends where it begins or behind that. -/
  last_reached : (rule.motion cursor).first.Reaches (rule.motion cursor).last
  /-- The cursor is left at the end of the lexeme or behind it. -/
  after_reached : (rule.motion cursor).last.Reaches (rule.motion cursor).after
  /-- Between the first two places stands the lexeme. -/
  lexeme_append : (rule.read cursor.rest).lexeme ++ (rule.motion cursor).last.rest =
    (rule.motion cursor).first.rest
  /-- The cursor has passed what the rule takes. -/
  raw_append : (rule.read cursor.rest).raw ++ (rule.motion cursor).after.rest = cursor.rest

/-- A rule whose lexeme is all that it takes. -/
theorem moves_of_plain {rule : Rule} {cursor last : Cursor} {kind : TokenKind} {word : List Char}
    {warning? : Option Warning} (hmotion : rule.motion cursor = ⟨cursor, last, last⟩)
    (hreach : cursor.Reaches last) (hread : rule.read cursor.rest = ⟨kind, word, word, warning?⟩)
    (hword : word ++ last.rest = cursor.rest) : rule.Moves cursor where
  first_reached := by
    rw [hmotion]
    exact .refl cursor
  last_reached := by
    rw [hmotion]
    exact hreach
  after_reached := by
    rw [hmotion]
    exact .refl last
  lexeme_append := by rw [hmotion, hread, hword]
  raw_append := by rw [hmotion, hread, hword]

theorem moves_identifier (cursor : Cursor) : identifier.Moves cursor := by
  have hreach : cursor.Reaches (cursor.forwardWhile isIdentContinue) := cursor.reaches_forward _
  refine moves_of_plain rfl hreach rfl ?_
  rw [Cursor.rest_forwardWhile, List.takeWhile_append_dropWhile]

/-- Digits with a point behind them, and the digits behind the point. -/
theorem read_number_point {text rest : List Char} (h : text.dropWhile isDigit = '.' :: rest) :
    number.read text = ⟨.number, text.takeWhile isDigit ++ '.' :: rest.takeWhile isDigit,
      text.takeWhile isDigit ++ '.' :: rest.takeWhile isDigit,
      if (rest.dropWhile isDigit).head? = some '.' then some .splitNumber else none⟩ := by
  rw [read, Piece.number, h]
  rfl

/-- Digits with no point behind them. -/
theorem read_number_whole {text : List Char}
    (h : ¬ (text.dropWhile isDigit).head? = some '.') :
    number.read text = ⟨.number, text.takeWhile isDigit, text.takeWhile isDigit, none⟩ := by
  rw [read, Piece.number]
  split
  · next rest hrest => exact absurd (by rw [hrest]; rfl) h
  · rfl

theorem motion_number_point {cursor : Cursor}
    (h : (cursor.rest.dropWhile isDigit).head? = some '.') :
    number.motion cursor =
      ⟨cursor, ((cursor.forwardWhile isDigit).forward 1).forwardWhile isDigit,
        ((cursor.forwardWhile isDigit).forward 1).forwardWhile isDigit⟩ := by
  rw [motion, Cursor.accept_of_head? (by rwa [Cursor.rest_forwardWhile])]
  rfl

theorem motion_number_whole {cursor : Cursor}
    (h : ¬ (cursor.rest.dropWhile isDigit).head? = some '.') :
    number.motion cursor =
      ⟨cursor, cursor.forwardWhile isDigit, cursor.forwardWhile isDigit⟩ := by
  rw [motion, Cursor.accept_of_not_head? (by rwa [Cursor.rest_forwardWhile])]
  rfl

theorem moves_number (cursor : Cursor) : number.Moves cursor := by
  have hwhole : (cursor.forwardWhile isDigit).rest = cursor.rest.dropWhile isDigit :=
    cursor.rest_forwardWhile isDigit
  have hreach : cursor.Reaches (cursor.forwardWhile isDigit) := cursor.reaches_forward _
  have hsplit := List.takeWhile_append_dropWhile (p := isDigit) (l := cursor.rest)
  by_cases hpoint : (cursor.rest.dropWhile isDigit).head? = some '.'
  · obtain ⟨rest, hrest⟩ := List.head?_eq_some_iff.mp hpoint
    have hlast : cursor.Reaches (((cursor.forwardWhile isDigit).forward 1).forwardWhile isDigit) :=
      (hreach.trans (Cursor.reaches_forward _ 1)).trans (Cursor.reaches_forward _ _)
    refine moves_of_plain (motion_number_point hpoint) hlast (read_number_point hrest) ?_
    rw [hrest] at hwhole hsplit
    rw [Cursor.rest_forwardWhile, Cursor.rest_forward, hwhole, List.drop_one, List.tail_cons,
      List.append_assoc, List.cons_append, List.takeWhile_append_dropWhile, hsplit]
  · refine moves_of_plain (motion_number_whole hpoint) hreach (read_number_whole hpoint) ?_
    rw [hwhole, hsplit]

theorem motion_operator_comparison {cursor : Cursor} {c : Char} {rest : List Char}
    (htext : cursor.rest = c :: '=' :: rest) (hhead : Piece.isComparisonHead c = true) :
    operator.motion cursor = ⟨cursor, cursor.forward 2, cursor.forward 2⟩ := by
  have hequal : (cursor.forward 1).rest.head? = some '=' := by
    rw [Cursor.rest_forward, htext]
    rfl
  simp [motion, Cursor.advance, htext, hhead, Cursor.accept_of_head? hequal,
    Cursor.forward_forward]

theorem motion_operator_sign {cursor : Cursor}
    (hsign : ∀ c rest, cursor.rest = c :: '=' :: rest → Piece.isComparisonHead c = false) :
    operator.motion cursor = ⟨cursor, cursor.forward 1, cursor.forward 1⟩ := by
  by_cases hequal : (cursor.forward 1).rest.head? = some '='
  · obtain ⟨rest, hrest⟩ := List.head?_eq_some_iff.mp hequal
    rw [Cursor.rest_forward] at hrest
    cases htext : cursor.rest with
    | nil => simp [htext] at hrest
    | cons c tail =>
      rw [htext, List.drop_one, List.tail_cons] at hrest
      have hhead := hsign c rest (by rw [htext, hrest])
      simp [motion, Cursor.advance, htext, hhead]
  · simp [motion, Cursor.advance, Cursor.accept_of_not_head? hequal]

theorem read_operator_sign {text : List Char}
    (hsign : ∀ c rest, text = c :: '=' :: rest → Piece.isComparisonHead c = false) :
    operator.read text = ⟨.operator, text.take 1, text.take 1, none⟩ := by
  simp only [read, Piece.operator]
  split
  · next c rest => simp [hsign c rest rfl]
  · rfl
  · rfl

theorem moves_operator (cursor : Cursor) : operator.Moves cursor := by
  by_cases hpair : ∃ c rest, cursor.rest = c :: '=' :: rest ∧ Piece.isComparisonHead c = true
  · obtain ⟨c, rest, htext, hhead⟩ := hpair
    have hread : operator.read cursor.rest = ⟨.operator, [c, '='], [c, '='], none⟩ := by
      simp [read, Piece.operator, htext, hhead]
    refine moves_of_plain (motion_operator_comparison htext hhead) (cursor.reaches_forward 2)
      hread ?_
    rw [Cursor.rest_forward, htext]
    rfl
  · have hsign : ∀ c rest, cursor.rest = c :: '=' :: rest → Piece.isComparisonHead c = false := by
      intro c rest htext
      rw [← Bool.not_eq_true]
      exact fun hhead => hpair ⟨c, rest, htext, hhead⟩
    refine moves_of_plain (motion_operator_sign hsign) (cursor.reaches_forward 1)
      (read_operator_sign hsign) ?_
    rw [Cursor.rest_forward, List.take_append_drop]

theorem moves_stringLiteral (cursor : Cursor) : stringLiteral.Moves cursor := by
  have hsplit := List.takeWhile_append_dropWhile (p := (· != '\"')) (l := cursor.rest.drop 1)
  have hlast : ((cursor.forward 1).forwardWhile (· != '\"')).rest =
      (cursor.rest.drop 1).dropWhile (· != '\"') := Cursor.rest_forwardWhile _ _
  have hlexeme : (stringLiteral.read cursor.rest).lexeme =
      (cursor.rest.drop 1).takeWhile (· != '\"') := by
    rw [read, Piece.stringLiteral]
    split <;> rfl
  -- behind the lexeme, the quote is passed if there is one
  have hafter : ∃ n, (stringLiteral.motion cursor).after =
        ((cursor.forward 1).forwardWhile (· != '\"')).forward n ∧
      (stringLiteral.read cursor.rest).raw ++
        (((cursor.forward 1).forwardWhile (· != '\"')).forward n).rest = cursor.rest := by
    cases hrest : (cursor.rest.drop 1).dropWhile (· != '\"') with
    | nil =>
      rw [hrest] at hlast
      have haccept := Cursor.accept_of_not_head? (c := '\"') (by rw [hlast]; simp)
      refine ⟨0, congrArg Prod.snd haccept, ?_⟩
      rw [read, Piece.stringLiteral, hrest, Cursor.forward_zero, hlast]
      exact List.append_nil _
    | cons c rest =>
      have hquote : c = '\"' := eq_of_mem_head?_dropWhile_bne c (by rw [hrest]; rfl)
      rw [hrest] at hlast
      have haccept := Cursor.accept_of_head? (c := '\"') (by rw [hlast, hquote]; rfl)
      refine ⟨1, congrArg Prod.snd haccept, ?_⟩
      rw [read, Piece.stringLiteral, hrest, Cursor.forwardWhile, Cursor.forward_forward,
        Cursor.forward_forward, Cursor.rest_forward, Cursor.rest_forward, Nat.add_comm 1,
        Nat.add_assoc]
      exact List.take_append_drop _ _
  obtain ⟨n, hafter, hraw⟩ := hafter
  refine ⟨cursor.reaches_forward 1, Cursor.reaches_forward _ _, ⟨n, hafter⟩, ?_, ?_⟩
  · rw [hlexeme]
    change _ ++ ((cursor.forward 1).forwardWhile (· != '\"')).rest = (cursor.forward 1).rest
    rw [hlast, hsplit, Cursor.rest_forward]
  · rw [hafter, hraw]

theorem moves_lineComment (cursor : Cursor) : lineComment.Moves cursor := by
  have hsplit := List.takeWhile_append_dropWhile (p := (· != '\n')) (l := cursor.rest.drop 2)
  have hlast : ((cursor.forward 2).forwardWhile (· != '\n')).rest =
      (cursor.rest.drop 2).dropWhile (· != '\n') := Cursor.rest_forwardWhile _ _
  refine ⟨cursor.reaches_forward 2, Cursor.reaches_forward _ _, .refl _, ?_, ?_⟩
  · change (cursor.rest.drop 2).takeWhile (· != '\n') ++
      ((cursor.forward 2).forwardWhile (· != '\n')).rest = (cursor.forward 2).rest
    rw [hlast, hsplit, Cursor.rest_forward]
  · change cursor.rest.take (((cursor.rest.drop 2).takeWhile (· != '\n')).length + 2) ++
      ((cursor.rest.drop 2).drop ((cursor.rest.drop 2).takeWhile (· != '\n')).length) = cursor.rest
    rw [List.drop_drop, Nat.add_comm 2, List.take_append_drop]

theorem moves_blockComment (cursor : Cursor) : blockComment.Moves cursor := by
  have hfirst : cursor.Reaches (blockComment.motion cursor).first := cursor.reaches_forward 2
  have hlast : (blockComment.motion cursor).last.rest =
      (cursor.rest.drop 2).drop (Piece.splitAtClose [] (cursor.rest.drop 2)).1.length := rfl
  have hafter : (blockComment.motion cursor).after.rest =
      (blockComment.motion cursor).last.rest.drop 2 := rfl
  rcases exists_split_at_pair '*' '/' (cursor.rest.drop 2) with
    hopen | ⟨body, behind, htext, hbody⟩
  · -- an open comment takes everything, so that nothing is left to drop
    rw [Piece.splitAtClose_open hopen, List.drop_length] at hlast
    refine ⟨hfirst, Cursor.reaches_forward _ _, Cursor.reaches_forward _ 2, ?_, ?_⟩
    · rw [hlast, read, Piece.blockComment, Piece.splitAtClose_open hopen]
      exact List.append_nil _
    · rw [hafter, hlast, read, Piece.blockComment, Piece.splitAtClose_open hopen, List.drop_nil]
      exact List.append_nil _
  · have hclosed := Piece.splitAtClose_closed hbody behind
    rw [← htext] at hclosed
    rw [hclosed] at hlast
    refine ⟨hfirst, Cursor.reaches_forward _ _, Cursor.reaches_forward _ 2, ?_, ?_⟩
    · rw [hlast, read, Piece.blockComment, hclosed, htext, List.drop_left]
      exact htext.symm
    · have hindex : 2 + (body.length + 2) = body.length + 4 := by omega
      rw [hafter, hlast, read, Piece.blockComment, hclosed, List.drop_drop, List.drop_drop, hindex]
      exact List.take_append_drop _ _

/-- **Every rule moves a cursor as it says.** -/
theorem moves (rule : Rule) (cursor : Cursor) : rule.Moves cursor := by
  cases rule with
  | identifier => exact moves_identifier cursor
  | number => exact moves_number cursor
  | stringLiteral => exact moves_stringLiteral cursor
  | lineComment => exact moves_lineComment cursor
  | blockComment => exact moves_blockComment cursor
  | operator => exact moves_operator cursor

end Rule

/-! ### Places and spans in a text -/

/-- A place in a text: a character boundary, with the line and the column that are counted from what
lies before it. -/
def Text.IsPlace (text : List Char) (offset : Nat) (line column : UInt32) : Prop :=
  ∃ n, boundary? text offset = some n ∧ line.toNat = lineOf (text.take n) ∧
    column.toNat = columnOf (text.take n)

/-- A span fits a text: its ends are boundaries of the text, in order, and it has the line and the
column of its start. -/
structure Span.Fits (span : Span) (text : List Char) : Prop where
  /-- It does not end before it starts. -/
  start_le_stop : span.start ≤ span.stop
  /-- It does not end behind the text. -/
  stop_le : span.stop ≤ byteLength text
  /-- It starts at a place, and says which. -/
  start_place : IsPlace text span.start span.line span.column
  /-- It ends on a boundary. -/
  stop_boundary : (boundary? text span.stop).isSome = true

namespace Cursor

variable {cursor later : Cursor} {text : List Char}

theorem StandsIn.offset_eq (h : cursor.StandsIn text) :
    cursor.location.offset = byteLength cursor.before := by
  rw [h.location_eq, Location.past_start]

theorem StandsIn.boundary? (h : cursor.StandsIn text) :
    boundary? text cursor.location.offset = some cursor.before.length := by
  rw [h.offset_eq, ← h.append_eq, boundary?_append]

theorem StandsIn.isPlace (h : cursor.StandsIn text) (hshort : text.length < 2 ^ 32 - 1) :
    IsPlace text cursor.location.offset cursor.location.line cursor.location.column := by
  have htake : text.take cursor.before.length = cursor.before := by
    rw [← h.append_eq, List.take_left]
  have hle : cursor.before.length < 2 ^ 32 - 1 := by
    rw [← h.append_eq, List.length_append] at hshort
    omega
  refine ⟨cursor.before.length, h.boundary?, ?_, ?_⟩
  · rw [htake, h.location_eq, Location.toNat_line_past_start hle]
  · rw [htake, h.location_eq, Location.toNat_column_past_start hle]

/-- The span between two places of a cursor that goes forward. -/
theorem StandsIn.fits_between (h : cursor.StandsIn text) (hreach : cursor.Reaches later)
    (hshort : text.length < 2 ^ 32 - 1) :
    (Span.between cursor.location later.location).Fits text where
  start_le_stop := by
    obtain ⟨taken, hbefore, -, -⟩ := hreach.exists_taken
    change cursor.location.offset ≤ later.location.offset
    rw [h.offset_eq, (h.of_reaches hreach).offset_eq, hbefore, byteLength_append]
    exact Nat.le_add_right ..
  stop_le := by
    change later.location.offset ≤ byteLength text
    rw [(h.of_reaches hreach).offset_eq, ← (h.of_reaches hreach).append_eq, byteLength_append]
    exact Nat.le_add_right ..
  start_place := h.isPlace hshort
  stop_boundary := by
    change (Text.boundary? text later.location.offset).isSome = true
    rw [(h.of_reaches hreach).boundary?, Option.isSome_some]

end Cursor

/-! ### What a rule cuts out -/

/-- A motion cuts a lexeme out of what the cursor passes on its way to `after`. -/
structure Motion.Cuts (motion : Motion) (cursor after : Cursor) (lexeme : List Char) : Prop where
  /-- The lexeme begins at the cursor or behind it. -/
  first_reached : cursor.Reaches motion.first
  /-- The lexeme ends where it begins or behind that. -/
  last_reached : motion.first.Reaches motion.last
  /-- The cursor is left at the end of the lexeme or behind it. -/
  after_reached : motion.last.Reaches motion.after
  /-- That is where it has gone. -/
  after_eq : motion.after = after
  /-- The cut between the first two places does not fail, and gives the lexeme. -/
  textFrom?_eq : motion.last.textFrom? motion.first.location.offset = some lexeme
  /-- The lexeme stands in what was passed. -/
  passed_eq : ∃ front behind, after.before = cursor.before ++ (front ++ lexeme ++ behind)

theorem Motion.Cuts.of_reaches {motion : Motion} {earlier cursor after : Cursor}
    {lexeme : List Char} (h : motion.Cuts cursor after lexeme) (hreach : earlier.Reaches cursor) :
    motion.Cuts earlier after lexeme where
  first_reached := hreach.trans h.first_reached
  last_reached := h.last_reached
  after_reached := h.after_reached
  after_eq := h.after_eq
  textFrom?_eq := h.textFrom?_eq
  passed_eq := by
    obtain ⟨taken, hbefore, -, -⟩ := hreach.exists_taken
    obtain ⟨front, behind, hpassed⟩ := h.passed_eq
    refine ⟨taken ++ front, behind, ?_⟩
    rw [hpassed, hbefore]
    simp only [List.append_assoc]

/-- **The cut of a rule never fails.** Wherever a cursor stands, the motion of a rule cuts out the
lexeme that the rule reads. -/
theorem Rule.cuts_motion (rule : Rule) {cursor : Cursor} {text : List Char}
    (h : cursor.StandsIn text) :
    (rule.motion cursor).Cuts cursor (cursor.forward (rule.read cursor.rest).raw.length)
      (rule.read cursor.rest).lexeme := by
  have hmoves := rule.moves cursor
  have hfirst := h.of_reaches hmoves.first_reached
  have hafter : cursor.Reaches (rule.motion cursor).after :=
    (hmoves.first_reached.trans hmoves.last_reached).trans hmoves.after_reached
  have heq := hafter.eq_forward hmoves.raw_append.symm
  refine ⟨hmoves.first_reached, hmoves.last_reached, hmoves.after_reached, heq, ?_, ?_⟩
  · exact hfirst.textFrom?_of_reaches hmoves.last_reached hmoves.lexeme_append.symm
  · obtain ⟨front, hfront, -, -⟩ := hmoves.first_reached.exists_taken
    obtain ⟨taken, htaken, hrest, -⟩ := hmoves.last_reached.exists_taken
    obtain ⟨behind, hbehind, -, -⟩ := hmoves.after_reached.exists_taken
    obtain rfl : taken = (rule.read cursor.rest).lexeme := by
      rw [← hmoves.lexeme_append] at hrest
      exact (List.append_cancel_right hrest).symm
    refine ⟨front, behind, ?_⟩
    rw [← heq, hbehind, htaken, hfront]
    simp only [List.append_assoc]

end TokenScan
