import TokenScan.Proofs.Calls
import Mathlib.Data.List.Forall2

/-!
# Starting again in the middle

Between two tokens the scanner remembers nothing that matters. It holds the place where the last
token began and the reports so far, but what it finds next is told by the characters to come, and
where it finds them by the place of its cursor. So from there on it does what a new scanner does
that is given only the rest of the text, and all that differs are the places.

In the rest of the text, places are counted from its own beginning. Those on its first line are as
many columns further on as the cursor stands behind its column, and those on later lines are not:
this is `Location.Moves`, with plain numbers, since in a short text nothing wraps around.

## Main definitions

* `Location.Moves`, `Token.Moved`, `Diagnostic.Moved` — the same thing in a text that begins
  elsewhere
* `Lexer.Restarts` — the rest of a run is a scan of the rest of the text

## Main results

* `Location.moves_past` — a place behind two texts, from the places behind each
* `Lexer.restarts` — a scanner that stands in a text restarts there
* `scan_restarts` — it does so after any number of tokens
-/

namespace TokenScan

open Text

/-! ### Places in a text that begins elsewhere -/

/-- What stands at a line and a column of a text stands at another line and another column if the
text begins at `place`. -/
structure Location.Moves (place : Location) (line column line' column' : UInt32) : Prop where
  /-- The lines in front are added. -/
  line_eq : line'.toNat = place.line.toNat + line.toNat - 1
  /-- On the first line, so are the columns in front. -/
  column_eq : column'.toNat =
    if line = 1 then place.column.toNat + column.toNat - 1 else column.toNat

/-- The same token in a text that begins at `place`. -/
structure Token.Moved (place : Location) (token moved : Token) : Prop where
  /-- The kind is the same. -/
  kind_eq : moved.kind = token.kind
  /-- The lexeme is the same. -/
  lexeme_eq : moved.lexeme = token.lexeme
  /-- The line and the column are moved. -/
  moves : place.Moves token.line token.column moved.line moved.column

/-- The same report about a text that begins at `place`. -/
structure Diagnostic.Moved (place : Location) (d moved : Diagnostic) : Prop where
  /-- It is as grave. -/
  severity_eq : moved.severity = d.severity
  /-- The code is the same. -/
  code?_eq : moved.code? = d.code?
  /-- The message is the same. -/
  message_eq : moved.message = d.message
  /-- The bytes in front are added to the start of the span. -/
  start_eq : moved.span.start = place.offset + d.span.start
  /-- They are added to its end. -/
  stop_eq : moved.span.stop = place.offset + d.span.stop
  /-- The line and the column are moved. -/
  moves : place.Moves d.span.line d.span.column moved.span.line moved.span.column

/-- **A place behind two texts.** It is the place behind the second one, moved to where that one
begins. -/
theorem Location.moves_past {before text : List Char}
    (hshort : (before ++ text).length < 2 ^ 32 - 1) :
    (start.past before).Moves (start.past text).line (start.past text).column
      (start.past (before ++ text)).line (start.past (before ++ text)).column := by
  have hsum := hshort
  rw [List.length_append] at hsum
  have hbefore : before.length < 2 ^ 32 - 1 := by omega
  have htext : text.length < 2 ^ 32 - 1 := by omega
  have hfirst : (start.past text).line = 1 ↔ '\n' ∉ text := by
    rw [← UInt32.toNat_inj, toNat_line_past_start htext, lineOf, ← List.count_eq_zero]
    change 1 + text.count '\n' = 1 ↔ _
    omega
  constructor
  · rw [toNat_line_past_start hshort, toNat_line_past_start hbefore, toNat_line_past_start htext,
      lineOf_append, lineOf, lineOf]
    omega
  · rw [toNat_column_past_start hshort, toNat_column_past_start hbefore,
      toNat_column_past_start htext]
    by_cases hfeed : '\n' ∈ text
    · rw [if_neg (by rw [hfirst]; exact not_not_intro hfeed), columnOf_append_of_mem hfeed]
    · have halone : columnOf text = 1 + text.length := by
        have hcolumn := columnOf_append_of_not_mem (a := []) hfeed
        rwa [List.nil_append] at hcolumn
      rw [if_pos (hfirst.mpr hfeed), columnOf_append_of_not_mem hfeed, halone]
      omega

/-! ### Portions in a text that begins elsewhere -/

namespace Portion

/-- One portion at two places: behind some text, and behind `before` and that text. -/
inductive Behind (before : List Char) : Location × Portion → Location × Portion → Prop
  /-- All of it is short. -/
  | intro (seen : List Char) (portion : Portion)
      (hshort : (before ++ (seen ++ portion.chars)).length < 2 ^ 32 - 1) :
      Behind before (.past .start seen, portion) (.past .start (before ++ seen), portion)

variable {before : List Char} {p q : Location × Portion}

theorem Behind.moves (h : Behind before p q) :
    (Location.start.past before).Moves (p.1.past p.2.gap).line (p.1.past p.2.gap).column
      (q.1.past q.2.gap).line (q.1.past q.2.gap).column := by
  obtain ⟨seen, portion, hshort⟩ := h
  have hgap : (before ++ (seen ++ portion.gap)).length < 2 ^ 32 - 1 := by
    simp only [chars, List.length_append] at hshort ⊢
    omega
  rw [← Location.past_append, ← Location.past_append, List.append_assoc]
  exact Location.moves_past hgap

theorem Behind.offset_eq (h : Behind before p q) (text : List Char) :
    (q.1.past text).offset = (Location.start.past before).offset + (p.1.past text).offset := by
  obtain ⟨seen, portion, -⟩ := h
  simp [Location.start, Nat.add_assoc]

theorem Behind.token_moved (h : Behind before p q) :
    (p.2.token p.1).Moved (Location.start.past before) (q.2.token q.1) := by
  have hmoves := h.moves
  obtain ⟨seen, portion, -⟩ := h
  exact ⟨rfl, rfl, hmoves⟩

theorem Behind.report?_moved (h : Behind before p q) :
    Option.Rel (Diagnostic.Moved (Location.start.past before)) (p.2.report? p.1)
      (q.2.report? q.1) := by
  have hmoves := h.moves
  have hoffset := h.offset_eq
  obtain ⟨seen, portion, -⟩ := h
  cases hw : portion.piece.warning? with
  | none =>
    rw [report?, report?, hw]
    exact .none
  | some w =>
    rw [report?, report?, hw]
    exact .some ⟨rfl, rfl, rfl, hoffset portion.gap, hoffset portion.chars, hmoves⟩

/-- Portions that follow one another, each at its two places. -/
theorem forall₂_behind_placed (seen : List Char) (list : List Portion)
    (hshort : (before ++ (seen ++ list.flatMap chars)).length < 2 ^ 32 - 1) :
    List.Forall₂ (Behind before) (placed (.past .start seen) list)
      (placed (.past .start (before ++ seen)) list) := by
  induction list generalizing seen with
  | nil => exact .nil
  | cons portion rest ih =>
    rw [List.flatMap_cons, ← List.append_assoc seen] at hshort
    have hfirst : (before ++ (seen ++ portion.chars)).length < 2 ^ 32 - 1 := by
      simp only [List.length_append] at hshort ⊢
      omega
    rw [placed, placed, ← Location.past_append, ← Location.past_append, List.append_assoc]
    exact .cons (.intro seen portion hfirst) (ih _ hshort)

end Portion

/-! ### The rest of a run -/

namespace Lexer

variable {lexer : Lexer} {source : String}

/-- The rest of a run is a scan of the rest of the text, which begins where the cursor stands. -/
structure Restarts (lexer : Lexer) (source rest : String) : Prop where
  /-- The rest of the text begins at the byte where the cursor stands. -/
  rest_eq :
    slice? source.toList lexer.cursor.location.offset (byteLength source.toList) = some rest.toList
  /-- The tokens to come are those of the rest, moved. -/
  tokens : List.Forall₂ (Token.Moved lexer.cursor.location) (Scan.ofText rest).tokens
    lexer.finish.1
  /-- The reports to come are those about the rest, moved. -/
  reports : ∃ reports, lexer.finish.2.handler.toList = lexer.handler.toList ++ reports ∧
    List.Forall₂ (Diagnostic.Moved lexer.cursor.location) (Scan.ofText rest).diagnostics reports

/-- The portions to come, where the cursor finds them and where they are in the rest of the text. -/
theorem forall₂_behind_of_standsIn (h : lexer.cursor.StandsIn source.toList)
    (hshort : source.length < 2 ^ 32 - 1) :
    List.Forall₂ (Portion.Behind lexer.cursor.before)
      (placed .start (portions lexer.cursor.rest))
      (placed lexer.cursor.location (portions lexer.cursor.rest)) := by
  have htext := h.append_eq
  rw [← flatMap_chars_append_blankEnd lexer.cursor.rest] at htext
  have hlength := congrArg List.length htext
  rw [String.length_toList] at hlength
  have htaken : (lexer.cursor.before ++
      ([] ++ (portions lexer.cursor.rest).flatMap Portion.chars)).length < 2 ^ 32 - 1 := by
    simp only [List.length_append, List.length_nil] at hlength ⊢
    omega
  have hbehind := Portion.forall₂_behind_placed [] (portions lexer.cursor.rest) htaken
  rwa [List.append_nil, ← h.location_eq] at hbehind

/-- **A scanner restarts where it stands.** -/
theorem restarts (h : lexer.cursor.StandsIn source.toList) (hshort : source.length < 2 ^ 32 - 1) :
    lexer.Restarts source (String.ofList lexer.cursor.rest) := by
  have hbehind := forall₂_behind_of_standsIn h hshort
  rw [h.location_eq] at hbehind
  refine ⟨?_, ?_, ?_⟩
  · have hslice := slice?_append lexer.cursor.before lexer.cursor.rest []
    rwa [List.append_nil, h.append_eq, ← h.offset_eq,
      ← String.toList_ofList (l := lexer.cursor.rest)] at hslice
  · rw [Scan.tokens_ofText, tokens_finish, String.toList_ofList, tokensFrom, tokensFrom,
      List.forall₂_map_left_iff, List.forall₂_map_right_iff, h.location_eq]
    exact hbehind.imp fun _ _ hportion => hportion.token_moved
  · refine ⟨_, toList_handler_finish lexer, ?_⟩
    rw [Scan.diagnostics_ofText, String.toList_ofList, h.location_eq]
    exact List.rel_filterMap (fun _ _ hportion => hportion.report?_moved) hbehind

/-- A step takes one token off the front of what is to come, and the run has the same end. -/
theorem finish_next (lexer : Lexer) :
    lexer.next.2.finish.1 = lexer.finish.1.drop 1 ∧
      lexer.next.2.finish.2.handler = lexer.finish.2.handler := by
  rw [tokens_finish, tokens_finish]
  cases h : Portion.ofText? lexer.cursor.rest with
  | none =>
    -- The step passes the blanks at the end, so that nothing is left.
    have hnothing : portions lexer.skipBlanks.cursor.rest = [] := by
      rw [rest_skipBlanks_eq_nil h]
      exact portions_of_none rfl
    rw [next_of_blank h, hnothing, portions_of_none h]
    refine ⟨rfl, Handler.ext_toList ?_⟩
    rw [toList_handler_finish, toList_handler_finish, hnothing, portions_of_none h,
      handler_skipBlanks, reportsFrom_nil, reportsFrom_nil]
  | some portion =>
    obtain ⟨rest, htext, -⟩ := Portion.exists_rest h
    obtain ⟨hrest, hlocation⟩ := Cursor.forward_of_append htext
    have hportions := portions_of_some (htext ▸ h)
    rw [← htext] at hportions
    rw [next_of_portion h, hrest, hlocation, hportions]
    refine ⟨rfl, Handler.ext_toList ?_⟩
    rw [toList_handler_finish, toList_handler_finish, hrest, hlocation, hportions,
      reportsFrom_cons, Handler.toList_emit?, List.append_assoc]

/-- A number of steps take as many tokens off, or all that there are. -/
theorem finish_run_next (lexer : Lexer) (k : Nat) :
    (lexer.run (List.replicate k .next)).finish.1 = lexer.finish.1.drop k ∧
      (lexer.run (List.replicate k .next)).finish.2.handler = lexer.finish.2.handler := by
  induction k generalizing lexer with
  | zero => exact ⟨rfl, rfl⟩
  | succ k ih =>
    obtain ⟨htokens, hhandler⟩ := ih lexer.next.2
    obtain ⟨hfirst, hsame⟩ := lexer.finish_next
    rw [List.replicate_succ]
    constructor
    · calc (lexer.next.2.run (List.replicate k .next)).finish.1
          = lexer.next.2.finish.1.drop k := htokens
        _ = (lexer.finish.1.drop 1).drop k := by rw [hfirst]
        _ = lexer.finish.1.drop (k + 1) := by rw [List.drop_drop, Nat.add_comm]
    · exact hhandler.trans hsame

end Lexer

/-- **A scan can be restarted at any token.** After any number of steps, what the run still finds is
what a scan of the rest of the text finds, moved to the place of the cursor. -/
theorem scan_restarts (source : String) (hshort : source.length < 2 ^ 32 - 1) (handler : Handler)
    (k : Nat) :
    let whole := Lexer.ofText source.toList handler
    let lexer := whole.run (List.replicate k .next)
    (lexer.finish.1 = whole.finish.1.drop k ∧
        lexer.finish.2.handler = whole.finish.2.handler) ∧
      ∃ rest : String, lexer.Restarts source rest := by
  intro whole lexer
  have hsound : lexer.Sound source.toList :=
    (Lexer.sound_ofText source.toList handler).run (List.replicate k .next)
  exact ⟨whole.finish_run_next k, _, Lexer.restarts hsound.standsIn hshort⟩

/-- A restart in the middle of a line, in front of the point that a number was split at. The
operator to come moves to the right, and the string on the next line does not. -/
theorem scan_restarts_split_number :
    "é 1.2.3\n\"b".length < 2 ^ 32 - 1 ∧
      let whole := Lexer.ofText "é 1.2.3\n\"b".toList .empty
      let lexer := whole.run (List.replicate 2 .next)
      (lexer.cursor.location = ⟨6, 1, 6⟩ ∧
          lexer.finish.1 =
            [⟨.operator, ".", 1, 6⟩, ⟨.number, "3", 1, 7⟩, ⟨.stringLiteral, "b", 2, 1⟩]) ∧
        (lexer.finish.1 = whole.finish.1.drop 2 ∧
          lexer.finish.2.handler = whole.finish.2.handler) ∧
        ∃ rest : String, lexer.Restarts "é 1.2.3\n\"b" rest :=
  ⟨by decide +kernel, by decide +kernel,
    scan_restarts "é 1.2.3\n\"b" (by decide +kernel) .empty 2⟩

end TokenScan
