import TokenScan.Proofs.ByteCursor
import TokenScan.Proofs.Calls
import TokenScan.Proofs.Restart

/-!
# Every step makes progress

A call for the next token either passes a character that is not blank or finds that there is none.
So a scan has no more tokens than the text has such characters, and asking again at the end leads
nowhere. That a call passes something rests on facts from several places: the rule that applies
takes the character that selected it (`Rule.raw_read_ne_nil`), no rule applies to a blank, and what
is skipped as blank is what the class says. That a call comes back at all is `Lexer.nextLoop_eq`.

Progress is counted in the characters that are not blank. The blanks in front of a token are passed
with it, and those at the end in a call that makes no token.

## Main definitions

* `Text.inkCount` — the number of characters that are not blank
* `Lexer.Progresses` — what a call for the next token does with the text that is left
* `Lexer.Ends` — all calls together come to an end

## Main results

* `Portion.exists_raw_eq_cons` — the piece of a portion begins with what is not blank
* `length_portions_le` — a text has at most as many portions as characters that are not blank
* `Lexer.Sound.progresses`, `Lexer.Sound.ends` — one call, and all of them
* `scan_progresses` — the scan of a text ends, and any calls leave a scanner that makes progress
-/

namespace TokenScan

open Text

/-- The number of characters that are not blank. -/
def Text.inkCount (text : List Char) : Nat := text.countP fun c => !isBlank c

/-! ### What a portion takes -/

namespace Portion

variable {text : List Char} {portion : Portion}

/-- The piece of a portion begins with the first character that is not blank. -/
theorem exists_raw_eq_cons (h : ofText? text = some portion) :
    ∃ c others, portion.piece.raw = c :: others ∧ isBlank c = false := by
  obtain ⟨-, behind, -, hpiece⟩ := ofText?_eq_some_iff.mp h
  obtain ⟨c, others, hraw⟩ := List.exists_cons_of_ne_nil (Piece.raw_ne_nil hpiece)
  obtain ⟨rest, rfl⟩ := Piece.raw_isPrefix hpiece
  obtain ⟨d, tail, htext, hd⟩ := Piece.exists_eq_cons hpiece
  rw [hraw] at htext
  obtain rfl : c = d := List.head_eq_of_cons_eq htext
  exact ⟨c, others, hraw, hd⟩

theorem inkCount_chars_pos (h : ofText? text = some portion) : 0 < inkCount portion.chars := by
  obtain ⟨c, others, hraw, hc⟩ := exists_raw_eq_cons h
  refine List.countP_pos_iff.mpr ⟨c, ?_, by rw [hc]; rfl⟩
  rw [chars, hraw]
  exact List.mem_append_right _ (List.mem_cons_self ..)

end Portion

/-- A text has at most as many portions as characters that are not blank. -/
theorem length_portions_le (text : List Char) : (portions text).length ≤ inkCount text := by
  induction text using Portion.induction with
  | blank text h =>
    rw [portions_of_none h]
    exact Nat.zero_le _
  | cons portion rest h ih =>
    have hpos := Portion.inkCount_chars_pos h
    rw [portions_of_some h, List.length_cons, inkCount, List.countP_append]
    rw [inkCount] at hpos ih
    omega

theorem length_tokensFrom (l : Location) (list : List Portion) :
    (tokensFrom l list).length = list.length := by
  induction list generalizing l with
  | nil => rfl
  | cons portion rest ih => rw [tokensFrom_cons, List.length_cons, List.length_cons, ih]

/-! ### What a call does -/

namespace Lexer

/-- What a call for the next token does with the text that is left. -/
structure Progresses (lexer : Lexer) : Prop where
  /-- The call comes back: all its loops end, and its cuts do not fail. -/
  nextLoop_eq : lexer.nextLoop = Part.some lexer.next
  /-- It makes no token exactly if only blanks are left. -/
  eq_none_iff : lexer.next.1 = none ↔ ∀ c ∈ lexer.cursor.rest, isBlank c = true
  /-- Then the cursor is at the end. -/
  atEnd : lexer.next.1 = none → lexer.next.2.cursor.atEnd = true
  /-- Nothing is reported. -/
  handler_eq : lexer.next.1 = none → lexer.next.2.handler = lexer.handler
  /-- And all later calls make no token and change nothing. -/
  stays : lexer.next.1 = none → ∀ n,
    (lexer.next.2.run (List.replicate n .next)).next = (none, lexer.next.2)
  /-- A call that makes a token passes the blanks in front and at least the character behind
  them, the first that is not blank. -/
  passes : ∀ token, lexer.next.1 = some token → ∃ blanks c others,
    (∀ b ∈ blanks, isBlank b = true) ∧ isBlank c = false ∧
      lexer.cursor.Passes (blanks ++ c :: others) lexer.next.2.cursor
  /-- It reports at most one thing. -/
  reports : ∃ d? : Option Diagnostic,
    lexer.next.2.handler.toList = lexer.handler.toList ++ d?.toList

/-- All calls for the next token together come to an end. -/
structure Ends (lexer : Lexer) : Prop where
  /-- The loop that asks for one token after the other comes back. -/
  finishLoop_eq : finishLoop (#[], lexer) = Part.some (lexer.finish.1.toArray, lexer.finish.2)
  /-- It has at most as many tokens as characters are left that are not blank. -/
  length_le : lexer.finish.1.length ≤ inkCount lexer.cursor.rest
  /-- Each call answers with the token that is its turn, and those behind the last one with none. -/
  answers : ∀ n, (lexer.run (List.replicate n .next)).next.1 = lexer.finish.1[n]?

variable {lexer : Lexer} {text : List Char}

theorem next_of_nil (h : lexer.cursor.rest = []) : lexer.next = (none, lexer) := by
  rw [next_of_blank (by rw [h]; rfl), skipBlanks_of_stop (by rw [h]; simp)]

theorem run_next_of_nil (h : lexer.cursor.rest = []) (n : Nat) :
    lexer.run (List.replicate n .next) = lexer := by
  induction n with
  | zero => rfl
  | succ n ih =>
    have hstay : (lexer.call .next).2 = lexer := congrArg Prod.snd (next_of_nil h)
    rw [List.replicate_succ, run, List.foldl_cons, hstay]
    exact ih

/-- In front of blanks only, a call passes them and comes to rest. -/
theorem progresses_of_blank (hloop : lexer.nextLoop = Part.some lexer.next)
    (h : Portion.ofText? lexer.cursor.rest = none) : lexer.Progresses where
  nextLoop_eq := hloop
  eq_none_iff := by
    rw [next_of_blank h]
    exact ⟨fun _ => Portion.ofText?_eq_none_iff.mp h, fun _ => rfl⟩
  atEnd := by
    rw [next_of_blank h]
    exact fun _ => Cursor.atEnd_of_nil (rest_skipBlanks_eq_nil h)
  handler_eq := by
    rw [next_of_blank h]
    exact fun _ => lexer.handler_skipBlanks
  stays := by
    have hrest := rest_skipBlanks_eq_nil h
    rw [next_of_blank h]
    intro _ n
    rw [run_next_of_nil hrest, next_of_nil hrest]
  passes := by
    rw [next_of_blank h]
    intro token htoken
    cases htoken
  reports := by
    refine ⟨none, ?_⟩
    rw [next_of_blank h, handler_skipBlanks, Option.toList_none, List.append_nil]

/-- In front of a portion, a call passes it, and its piece begins with what is not blank. -/
theorem progresses_of_portion (hloop : lexer.nextLoop = Part.some lexer.next) {portion : Portion}
    (h : Portion.ofText? lexer.cursor.rest = some portion) : lexer.Progresses := by
  have hsome : lexer.next.1 ≠ none := by
    rw [next_of_portion h]
    exact Option.some_ne_none _
  refine ⟨hloop, ?_, fun hnone => absurd hnone hsome, fun hnone => absurd hnone hsome,
    fun hnone => absurd hnone hsome, ?_, ?_⟩
  · rw [← Portion.ofText?_eq_none_iff, h]
    exact iff_of_false hsome (Option.some_ne_none portion)
  · intro token _
    obtain ⟨hgap, -⟩ := Portion.ofText?_eq_some_iff.mp h
    obtain ⟨c, others, hraw, hc⟩ := Portion.exists_raw_eq_cons h
    obtain ⟨rest, hrest, -⟩ := Portion.exists_rest h
    have hpasses := Cursor.passes_of_append hrest
    refine ⟨portion.gap, c, others, hgap, hc, ?_⟩
    rw [next_of_portion h]
    rwa [Portion.chars, hraw] at hpasses ⊢
  · rw [next_of_portion h]
    exact ⟨portion.report? lexer.cursor.location, Handler.toList_emit? _ _⟩

/-- **Every call makes progress.** -/
theorem Sound.progresses (h : lexer.Sound text) : lexer.Progresses := by
  have hloop := nextLoop_eq h.standsIn
  cases hportion : Portion.ofText? lexer.cursor.rest with
  | none => exact progresses_of_blank hloop hportion
  | some portion => exact progresses_of_portion hloop hportion

/-- A call makes the first of the tokens to come. -/
theorem head?_finish (lexer : Lexer) : lexer.finish.1.head? = lexer.next.1 := by
  rw [tokens_finish]
  cases h : Portion.ofText? lexer.cursor.rest with
  | none =>
    rw [portions_of_none h, next_of_blank h]
    rfl
  | some portion =>
    obtain ⟨rest, htext, -⟩ := Portion.exists_rest h
    have hportions := portions_of_some (htext ▸ h)
    rw [← htext] at hportions
    rw [hportions, next_of_portion h]
    rfl

/-- **All calls together come to an end.** -/
theorem Sound.ends (h : lexer.Sound text) : lexer.Ends where
  finishLoop_eq := by
    rw [Lexer.finishLoop_eq h.standsIn, finish, Array.toArray_toList]
  length_le := by
    rw [tokens_finish, length_tokensFrom]
    exact length_portions_le lexer.cursor.rest
  answers := by
    intro n
    calc (lexer.run (List.replicate n .next)).next.1
        = (lexer.run (List.replicate n .next)).finish.1.head? := (head?_finish _).symm
      _ = (lexer.finish.1.drop n).head? := by rw [(lexer.finish_run_next n).1]
      _ = lexer.finish.1[n]? := List.head?_drop

end Lexer

/-- **The scanner makes progress.** The scan of a text ends, with at most as many tokens as the text
has characters that are not blank; and whatever was called before, the call for the next token comes
back, and passes a character that is not blank or finds that there is none. -/
theorem scan_progresses (source : String) (handler : Handler) (calls : List Lexer.Call) :
    let whole := Lexer.ofText source.toList handler
    (whole.Ends ∧ whole.finish.1.length ≤ inkCount source.toList) ∧
      (whole.run calls).Progresses := by
  intro whole
  have hsound : whole.Sound source.toList := Lexer.sound_ofText source.toList handler
  exact ⟨⟨hsound.ends, hsound.ends.length_le⟩, (hsound.run calls).progresses⟩

/-- The NUL that is seen at the end may also stand in a text, and is then a token. Here a number is
read up to one, and another number up to the end. -/
example :
    let whole := Lexer.ofText "1.\x00 2".toList .empty
    whole.finish.1.map Token.lexeme = ["1.", "\x00", "2"] ∧ inkCount "1.\x00 2".toList = 4 := by
  decide +kernel

end TokenScan
