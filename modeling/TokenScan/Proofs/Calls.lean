import TokenScan.Proofs.Loops

/-!
# Any order of calls

A scanner can be driven by hand. Its user may ask for the next token, or let any rule read at the
cursor, whatever stands there, and so enter a string in its middle or read a number where there is
none. Such calls give strange tokens, but they do no harm: this module says what still holds.

A state has two places, the cursor and the remembered start of a token. Each call moves the cursor
forward, and only asking for the next token moves the other place, always to where the cursor then
stands. So the remembered place is one that the cursor has passed, and that is the invariant.

## Main definitions

* `Lexer.Call`, `Lexer.call`, `Lexer.run` — calls in any order
* `Lexer.callLoop` — a call with the loops of the scanner, which need not have an answer
* `Lexer.Sound`, `Lexer.Safe` — what holds of every state, and of every call

## Main results

* `Lexer.Sound.call`, `Lexer.Sound.safe` — what one call preserves, and what it does
* `calls_safe` — all calls in all orders are safe
-/

namespace TokenScan

open Text

/-! ### Calls -/

namespace Lexer

/-- Something that the user of a scanner can ask for. -/
inductive Call where
  /-- The next token. -/
  | next
  /-- A token that a given rule makes at the cursor. -/
  | apply (rule : Rule)
deriving DecidableEq

/-- The answer to a call, and the scanner behind it. -/
def call (lexer : Lexer) : Call → Option Token × Lexer
  | .next => lexer.next
  | .apply rule =>
    let (token, after) := lexer.apply rule
    (some token, after)

/-- The answer to a call, and the scanner behind it, if the loops come to an end and the cuts do not
fail. -/
def callLoop (lexer : Lexer) : Call →. Option Token × Lexer
  | .next => lexer.nextLoop
  | .apply rule => do
    let (token, after) ← lexer.applyLoop rule
    return (some token, after)

/-- The scanner behind a number of calls. -/
def run (lexer : Lexer) (calls : List Call) : Lexer :=
  calls.foldl (fun lexer call => (lexer.call call).2) lexer

/-- How a call moves the cursor when it makes a token. To make the next token is to skip the blanks
and let the rule read that applies there, if one does. -/
def motion? (lexer : Lexer) : Call → Option Motion
  | .next =>
    let cursor := lexer.skipBlanks.cursor
    (Rule.ofText? cursor.rest).map fun rule => rule.motion cursor
  | .apply rule => some (rule.motion lexer.cursor)

/-- What holds of a scanner for a text at any time. -/
structure Sound (lexer : Lexer) (text : List Char) : Prop where
  /-- The cursor has come from the beginning of the text. -/
  reached : (Cursor.ofText text).Reaches lexer.cursor
  /-- The token in hand begins at a place that the cursor has visited. -/
  marked : ∃ visited, (Cursor.ofText text).Reaches visited ∧ visited.Reaches lexer.cursor ∧
    lexer.tokenStart = visited.location

/-- What holds of a call. -/
structure Safe (lexer : Lexer) (text : List Char) (call : Call) : Prop where
  /-- The call comes back: all its loops end, and its cuts do not fail. -/
  callLoop_eq : lexer.callLoop call = Part.some (lexer.call call)
  /-- The cursor does not move back. -/
  reached : lexer.cursor.Reaches (lexer.call call).2.cursor
  /-- A token has the line and the column of the place where the token in hand begins. -/
  placed : ∀ token ∈ (lexer.call call).1,
    token.line = (lexer.call call).2.tokenStart.line ∧
      token.column = (lexer.call call).2.tokenStart.column
  /-- The lexeme of a token is cut out of what the call passes. -/
  cut : ∀ token ∈ (lexer.call call).1, ∃ motion ∈ lexer.motion? call,
    motion.Cuts lexer.cursor (lexer.call call).2.cursor token.lexeme.toList
  /-- There is at most one new report, and its span fits the text. -/
  reported : ∃ d? : Option Diagnostic,
    (lexer.call call).2.handler.toList = lexer.handler.toList ++ d?.toList ∧
      ∀ d ∈ d?, d.span.Fits text
  /-- At the end of the text the cursor stays. -/
  atEnd : lexer.cursor.atEnd = true → (lexer.call call).2.cursor = lexer.cursor

variable {lexer : Lexer} {text : List Char}

theorem sound_ofText (text : List Char) (handler : Handler) : (ofText text handler).Sound text where
  reached := .refl _
  marked := ⟨.ofText text, .refl _, .refl _, rfl⟩

theorem Sound.standsIn (h : lexer.Sound text) : lexer.cursor.StandsIn text :=
  (Cursor.standsIn_ofText text).of_reaches h.reached

theorem Sound.mark (h : lexer.Sound text) : lexer.mark.Sound text where
  reached := h.reached
  marked := ⟨lexer.cursor, h.reached, .refl _, rfl⟩

/-- The token in hand begins where it did while the cursor goes on. -/
theorem Sound.of_reaches {after : Lexer} (h : lexer.Sound text)
    (hreach : lexer.cursor.Reaches after.cursor) (hstart : after.tokenStart = lexer.tokenStart) :
    after.Sound text where
  reached := h.reached.trans hreach
  marked := by
    obtain ⟨visited, hvisited, hlater, heq⟩ := h.marked
    exact ⟨visited, hvisited, hlater.trans hreach, hstart.trans heq⟩

theorem tokenStart_skipBlanks (lexer : Lexer) :
    lexer.skipBlanks.tokenStart = lexer.mark.tokenStart ∨
      lexer.skipBlanks.tokenStart = lexer.tokenStart := by
  unfold skipBlanks
  split
  · split
    · exact .inl rfl
    · exact .inr rfl
  · exact .inr rfl

theorem Sound.skipBlanks (h : lexer.Sound text) : lexer.skipBlanks.Sound text := by
  rcases lexer.tokenStart_skipBlanks with hstart | hstart
  · exact h.mark.of_reaches lexer.reaches_skipBlanks hstart
  · exact h.of_reaches lexer.reaches_skipBlanks hstart

/-- To ask for the next token is to skip the blanks, to note the place, and to let a rule read. -/
theorem call_next (lexer : Lexer) :
    (Rule.ofText? lexer.skipBlanks.cursor.rest = none ∧
        lexer.call .next = (none, lexer.skipBlanks)) ∨
      ∃ rule, Rule.ofText? lexer.skipBlanks.cursor.rest = some rule ∧
        lexer.call .next = lexer.skipBlanks.mark.call (.apply rule) := by
  cases hrule : Rule.ofText? lexer.skipBlanks.cursor.rest with
  | none =>
    refine .inl ⟨rfl, ?_⟩
    simp [call, next, hrule]
  | some rule =>
    refine .inr ⟨rule, rfl, ?_⟩
    simp [call, next, hrule]

theorem Sound.call_apply (h : lexer.Sound text) (rule : Rule) :
    (lexer.call (.apply rule)).2.Sound text :=
  h.of_reaches (lexer.cursor.reaches_forward _) rfl

/-- **A call preserves what holds of a scanner.** -/
theorem Sound.call (h : lexer.Sound text) (call : Call) : (lexer.call call).2.Sound text := by
  cases call with
  | apply rule => exact h.call_apply rule
  | next =>
    rcases lexer.call_next with ⟨-, hcall⟩ | ⟨rule, -, hcall⟩
    · rw [hcall]
      exact h.skipBlanks
    · rw [hcall]
      exact h.skipBlanks.mark.call_apply rule

/-- Any number of calls do. -/
theorem Sound.run (h : lexer.Sound text) (calls : List Call) : (lexer.run calls).Sound text := by
  induction calls generalizing lexer with
  | nil => exact h
  | cons call calls ih => exact ih (h.call call)

theorem Sound.safe_apply (h : lexer.Sound text) (hshort : text.length < 2 ^ 32 - 1) (rule : Rule) :
    lexer.Safe text (.apply rule) where
  callLoop_eq := by
    rw [callLoop, applyLoop_eq rule h.standsIn, Part.bind_eq_bind, Part.bind_some]
    rfl
  reached := lexer.cursor.reaches_forward _
  placed := by
    intro token htoken
    obtain rfl := Option.some.inj htoken
    exact ⟨rfl, rfl⟩
  cut := by
    intro token htoken
    obtain rfl := Option.some.inj htoken
    refine ⟨rule.motion lexer.cursor, rfl, ?_⟩
    have hcuts := rule.cuts_motion h.standsIn
    simpa [Lexer.call, Lexer.apply] using hcuts
  reported := by
    obtain ⟨visited, hvisited, hlater, heq⟩ := h.marked
    have hstands := (Cursor.standsIn_ofText text).of_reaches hvisited
    have hreach := hlater.trans
      (lexer.cursor.reaches_forward (rule.read lexer.cursor.rest).raw.length)
    have hfits := hstands.fits_between hreach hshort
    rw [← heq] at hfits
    cases hw : (rule.read lexer.cursor.rest).warning? with
    | none => exact ⟨none, by simp [Lexer.call, Lexer.apply, hw], by simp⟩
    | some w =>
      refine ⟨some (w.report _), by simp [Lexer.call, Lexer.apply, hw]; rfl, ?_⟩
      intro d hd
      obtain rfl := Option.some.inj hd
      exact hfits
  atEnd := fun hend => Cursor.forward_of_atEnd hend _

theorem skipBlanks_of_atEnd (h : lexer.cursor.atEnd = true) :
    lexer.skipBlanks.cursor = lexer.cursor := by
  rw [cursor_skipBlanks]
  exact Cursor.forward_of_atEnd h _

theorem safe_next_of_blank (hloop : lexer.nextLoop = Part.some lexer.next)
    (hcall : lexer.call .next = (none, lexer.skipBlanks)) : lexer.Safe text .next where
  callLoop_eq := hloop
  reached := by
    rw [hcall]
    exact lexer.reaches_skipBlanks
  placed := by simp [hcall]
  cut := by simp [hcall]
  reported := ⟨none, by simp [hcall], by simp⟩
  atEnd := by
    rw [hcall]
    exact skipBlanks_of_atEnd

/-- A rule reads behind the blanks, and what it does there is seen from in front of them. -/
theorem safe_next_of_rule (hloop : lexer.nextLoop = Part.some lexer.next) {rule : Rule}
    (hrule : Rule.ofText? lexer.skipBlanks.cursor.rest = some rule)
    (hcall : lexer.call .next = lexer.skipBlanks.mark.call (.apply rule))
    (hsafe : lexer.skipBlanks.mark.Safe text (.apply rule)) : lexer.Safe text .next where
  callLoop_eq := hloop
  reached := by
    rw [hcall]
    exact lexer.reaches_skipBlanks.trans hsafe.reached
  placed := by
    rw [hcall]
    exact hsafe.placed
  cut := by
    intro token htoken
    rw [hcall] at htoken ⊢
    obtain ⟨motion, hmotion, hcuts⟩ := hsafe.cut token htoken
    refine ⟨motion, ?_, hcuts.of_reaches lexer.reaches_skipBlanks⟩
    rw [motion?, hrule]
    exact hmotion
  reported := by
    have hreported := hsafe.reported
    have hhandler : lexer.skipBlanks.mark.handler = lexer.handler := lexer.handler_skipBlanks
    rwa [← hcall, hhandler] at hreported
  atEnd := by
    intro hend
    have hstay := skipBlanks_of_atEnd hend
    have hbehind : lexer.skipBlanks.mark.cursor.atEnd = true := by
      rw [← hend, ← hstay]
      rfl
    rw [hcall, hsafe.atEnd hbehind]
    exact hstay

/-- **A call is safe.** -/
theorem Sound.safe (h : lexer.Sound text) (hshort : text.length < 2 ^ 32 - 1) (call : Call) :
    lexer.Safe text call := by
  cases call with
  | apply rule => exact h.safe_apply hshort rule
  | next =>
    have hloop := nextLoop_eq h.standsIn
    rcases lexer.call_next with ⟨-, hcall⟩ | ⟨rule, hrule, hcall⟩
    · exact safe_next_of_blank hloop hcall
    · exact safe_next_of_rule hloop hrule hcall (h.skipBlanks.mark.safe_apply hshort rule)

end Lexer

/-- **All calls in all orders are safe.** Whatever was called before, the cursor stands at a place
of the text, the token in hand begins at a place that the cursor has visited, and the next call
comes back, goes forward, cuts its lexeme out of what it passes, and reports spans that fit the
text. -/
theorem calls_safe (source : String) (hshort : source.length < 2 ^ 32 - 1) (handler : Handler)
    (calls : List Lexer.Call) (call : Lexer.Call) :
    let lexer := (Lexer.ofText source.toList handler).run calls
    lexer.Sound source.toList ∧
      IsPlace source.toList lexer.cursor.location.offset lexer.cursor.location.line
        lexer.cursor.location.column ∧
      lexer.Safe source.toList call := by
  intro lexer
  have hlength : source.toList.length < 2 ^ 32 - 1 := by
    rw [String.length_toList]
    exact hshort
  have hsound : lexer.Sound source.toList := (Lexer.sound_ofText source.toList handler).run calls
  exact ⟨hsound, hsound.standsIn.isPlace hlength, hsound.safe hlength call⟩

/-- A block comment is read where there is none. The number takes nothing and the operator the first
letter; the comment then loses the two characters that should have been its mark, and its report
begins where the first call of all was made. -/
theorem calls_safe_entered_midway :
    "aé/*b".length < 2 ^ 32 - 1 ∧
      let lexer := (Lexer.ofText "aé/*b".toList .empty).run [.apply .number, .apply .operator]
      let answer := lexer.call (.apply .blockComment)
      (lexer.cursor.location = ⟨1, 1, 2⟩ ∧ lexer.tokenStart = .start ∧
          answer.1.map Token.lexeme = some "*b" ∧
          answer.2.handler.toList.map Diagnostic.span = [⟨0, 6, 1, 1⟩]) ∧
        lexer.Sound "aé/*b".toList ∧
        IsPlace "aé/*b".toList lexer.cursor.location.offset lexer.cursor.location.line
          lexer.cursor.location.column ∧
        lexer.Safe "aé/*b".toList (.apply .blockComment) :=
  ⟨by decide +kernel, by decide +kernel,
    calls_safe "aé/*b" (by decide +kernel) .empty [.apply .number, .apply .operator]
      (.apply .blockComment)⟩

end TokenScan
