import TokenScan.Cursor
import TokenScan.Lexer.Rule

/-!
# The scanner

A `Lexer` walks a text and turns it into tokens. It holds a cursor, the place where the token in
hand begins, and the handler that collects warnings. Scanning never fails: whatever the text, each
character that is not blank ends up in some token.

`Lexer.next` is the ordinary step. It skips blanks, notes where the token begins, and lets the
rule that applies cut off a piece. `Lexer.apply` is the part of it behind the note: it lets a given
rule read at the cursor, whatever stands there, and the token it makes begins where the last token
did.

## Main definitions

* `Lexer.apply` — one rule, at the cursor
* `Lexer.next` — the next token, or the end of the text
* `Lexer.finish` — all tokens up to the end

## Main results

* `Lexer.length_rest_next_lt` — a step that returns a token takes something from the text
-/

namespace TokenScan

open Text

/-- A scanner in the middle of a text. -/
structure Lexer where
  /-- Where it stands. -/
  cursor : Cursor
  /-- Where the token in hand begins. -/
  tokenStart : Location
  /-- The warnings so far. -/
  handler : Handler

namespace Lexer

/-- A scanner before the first character of a text. -/
def ofText (text : List Char) (handler : Handler) : Lexer where
  cursor := .ofText text
  tokenStart := .start
  handler := handler

/-- Lets a rule read at the cursor. The token begins where the token in hand does, and a warning
is about everything from there to the cursor. -/
def apply (lexer : Lexer) (rule : Rule) : Token × Lexer :=
  let piece := rule.read lexer.cursor.rest
  let cursor := lexer.cursor.forward piece.raw.length
  let token : Token := {
    kind := piece.kind
    lexeme := String.ofList piece.lexeme
    line := lexer.tokenStart.line
    column := lexer.tokenStart.column }
  let handler :=
    match piece.warning? with
    | some w => lexer.handler.emit (w.report (.between lexer.tokenStart cursor.location))
    | none => lexer.handler
  (token, { lexer with cursor := cursor, handler := handler })

/-- Notes that the token in hand begins at the cursor. -/
def mark (lexer : Lexer) : Lexer := { lexer with tokenStart := lexer.cursor.location }

/-- Skips the blanks at the cursor. If there are any, the token in hand begins with them. -/
def skipBlanks (lexer : Lexer) : Lexer :=
  match lexer.cursor.rest with
  | c :: _ =>
    if isBlank c then { lexer.mark with cursor := lexer.cursor.forwardWhile isBlank } else lexer
  | [] => lexer

/-- The next token, or `none` if only blanks are left. -/
def next (lexer : Lexer) : Option Token × Lexer :=
  let lexer := lexer.skipBlanks
  match Rule.ofText? lexer.cursor.rest with
  | none => (none, lexer)
  | some rule =>
    let (token, lexer) := lexer.mark.apply rule
    (some token, lexer)

@[simp] theorem cursor_mark (lexer : Lexer) : lexer.mark.cursor = lexer.cursor := rfl

@[simp] theorem rest_apply (lexer : Lexer) (rule : Rule) :
    (lexer.apply rule).2.cursor.rest =
      lexer.cursor.rest.drop (rule.read lexer.cursor.rest).raw.length := rfl

theorem length_rest_skipBlanks_le (lexer : Lexer) :
    lexer.skipBlanks.cursor.rest.length ≤ lexer.cursor.rest.length := by
  unfold skipBlanks
  split
  · split
    · simp [Cursor.forwardWhile]
    · exact Nat.le_refl _
  · exact Nat.le_refl _

/-- A step that returns a token takes something from the text. -/
theorem length_rest_next_lt {lexer : Lexer} {token : Token} {after : Lexer}
    (h : lexer.next = (some token, after)) :
    after.cursor.rest.length < lexer.cursor.rest.length := by
  rw [next] at h
  split at h
  · cases h
  · next rule hrule =>
    obtain ⟨-, rfl⟩ := Prod.mk.inj h
    have hpos := List.length_pos_iff.mpr (Rule.raw_read_ne_nil hrule)
    have hprefix := (rule.raw_read_isPrefix lexer.skipBlanks.cursor.rest).length_le
    calc (lexer.skipBlanks.mark.apply rule).2.cursor.rest.length
      _ = lexer.skipBlanks.cursor.rest.length -
            (rule.read lexer.skipBlanks.cursor.rest).raw.length := by
          rw [rest_apply, cursor_mark, List.length_drop]
      _ < lexer.skipBlanks.cursor.rest.length := Nat.sub_lt (by omega) hpos
      _ ≤ lexer.cursor.rest.length := lexer.length_rest_skipBlanks_le

/-- All tokens up to the end, behind those already `found`, and the scanner at the end. -/
def finishFrom (found : Array Token) (lexer : Lexer) : Array Token × Lexer :=
  match _h : lexer.next with
  | (none, after) => (found, after)
  | (some token, after) => finishFrom (found.push token) after
termination_by lexer.cursor.rest.length
decreasing_by exact length_rest_next_lt _h

/-- All tokens up to the end, and the scanner at the end. -/
def finish (lexer : Lexer) : List Token × Lexer :=
  let (tokens, after) := finishFrom #[] lexer
  (tokens.toList, after)

end Lexer

end TokenScan
