import TokenScan.Location

/-!
# A cursor over a text

A cursor stands between two characters of a text. It holds the characters already passed, nearest
first, the characters still to come, and the location between them. All of its motions are
forward, and all of them are `Cursor.forward`: a motion is a number of characters.

At the end of the text there is no character to look at. `Cursor.peek` answers NUL there, which is
also a character that a text may hold; `Cursor.atEnd` tells the two apart.

## Main definitions

* `Cursor.forward` — passes a number of characters, or as many as there are
* `Cursor.advance`, `Cursor.forwardWhile`, `Cursor.accept` — the motions that look first
* `Cursor.textFrom?` — the text between a byte offset and the cursor
-/

namespace TokenScan

/-- A place between two characters of a text. -/
structure Cursor where
  /-- The characters before the cursor, nearest first. -/
  passed : List Char
  /-- The characters after the cursor. -/
  rest : List Char
  /-- Where the cursor stands. -/
  location : Location

namespace Cursor

/-- The cursor before the first character of a text. -/
def ofText (text : List Char) : Cursor := ⟨[], text, .start⟩

/-- The characters before the cursor, in reading order. -/
def before (cursor : Cursor) : List Char := cursor.passed.reverse

/-- The whole text that the cursor stands in. -/
def text (cursor : Cursor) : List Char := cursor.passed.reverseAux cursor.rest

/-- Whether no character is left. -/
def atEnd (cursor : Cursor) : Bool := cursor.rest.isEmpty

/-- The character `n` places past the next one, or NUL if there is none. -/
def peek (cursor : Cursor) (n : Nat) : Char := cursor.rest.getD n '\x00'

/-- The next character, or NUL at the end. -/
def current (cursor : Cursor) : Char := cursor.peek 0

/-- Passes `n` characters, or all that are left if there are fewer. -/
def forward (cursor : Cursor) (n : Nat) : Cursor where
  passed := (cursor.rest.take n).reverseAux cursor.passed
  rest := cursor.rest.drop n
  location := cursor.location.past (cursor.rest.take n)

/-- Passes the next character and returns it. -/
def advance (cursor : Cursor) : Option Char × Cursor := (cursor.rest.head?, cursor.forward 1)

/-- Passes the longest run of characters that all satisfy `p`. -/
def forwardWhile (cursor : Cursor) (p : Char → Bool) : Cursor :=
  cursor.forward (cursor.rest.takeWhile p).length

/-- Passes the next character if it is `c`, and says whether it was. -/
def accept (cursor : Cursor) (c : Char) : Bool × Cursor :=
  if cursor.rest.head? = some c then (true, cursor.forward 1) else (false, cursor)

/-- The text between byte `start` and the cursor, if `start` is a character boundary at or before
the cursor. -/
def textFrom? (cursor : Cursor) (start : Nat) : Option (List Char) :=
  Text.slice? cursor.before start cursor.location.offset

@[simp] theorem rest_forward (cursor : Cursor) (n : Nat) :
    (cursor.forward n).rest = cursor.rest.drop n := rfl

@[simp] theorem before_forward (cursor : Cursor) (n : Nat) :
    (cursor.forward n).before = cursor.before ++ cursor.rest.take n := by
  simp [forward, before, List.reverseAux_eq]

@[simp] theorem location_forward (cursor : Cursor) (n : Nat) :
    (cursor.forward n).location = cursor.location.past (cursor.rest.take n) := rfl

theorem text_eq (cursor : Cursor) : cursor.text = cursor.before ++ cursor.rest := by
  simp [text, before, List.reverseAux_eq]

/-- No motion changes the text. -/
@[simp] theorem text_forward (cursor : Cursor) (n : Nat) :
    (cursor.forward n).text = cursor.text := by
  rw [text_eq, text_eq, before_forward, rest_forward, List.append_assoc, List.take_append_drop]

end Cursor

end TokenScan
