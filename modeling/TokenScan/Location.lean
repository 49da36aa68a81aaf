import TokenScan.Text.Bytes

/-!
# Places in a text and stretches of it

A `Location` says where a reader stands in a text, in two ways at once: by the number of bytes
before it, and by line and column for people to read. Lines and columns count from one, columns
count characters, and only a line feed ends a line.

Locations are never computed from a text by searching it. They are carried along: `Location.after`
moves one character on, and `Location.past` any number of characters, so the location behind a
text is the fold of `after` over its characters.

A `Span` is a stretch of text that a report is about: the byte offsets of its two ends, and the line
and column of its start. Line or column zero means that the place is not known.

## Main definitions

* `Location`, `Location.past` — a place, and the place behind a text
* `Span` — a stretch of text

## Implementation notes

Line and column are 32-bit words, as they are in every report that shows them.
-/

namespace TokenScan

/-- A place in a text. -/
structure Location where
  /-- The number of bytes before it. -/
  offset : Nat
  /-- The line, counted from one. -/
  line : UInt32
  /-- The column in characters, counted from one. -/
  column : UInt32
deriving DecidableEq

namespace Location

/-- The place before the first character. -/
def start : Location := ⟨0, 1, 1⟩

/-- The place behind a character: a line feed leads to the start of the next line, any other
character one column to the right. -/
def after (l : Location) (c : Char) : Location :=
  if c = '\n' then ⟨l.offset + c.utf8Size, l.line + 1, 1⟩
  else ⟨l.offset + c.utf8Size, l.line, l.column + 1⟩

/-- The place behind a text. -/
def past (l : Location) (text : List Char) : Location := text.foldl after l

@[simp] theorem past_nil (l : Location) : l.past [] = l := rfl

@[simp] theorem past_cons (l : Location) (c : Char) (text : List Char) :
    l.past (c :: text) = (l.after c).past text := rfl

theorem past_append (l : Location) (a b : List Char) : l.past (a ++ b) = (l.past a).past b := by
  simp [past]

@[simp] theorem offset_after (l : Location) (c : Char) :
    (l.after c).offset = l.offset + c.utf8Size := by
  unfold after
  split <;> rfl

@[simp] theorem offset_past (l : Location) (text : List Char) :
    (l.past text).offset = l.offset + Text.byteLength text := by
  induction text generalizing l with
  | nil => simp
  | cons c text ih => rw [past_cons, ih, offset_after, Text.byteLength_cons, Nat.add_assoc]

end Location

/-- A stretch of source text. -/
structure Span where
  /-- The byte offset of its first character. -/
  start : Nat
  /-- The byte offset behind its last character. -/
  stop : Nat
  /-- The line of its start, counted from one, or zero if not known. -/
  line : UInt32
  /-- The column of its start, counted from one, or zero if not known. -/
  column : UInt32
deriving DecidableEq

namespace Span

/-- The span of a report that is about no place. -/
def nowhere : Span := ⟨0, 0, 0, 0⟩

/-- The span between two places. -/
def between (first last : Location) : Span := ⟨first.offset, last.offset, first.line, first.column⟩

/-- Whether line and column are known. -/
def hasLocation (span : Span) : Bool := 0 < span.line && 0 < span.column

end Span

end TokenScan
