/-!
# Byte offsets into a text

A text is a list of characters; offsets into it count the bytes of its UTF-8 form. This module
relates the two: `byteLength` measures a text, `boundary?` finds the character that starts at a
byte offset, and `slice?` cuts out the characters between two offsets.

An offset that falls inside a character, or past the end, belongs to no character, so the last two
are partial: they answer `none` there rather than round.

## Main definitions

* `byteLength` — the number of bytes of a text
* `boundary?` — how many characters precede a byte offset
* `slice?` — the characters between two byte offsets
-/

namespace TokenScan.Text

/-- The number of bytes that the UTF-8 form of a text takes. -/
def byteLength (text : List Char) : Nat := text.foldr (fun c bytes => c.utf8Size + bytes) 0

@[simp] theorem byteLength_nil : byteLength [] = 0 := rfl

@[simp] theorem byteLength_cons (c : Char) (text : List Char) :
    byteLength (c :: text) = c.utf8Size + byteLength text := rfl

@[simp] theorem byteLength_append (a b : List Char) :
    byteLength (a ++ b) = byteLength a + byteLength b := by
  induction a with
  | nil => simp
  | cons c a ih => rw [List.cons_append, byteLength_cons, byteLength_cons, ih, Nat.add_assoc]

/-- `boundary?` with `passed` characters already counted. -/
def boundaryFrom (passed : Nat) : List Char → Nat → Option Nat
  | _, 0 => some passed
  | [], _ + 1 => none
  | c :: rest, n + 1 =>
    if c.utf8Size ≤ n + 1 then boundaryFrom (passed + 1) rest (n + 1 - c.utf8Size) else none

/-- The number of characters that end at byte `offset`, or `none` if no character ends there and
the offset is not zero. -/
def boundary? (text : List Char) (offset : Nat) : Option Nat := boundaryFrom 0 text offset

/-- The characters from byte `start` up to byte `stop`, if both are on character boundaries and
in this order. -/
def slice? (text : List Char) (start stop : Nat) : Option (List Char) := do
  let first ← boundary? text start
  let last ← boundary? text stop
  if first ≤ last then some ((text.take last).drop first) else none

end TokenScan.Text
