/-!
# Writing in pieces

A report is written piece by piece, and the receiver may stop taking bytes at any point. What is
then reported depends on the piece that was being written: inside a document it is a failure of
the document, anywhere else a failure of the stream.

So a report is a list of chunks, each of which knows what it is part of. `Chunk.deliver` writes
them to a receiver with a limited number of bytes to spare: it takes every chunk that fits, and of
the first one that does not fit as much as there is room for.

## Main definitions

* `Chunk`, `Chunk.join` — a report in pieces, and its whole text
* `Chunk.deliver` — writing to a limited receiver
-/

namespace TokenScan

/-- What a piece of a report is part of. -/
inductive Part where
  /-- The running text of a report. -/
  | stream
  /-- The inside of a document. -/
  | document
deriving DecidableEq

/-- A piece of a report. -/
structure Chunk where
  /-- The text to write. -/
  text : String
  /-- What it is part of. -/
  part : Part

/-- The bytes of a text. -/
def bytesOf (text : String) : List UInt8 := text.toByteArray.data.toList

@[simp] theorem bytesOf_append (a b : String) : bytesOf (a ++ b) = bytesOf a ++ bytesOf b := by
  simp [bytesOf]

/-- What became of a delivery. -/
structure Delivery where
  /-- The bytes that the receiver took. -/
  accepted : List UInt8
  /-- What was being written when it took no more, if it came to that. -/
  stoppedIn? : Option Part
deriving DecidableEq

namespace Chunk

/-- The text of a whole report. -/
def join (chunks : List Chunk) : String := String.join (chunks.map Chunk.text)

/-- Writes a report to a receiver with room for `room` bytes. -/
def deliver (room : Nat) : List Chunk → Delivery
  | [] => ⟨[], none⟩
  | chunk :: chunks =>
    let bytes := bytesOf chunk.text
    if bytes.length ≤ room then
      let later := deliver (room - bytes.length) chunks
      ⟨bytes ++ later.accepted, later.stoppedIn?⟩
    else ⟨bytes.take room, some chunk.part⟩

end Chunk

end TokenScan
