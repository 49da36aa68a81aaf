import TokenScan.Location
import TokenScan.Text.Printed

/-!
# Source files and their lines

A source file has a name and a content. Reports quote single lines of it, which are found through
the line table: the byte offset where each line starts. Only a line feed ends a line; the carriage
returns at the end of a line are not part of its text.

There is always one line more than there are line feeds, so the empty file has one empty line.

## Main definitions

* `SourceFile.lineStarts` — the line table
* `SourceFile.lineText` — the text of a line
* `SourceFile.spanLine` — the text of the line that a span starts on
-/

namespace TokenScan

/-- Why a line cannot be quoted. -/
inductive SourceError where
  /-- The file has no line of this number. -/
  | invalidLineNumber (line count : Nat)
  /-- The span has no line or no column. -/
  | missingLocation
deriving DecidableEq

/-- The text of an error. -/
def SourceError.message : SourceError → String
  | .invalidLineNumber line count =>
    "Invalid line number: " ++ Text.decimal line ++ " (file has " ++ Text.decimal count ++
      " lines)"
  | .missingLocation => "Span has no source location"

/-- A named source text. -/
structure SourceFile where
  /-- The name in reports. -/
  name : String
  /-- The text. -/
  content : String

namespace SourceFile

/-- The byte offsets behind the line feeds of a text that itself starts at byte `offset`. -/
def startsFrom (offset : Nat) : List Char → List Nat
  | [] => []
  | c :: rest =>
    let next := offset + c.utf8Size
    if c = '\n' then next :: startsFrom next rest else startsFrom next rest

/-- The byte offset where each line starts, the first line first. -/
def lineStarts (file : SourceFile) : List Nat := 0 :: startsFrom 0 file.content.toList

/-- The number of lines. -/
def lineCount (file : SourceFile) : Nat := file.lineStarts.length

/-- The number of bytes of the content. -/
def byteLength (file : SourceFile) : Nat := Text.byteLength file.content.toList

/-- Whether a character may be part of a line ending. -/
def isLineEnding (c : Char) : Bool := c == '\n' || c == '\r'

/-- A text without the line endings at its end. -/
def trimLineEnding (text : List Char) : List Char :=
  (text.reverse.dropWhile isLineEnding).reverse

/-- The text of a line, counted from one, without its line ending. -/
def lineText (file : SourceFile) (line : Nat) : Except SourceError String :=
  let starts := file.lineStarts
  let found := do
    let index ← if line = 0 then none else some (line - 1)
    let start ← starts[index]?
    let stop := (starts[index + 1]?).getD file.byteLength
    Text.slice? file.content.toList start stop
  match found with
  | some text => .ok (String.ofList (trimLineEnding text))
  | none => .error (.invalidLineNumber line file.lineCount)

/-- The text of the line that a span starts on. -/
def spanLine (file : SourceFile) (span : Span) : Except SourceError String :=
  if span.hasLocation then file.lineText span.line.toNat else .error .missingLocation

end SourceFile

end TokenScan
