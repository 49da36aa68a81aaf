import TokenScan.Diagnostic
import TokenScan.SourceFile

/-!
# Quoting a source line

A snippet shows one line of source text with a row of carets under the part that a report is
about. The carets cover the characters of the span up to the first that may end a line, a carriage
return or a line feed. So a span that runs onto later lines is underlined up to the end of the
first.

A span may be out of step with the file, for it may have been made by hand. Its ends are brought
into the file first, and if the range then cuts a character, nothing is measured. There is always
at least one caret.

The long form of a report ends in a snippet: its headline comes first, then the place in the form
`name:line:column` if the place is known, then the snippet, if the file has that line. Every row
ends in a line feed.

## Main definitions

* `Snippet.ofSpan` — the line and the columns that a span covers
* `Snippet.format` — the two rows of text
* `Diagnostic.render` — the long form of a report
-/

namespace TokenScan

/-- A source line with the columns to underline. -/
structure Snippet where
  /-- The text of the line. -/
  line : String
  /-- The number of the line, counted from one. -/
  lineNumber : Nat
  /-- The first column to underline, counted from one. -/
  startColumn : Nat
  /-- The column behind the last one to underline. -/
  endColumn : Nat
deriving DecidableEq

namespace Snippet

/-- The characters of a text from byte `start` to byte `stop`, both first brought into the text
and into order; nothing if they are not on character boundaries. -/
def clampedSlice (text : List Char) (start stop : Nat) : List Char :=
  let size := Text.byteLength text
  let first := min start size
  let last := max first (min stop size)
  (Text.slice? text first last).getD []

/-- The number of characters of a text that come before its first line ending. -/
def firstLineWidth (text : List Char) : Nat :=
  (text.takeWhile fun c => !SourceFile.isLineEnding c).length

/-- The snippet for a span of a file. -/
def ofSpan (file : SourceFile) (span : Span) : Except SourceError Snippet := do
  let line ← file.spanLine span
  let covered := clampedSlice file.content.toList span.start span.stop
  return {
    line := line
    lineNumber := span.line.toNat
    startColumn := span.column.toNat
    endColumn := span.column.toNat + firstLineWidth covered }

/-- The width of the column of line numbers: three digits, or more if the number has more. -/
def gutterWidth (snippet : Snippet) : Nat := max 3 (Text.decimal snippet.lineNumber).length

/-- The row with the source line. -/
def sourceRow (snippet : Snippet) : String :=
  Text.padLeft snippet.gutterWidth ' ' (Text.decimal snippet.lineNumber) ++ " | " ++ snippet.line

/-- The row with the carets. -/
def caretRow (snippet : Snippet) : String :=
  Text.run snippet.gutterWidth ' ' ++ " | " ++ Text.run (snippet.startColumn - 1) ' ' ++
    Text.run (max 1 (snippet.endColumn - snippet.startColumn)) '^'

/-- Both rows, with a line feed between them. -/
def format (snippet : Snippet) : String := snippet.sourceRow ++ "\n" ++ snippet.caretRow

end Snippet

/-! ### Reports with their source line -/

namespace Diagnostic

/-- The row that names the place. -/
def arrowRow (d : Diagnostic) (file : SourceFile) : String :=
  "  --> " ++ file.name ++ ":" ++ Text.decimal d.span.line.toNat ++ ":" ++
    Text.decimal d.span.column.toNat

/-- The rows that quote the source line, if there are any. -/
def snippetRows (d : Diagnostic) (file : SourceFile) : String :=
  match Snippet.ofSpan file d.span with
  | .ok snippet => snippet.format ++ "\n"
  | .error _ => ""

/-- The long form of a report about a file. -/
def render (d : Diagnostic) (file : SourceFile) : String :=
  let head := d.headline ++ "\n"
  if d.span.hasLocation then head ++ d.arrowRow file ++ "\n" ++ d.snippetRows file else head

end Diagnostic

end TokenScan
