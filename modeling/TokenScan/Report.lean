import TokenScan.Snippet
import TokenScan.Report.Chunk
import TokenScan.Settings

/-!
# Reports about scanned inputs

The three reports that a run writes about its inputs, in the order of the inputs: the tokens as
text, the tokens and diagnostics as JSON, and the diagnostics for people to read.

In the text report each token is a line. With more than one input, each input has a header line
with its label, and a blank line separates it from the input before. In the JSON report each input
is one document on one line. The report of diagnostics shows each of them with its source line.

## Main definitions

* `Input`, `Scanned` — a named source text, and the same with its scan
* `Report.text`, `Report.json`, `Report.diagnostics` — the three reports
-/

namespace TokenScan

/-- A named source text. -/
structure Input where
  /-- Its name in reports. -/
  label : String
  /-- The text. -/
  source : String
deriving DecidableEq

/-- A source text with its scan. -/
structure Scanned where
  /-- What was scanned. -/
  input : Input
  /-- The tokens and the diagnostics. -/
  scan : Scan
deriving DecidableEq

namespace Scanned

/-- Scans an input. -/
def ofInput (input : Input) : Scanned := ⟨input, Scan.ofText input.source⟩

/-- Drops the diagnostics that have one of the given codes. -/
def allow (codes : List DiagnosticCode) (item : Scanned) : Scanned :=
  { item with scan := item.scan.allow codes }

end Scanned

namespace Input

/-- Scans an input and drops the diagnostics that have one of the given codes. -/
def scan (input : Input) (allow : List DiagnosticCode) : Scanned :=
  (Scanned.ofInput input).allow allow

/-- Scans every input, in order. -/
def scanAll (inputs : List Input) (allow : List DiagnosticCode) : List Scanned :=
  inputs.map fun input => input.scan allow

theorem map_allow_map_ofInput (inputs : List Input) (codes : List DiagnosticCode) :
    (inputs.map Scanned.ofInput).map (Scanned.allow codes) = scanAll inputs codes := by
  simp [scanAll, scan]

end Input

namespace Report

/-- A line of running text. -/
def line (text : String) : Chunk := ⟨text ++ "\n", .stream⟩

/-! ### Text -/

/-- The line above the tokens of an input. -/
def header (label : String) : Chunk := line ("==> " ++ label ++ " <==")

/-- The lines of the tokens of an input. -/
def tokenLines (item : Scanned) : List Chunk :=
  item.scan.tokens.map fun token => line token.display

/-- The tokens of all inputs as text. -/
def text : List Scanned → List Chunk
  | [] => []
  | [item] => tokenLines item
  | first :: others =>
    header first.input.label :: tokenLines first ++
      others.flatMap fun item => line "" :: header item.input.label :: tokenLines item

/-! ### JSON -/

/-- A diagnostic as a JSON object. -/
def diagnosticJson (d : Diagnostic) : Json :=
  .object [
    ("level", .string d.severity.name),
    ("code", match d.code? with
      | some code => .string code.text
      | none => .null),
    ("message", .string d.message),
    ("line", .number d.span.line.toNat),
    ("column", .number d.span.column.toNat)]

/-- An input as a JSON object. -/
def inputJson (item : Scanned) : Json :=
  .object [
    ("file", .string item.input.label),
    ("tokens", .array (item.scan.tokens.map Token.toJson)),
    ("diagnostics", .array (item.scan.diagnostics.map diagnosticJson))]

/-- All inputs as JSON, one document on a line. -/
def json (items : List Scanned) : List Chunk :=
  items.flatMap fun item => [⟨(inputJson item).text, .document⟩, line ""]

/-! ### Diagnostics -/

/-- The diagnostics of all inputs, with their source lines. -/
def diagnostics (items : List Scanned) : List Chunk :=
  items.flatMap fun item =>
    let file : SourceFile := ⟨item.input.label, item.input.source⟩
    item.scan.diagnostics.map fun d => ⟨d.render file, .stream⟩

/-- The report of the tokens in a format. -/
def tokens (format : OutputFormat) (items : List Scanned) : List Chunk :=
  match format with
  | .text => text items
  | .json => json items

/-- The failure of a run whose receiver took no more bytes in a part of a report. -/
def writeFailure : Part → Failure
  | .document => .json .writeZero
  | .stream => .io .writeZero

end Report

end TokenScan
