import TokenScan.Diagnostic.Code
import TokenScan.Location

/-!
# Diagnostics

A diagnostic is something worth reporting about a source text: a message, the place it is about,
and usually a code. The scanner never rejects a text, so every diagnostic is a warning.

Diagnostics are collected by a `Handler` in the order in which they arise.

## Main definitions

* `Diagnostic`, `Diagnostic.display` — a report, and its one-line text
* `Handler` — the reports collected so far
-/

namespace TokenScan

/-- How grave a report is. -/
inductive Severity where
  /-- Worth knowing, but no reason to stop. -/
  | warning
deriving DecidableEq

/-- The name of a severity in reports. -/
def Severity.name : Severity → String
  | .warning => "warning"

/-- A report about a source text. -/
structure Diagnostic where
  /-- How grave it is. -/
  severity : Severity
  /-- What is reported. -/
  message : String
  /-- What it is about. -/
  span : Span
  /-- The kind of report. -/
  code? : Option DiagnosticCode
deriving DecidableEq

namespace Diagnostic

/-- A warning. -/
def warning (message : String) (code? : Option DiagnosticCode) (span : Span) : Diagnostic where
  severity := .warning
  message := message
  span := span
  code? := code?

/-- What a report begins with: severity, code if there is one, and message. -/
def headline (d : Diagnostic) : String :=
  match d.code? with
  | some code => d.severity.name ++ "[" ++ code.text ++ "]: " ++ d.message
  | none => d.severity.name ++ ": " ++ d.message

/-- A report on one line, with its place if that is known. -/
def display (d : Diagnostic) : String :=
  if d.span.hasLocation then
    d.headline ++ " at " ++ Text.decimal d.span.line.toNat ++ ":" ++
      Text.decimal d.span.column.toNat
  else d.headline

end Diagnostic

/-- The reports collected so far, in the order in which they arose. -/
structure Handler where
  /-- The reports. -/
  collected : Array Diagnostic
deriving DecidableEq

namespace Handler

/-- A handler that has collected nothing. -/
def empty : Handler := ⟨#[]⟩

/-- Adds a report behind the others. -/
def emit (handler : Handler) (d : Diagnostic) : Handler := ⟨handler.collected.push d⟩

/-- The reports, in order. -/
def toList (handler : Handler) : List Diagnostic := handler.collected.toList

/-- Whether nothing has been reported. -/
def isEmpty (handler : Handler) : Bool := handler.collected.isEmpty

/-- The number of warnings. -/
def warningCount (handler : Handler) : Nat :=
  handler.toList.countP fun d => d.severity = .warning

/-- Hands over the reports; none is left behind. -/
def take (handler : Handler) : List Diagnostic × Handler := (handler.toList, empty)

@[simp] theorem toList_empty : empty.toList = [] := rfl

@[simp] theorem toList_emit (handler : Handler) (d : Diagnostic) :
    (handler.emit d).toList = handler.toList ++ [d] := by
  simp [emit, toList]

@[ext] theorem ext_toList {a b : Handler} (h : a.toList = b.toList) : a = b := by
  cases a
  cases b
  exact congrArg Handler.mk (Array.ext' h)

end Handler

end TokenScan
