import TokenScan.Lexer

/-!
# Scanning a whole text

The result of scanning a text from its first character to its last: the tokens in order, and the
diagnostics in order. Scanning itself cannot fail. Who wants a clean text asks for
`Scan.strict`, which turns any diagnostic into an error; who knows better first drops some codes
with `Scan.allow`.

## Main definitions

* `Scan.ofText` — the result for a text
* `Scan.allow` — drops the diagnostics with the given codes
* `Scan.strict`, `LexError` — the tokens, or the reason why the text is not clean
-/

namespace TokenScan

/-- What scanning a text gives. -/
structure Scan where
  /-- The tokens, in the order of the text. -/
  tokens : List Token
  /-- The diagnostics, in the order in which they arose. -/
  diagnostics : List Diagnostic
deriving DecidableEq

/-- A text that had to be clean is not. -/
inductive LexError where
  /-- There are diagnostics: how many, and the first of them. -/
  | diagnostics (count : Nat) (first : Diagnostic)
deriving DecidableEq

/-- The text of an error. -/
def LexError.message : LexError → String
  | .diagnostics count first =>
    Text.decimal count ++ " diagnostic(s) reported, first: " ++ first.display

namespace Scan

/-- The result of scanning a text. -/
def ofText (source : String) : Scan :=
  let (tokens, after) := (Lexer.ofText source.toList .empty).finish
  ⟨tokens, after.handler.toList⟩

/-- Whether there is any diagnostic. -/
def hasWarnings (scan : Scan) : Bool := !scan.diagnostics.isEmpty

/-- Whether a diagnostic has one of the given codes. A diagnostic without a code has none. -/
def isAllowed (codes : List DiagnosticCode) (d : Diagnostic) : Bool :=
  match d.code? with
  | some code => codes.contains code
  | none => false

/-- Drops the diagnostics that have one of the given codes. -/
def allow (codes : List DiagnosticCode) (scan : Scan) : Scan :=
  { scan with diagnostics := scan.diagnostics.filter fun d => !isAllowed codes d }

/-- The tokens of a clean result. -/
def strict (scan : Scan) : Except LexError (List Token) :=
  match scan.diagnostics with
  | [] => .ok scan.tokens
  | first :: _ => .error (.diagnostics scan.diagnostics.length first)

end Scan

end TokenScan
