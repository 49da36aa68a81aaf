import TokenScan.Log
import TokenScan.Report

/-!
# What comes of a run

A run is a list of all that it writes, in order, and the failure that ended it, if one did. The
list mixes three things: the report on the standard output, the report on the standard error
stream, and the log. Performing a run is then only a matter of writing that list.

## Main definitions

* `Emission`, `Outcome` — what a run writes, and how it ends
* `Outcome.output`, `Outcome.diagnostics`, `Outcome.log` — the three things, each by itself
-/

namespace TokenScan

/-- Something that a run writes. -/
inductive Emission where
  /-- A report on the standard output. -/
  | output (report : List Chunk)
  /-- A report on the standard error stream. -/
  | diagnostics (report : List Chunk)
  /-- An entry of the log. -/
  | log (entry : LogEntry)

/-- What comes of a run. -/
structure Outcome where
  /-- What it writes, in order. -/
  emissions : List Emission
  /-- Why it failed, if it did. -/
  failure? : Option Failure

namespace Outcome

/-- A run that fails before it writes anything. -/
def failed (failure : Failure) : Outcome := ⟨[], some failure⟩

/-- What a run writes to the standard output. -/
def output (outcome : Outcome) : List Chunk :=
  outcome.emissions.flatMap fun
    | .output report => report
    | _ => []

/-- What a run reports on the standard error stream, without the log and the failure. -/
def diagnostics (outcome : Outcome) : List Chunk :=
  outcome.emissions.flatMap fun
    | .diagnostics report => report
    | _ => []

/-- The log of a run. -/
def log (outcome : Outcome) : List LogEntry :=
  outcome.emissions.flatMap fun
    | .log entry => [entry]
    | _ => []

/-- Drops the entries of the log that are not to be shown. -/
def showing (verbose : Bool) (outcome : Outcome) : Outcome :=
  { outcome with
    emissions := outcome.emissions.filter fun
      | .log entry => entry.isShown verbose
      | _ => true }

/-- The exit status that says what came of a run. -/
def status (outcome : Outcome) : Nat := if outcome.failure?.isSome then 1 else 0

end Outcome

end TokenScan
