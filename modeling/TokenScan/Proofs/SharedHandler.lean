import TokenScan.Proofs.Portion

/-!
# One handler for many scans

A handler is lent to a scanner and comes back when the text is at its end. It can then be lent
again, to scan another text, and its reports can be taken out in between. This module says what
such a handler does to the scans, which is nothing, and what they do to it, which is to add reports
behind those that it holds.

What was taken out is compared with the uses themselves, cut up at each taking: between two of them
stand the scans whose reports the later one returns. What is held at the end is one more batch, so
that all batches together account for every report.

## Main definitions

* `Handler.scan` — lends a handler to a scanner
* `Handler.Use`, `Handler.record` — uses of a handler one after the other, and what comes of them
* `Handler.Accumulates` — scans are not influenced, and reports are neither lost nor repeated

## Main results

* `Handler.fst_scan`, `Handler.toList_snd_scan` — a scan with a lent handler is like any other
* `shared_handler_accumulates` — a shared handler only accumulates
-/

namespace TokenScan

namespace Handler

/-- Lends a handler to a scanner for a whole text. -/
def scan (handler : Handler) (source : String) : List Token × Handler :=
  let (tokens, after) := (Lexer.ofText source.toList handler).finish
  (tokens, after.handler)

/-- The scan finds the tokens that it finds with a handler of its own. -/
theorem fst_scan (handler : Handler) (source : String) :
    (handler.scan source).1 = (Scan.ofText source).tokens := by
  rw [Scan.tokens_ofText]
  exact Lexer.tokens_finish (.ofText source.toList handler)

/-- The handler comes back with the reports of the scan behind those that it held. -/
theorem toList_snd_scan (handler : Handler) (source : String) :
    (handler.scan source).2.toList = handler.toList ++ (Scan.ofText source).diagnostics := by
  rw [Scan.diagnostics_ofText]
  exact Lexer.toList_handler_finish (.ofText source.toList handler)

/-- Something that a handler is used for. -/
inductive Use where
  /-- A text is scanned, and the handler collects the reports. -/
  | scan (source : String)
  /-- The reports are taken out. -/
  | take
deriving DecidableEq

/-- The text that is scanned. -/
def Use.source? : Use → Option String
  | .scan source => some source
  | .take => none

/-- What comes of a number of uses. -/
structure Record where
  /-- The tokens of each scan, in order. -/
  scanned : List (List Token)
  /-- What was taken out each time, in order. -/
  taken : List (List Diagnostic)
  /-- The handler behind the last use. -/
  handler : Handler

/-- Uses a handler for one thing after the other. -/
def record (handler : Handler) : List Use → Record
  | [] => ⟨[], [], handler⟩
  | .scan source :: uses =>
    let (tokens, lent) := handler.scan source
    let later := lent.record uses
    { later with scanned := tokens :: later.scanned }
  | .take :: uses =>
    let (reports, left) := handler.take
    let later := left.record uses
    { later with taken := reports :: later.taken }

/-- The reports of scans, each with a handler of its own. -/
def Use.reports (uses : List Use) : List Diagnostic :=
  (uses.filterMap source?).flatMap fun source => (Scan.ofText source).diagnostics

/-- The uses of a handler leave their scans alone, and only add to what it holds. -/
structure Accumulates (handler : Handler) (uses : List Use) (record : Record) : Prop where
  /-- Each scan finds what a scan of its text alone finds. -/
  scanned_eq : record.scanned =
    (uses.filterMap Use.source?).map fun source => (Scan.ofText source).tokens
  /-- What is taken out, and at last what is held, is what was added since the time before. The
  first time, it is also what the handler held before all uses. -/
  taken_eq : record.taken ++ [record.handler.toList] =
    ((uses.splitOn .take).map Use.reports).modifyHead fun reports => handler.toList ++ reports
  /-- Every report was returned once or is still held, in the order in which they arose. -/
  conserved : record.taken.flatten ++ record.handler.toList = handler.toList ++ Use.reports uses
  /-- If nothing was taken out, the handler holds what it held before, and then the rest. -/
  held_eq : .take ∉ uses → record.handler.toList = handler.toList ++ Use.reports uses

namespace Use

variable (source : String) (uses : List Use)

@[simp] theorem reports_nil : reports [] = [] := rfl

@[simp] theorem reports_scan_cons :
    reports (.scan source :: uses) = (Scan.ofText source).diagnostics ++ reports uses := rfl

@[simp] theorem reports_take_cons : reports (.take :: uses) = reports uses := rfl

theorem splitOn_scan_cons :
    (.scan source :: uses).splitOn .take = (uses.splitOn .take).modifyHead (.scan source :: ·) := by
  rw [List.splitOn_cons_eq_if_modifyHead, if_neg (by simp)]

theorem splitOn_take_cons : (.take :: uses).splitOn .take = [] :: uses.splitOn .take := by
  rw [List.splitOn_cons_eq_if_modifyHead, if_pos (by simp)]

end Use

variable (handler : Handler) (uses : List Use)

theorem record_scan_cons (source : String) :
    handler.record (.scan source :: uses) =
      { (handler.scan source).2.record uses with
        scanned := (handler.scan source).1 :: ((handler.scan source).2.record uses).scanned } :=
  rfl

theorem record_take_cons :
    handler.record (.take :: uses) =
      { empty.record uses with taken := handler.toList :: (empty.record uses).taken } := rfl

theorem scanned_record : (handler.record uses).scanned =
    (uses.filterMap Use.source?).map fun source => (Scan.ofText source).tokens := by
  induction uses generalizing handler with
  | nil => rfl
  | cons use uses ih =>
    cases use with
    | scan source =>
      rw [record_scan_cons, ih, fst_scan]
      rfl
    | take => exact ih empty

/-- **What is taken out.** A scan adds its reports to the batch that is next, and a taking begins a
new batch with nothing in it. -/
theorem taken_record : (handler.record uses).taken ++ [(handler.record uses).handler.toList] =
    ((uses.splitOn .take).map Use.reports).modifyHead fun reports => handler.toList ++ reports := by
  induction uses generalizing handler with
  | nil => simp [record]
  | cons use uses ih =>
    obtain ⟨first, others, hsplit⟩ := List.exists_cons_of_ne_nil (List.splitOn_ne_nil .take uses)
    rw [hsplit] at ih
    cases use with
    | scan source =>
      have hlater := ih (handler.scan source).2
      rw [toList_snd_scan] at hlater
      rw [Use.splitOn_scan_cons, hsplit, record_scan_cons]
      simpa using hlater
    | take =>
      have hlater := ih empty
      rw [Use.splitOn_take_cons, hsplit, record_take_cons]
      simpa using hlater

/-- **No report is lost or repeated.** -/
theorem flatten_taken_record :
    (handler.record uses).taken.flatten ++ (handler.record uses).handler.toList =
      handler.toList ++ Use.reports uses := by
  induction uses generalizing handler with
  | nil => simp [record]
  | cons use uses ih =>
    cases use with
    | scan source =>
      have hlater := ih (handler.scan source).2
      rw [toList_snd_scan, List.append_assoc] at hlater
      exact hlater
    | take =>
      have hlater := ih empty
      rw [record_take_cons]
      simpa using hlater

/-- Without a taking there is one batch, and it is held. -/
theorem toList_handler_record (h : .take ∉ uses) :
    (handler.record uses).handler.toList = handler.toList ++ Use.reports uses := by
  have hbatches := handler.taken_record uses
  rw [List.splitOn_eq_singleton h, List.map_singleton, List.modifyHead_cons] at hbatches
  simpa using congrArg List.getLast? hbatches

end Handler

/-- **A shared handler only accumulates.** Whatever it holds at first, and however scans and takings
follow one another, every scan finds what it finds alone, and every report is handed over at the
next taking, once, or is held at the end. -/
theorem shared_handler_accumulates (handler : Handler) (uses : List Handler.Use) :
    handler.Accumulates uses (handler.record uses) where
  scanned_eq := handler.scanned_record uses
  taken_eq := handler.taken_record uses
  conserved := handler.flatten_taken_record uses
  held_eq := handler.toList_handler_record uses

end TokenScan
