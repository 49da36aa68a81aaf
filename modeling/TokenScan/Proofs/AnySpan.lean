import TokenScan.Proofs.LineTable
import TokenScan.Proofs.Rendering
import TokenScan.Proofs.Utf8

/-!
# Spans that fit nothing

A report is a value that anybody can make, so its span may be about no place of the file that it is
shown with: its ends may be in the wrong order, behind the text or inside a character, and its line
may not exist. This module says what is then shown. There are three answers and each has its reason:
the span has no line or no column, the file has no such line, or the line is shown, with an
underline that is as wide as the bytes of the span allow.

## Steps that can fail

Two of the steps on the way have a precondition. A number is brought between two bounds, which have
to be in order, and a line is cut out of the text, between two characters. `Snippet.ofSpan?` makes
the same steps and has no answer where one of them fails, and it always has the answer of
`Snippet.ofSpan`. The bytes of the span are cut out too, but there a failure is an empty underline.

## Main definitions

* `Span.startIn`, `Span.stopIn` — the ends of a span, brought into a text
* `Snippet.ofSpan?` — the snippet for a span, by steps that may fail
* `Snippet.Fits` — what holds of a snippet, however little the span fits the file
* `Diagnostic.ShownAnyway` — what is shown of a report

## Main results

* `Snippet.ofSpan?_eq` — no step fails
* `Snippet.ofSpan_cases` — the three answers and their reasons
* `any_span_is_shown` — every report is shown, whatever its span
-/

namespace TokenScan

open Text

/-! ### Cutting between two offsets -/

namespace Text

/-- A number brought between two bounds, if the bounds are in order. -/
def clamp? (n low high : Nat) : Option Nat :=
  if low ≤ high then some (max low (min n high)) else none

/-- An offset lies between two characters if it is the length of a front of the text. -/
theorem boundary?_eq_some_iff {text : List Char} {offset n : Nat} :
    boundary? text offset = some n ↔ n ≤ text.length ∧ byteLength (text.take n) = offset := by
  have hfront (n : Nat) :
      boundary? text (byteLength (text.take n)) = some (text.take n).length := by
    have happend := boundary?_append (text.take n) (text.drop n)
    rwa [List.take_append_drop] at happend
  constructor
  · intro h
    have htake := byteLength_take_of_boundary? h
    have hlength : (text.take n).length = n := by
      rw [← htake, hfront] at h
      exact Option.some.inj h
    rw [List.length_take] at hlength
    exact ⟨by omega, htake⟩
  · rintro ⟨hle, rfl⟩
    rw [hfront, List.length_take, Nat.min_eq_left hle]

theorem take_append_drop_take {m n : Nat} (hmn : m ≤ n) (text : List Char) :
    text.take m ++ (text.take n).drop m = text.take n := by
  conv_rhs => rw [← List.take_append_drop m (text.take n), List.take_take, Nat.min_eq_left hmn]

theorem byteLength_take_lt {text : List Char} {m n : Nat} (hmn : m < n) (hn : n ≤ text.length) :
    byteLength (text.take m) < byteLength (text.take n) := by
  have hne : (text.take n).drop m ≠ [] := by
    rw [← List.length_pos_iff, List.length_drop, List.length_take]
    omega
  have hpos := byteLength_pos hne
  rw [← take_append_drop_take hmn.le text, byteLength_append]
  omega

section

variable {text : List Char} {start stop m n : Nat}

/-- Two boundaries in order have characters in order in front of them. -/
theorem le_of_boundary? (hle : start ≤ stop) (hstart : boundary? text start = some m)
    (hstop : boundary? text stop = some n) : m ≤ n := by
  by_contra hlt
  obtain ⟨hm, rfl⟩ := boundary?_eq_some_iff.mp hstart
  obtain ⟨-, rfl⟩ := boundary?_eq_some_iff.mp hstop
  have hbytes := byteLength_take_lt (Nat.lt_of_not_le hlt) hm
  omega

/-- Two boundaries in order can be cut between. -/
theorem slice?_of_boundary? (hle : start ≤ stop) (hstart : boundary? text start = some m)
    (hstop : boundary? text stop = some n) :
    slice? text start stop = some ((text.take n).drop m) := by
  have hmn : m ≤ n := le_of_boundary? hle hstart hstop
  rw [slice?, hstart, hstop]
  simp only [Option.bind_eq_bind, Option.bind_some, if_pos hmn]

end

theorem length_le_byteLength (text : List Char) : text.length ≤ byteLength text := by
  induction text with
  | nil => exact Nat.le_refl 0
  | cons c text ih =>
    have hpos := c.utf8Size_pos
    rw [List.length_cons, byteLength_cons]
    omega

end Text

/-! ### The ends of a span in a text -/

namespace Span

/-- The start of a span, brought into a text of so many bytes. -/
def startIn (span : Span) (size : Nat) : Nat := min span.start size

/-- The end of a span, brought into a text of so many bytes and behind the start. -/
def stopIn (span : Span) (size : Nat) : Nat := max (span.startIn size) (min span.stop size)

/-- The range of a span, brought into a text, has something in it and lies between characters. -/
structure CutsOut (span : Span) (text : List Char) : Prop where
  /-- It is not empty. -/
  lt : span.startIn (byteLength text) < span.stopIn (byteLength text)
  /-- It starts between two characters. -/
  start_boundary : (boundary? text (span.startIn (byteLength text))).isSome = true
  /-- It ends between two characters. -/
  stop_boundary : (boundary? text (span.stopIn (byteLength text))).isSome = true

theorem startIn_le (span : Span) (size : Nat) : span.startIn size ≤ size := Nat.min_le_right ..

theorem startIn_le_stopIn (span : Span) (size : Nat) : span.startIn size ≤ span.stopIn size :=
  Nat.le_max_left ..

theorem hasLocation_iff (span : Span) :
    span.hasLocation = true ↔ span.line ≠ 0 ∧ span.column ≠ 0 := by
  simp [hasLocation, UInt32.pos_iff_ne_zero]

theorem not_hasLocation_iff (span : Span) :
    ¬ span.hasLocation = true ↔ span.line = 0 ∨ span.column = 0 := by
  rw [hasLocation_iff]
  tauto

variable {span : Span} {text : List Char}

/-- The two bounds of the end of a span are in order. -/
theorem clamp?_stop (span : Span) (size : Nat) :
    clamp? span.stop (span.startIn size) size = some (span.stopIn size) :=
  if_pos (span.startIn_le size)

theorem clampedSlice_eq_getD (span : Span) (text : List Char) :
    Snippet.clampedSlice text span.start span.stop =
      (slice? text (span.startIn (byteLength text)) (span.stopIn (byteLength text))).getD [] := rfl

/-- A range with something in it, between characters, is cut out. -/
theorem CutsOut.exists_slice? (h : span.CutsOut text) :
    ∃ raw, slice? text (span.startIn (byteLength text)) (span.stopIn (byteLength text)) =
        some raw ∧
      Snippet.clampedSlice text span.start span.stop = raw := by
  obtain ⟨m, hm⟩ := Option.isSome_iff_exists.mp h.start_boundary
  obtain ⟨n, hn⟩ := Option.isSome_iff_exists.mp h.stop_boundary
  have hslice := slice?_of_boundary? h.lt.le hm hn
  refine ⟨_, hslice, ?_⟩
  rw [clampedSlice_eq_getD, hslice, Option.getD_some]

/-- Of any other range nothing is left. -/
theorem clampedSlice_eq_nil (h : ¬ span.CutsOut text) :
    Snippet.clampedSlice text span.start span.stop = [] := by
  rw [clampedSlice_eq_getD]
  cases hstart : boundary? text (span.startIn (byteLength text)) with
  | none => simp [slice?, hstart]
  | some m =>
    cases hstop : boundary? text (span.stopIn (byteLength text)) with
    | none => simp [slice?, hstart, hstop]
    | some n =>
      have heq : span.startIn (byteLength text) = span.stopIn (byteLength text) := by
        by_contra hne
        have hle := span.startIn_le_stopIn (byteLength text)
        exact h ⟨by omega, by rw [hstart]; rfl, by rw [hstop]; rfl⟩
      rw [heq] at hstart ⊢
      rw [slice?_of_boundary? (Nat.le_refl _) hstart hstop, Option.getD_some]
      obtain rfl : m = n := Option.some.inj (hstart.symm.trans hstop)
      exact List.drop_eq_nil_of_le (List.length_take_le ..)

/-- What is cut out is part of the text. -/
theorem length_clampedSlice_le (span : Span) (text : List Char) :
    (Snippet.clampedSlice text span.start span.stop).length ≤ text.length := by
  by_cases h : span.CutsOut text
  · obtain ⟨raw, hslice, hraw⟩ := h.exists_slice?
    obtain ⟨m, hm⟩ := Option.isSome_iff_exists.mp h.start_boundary
    obtain ⟨n, hn⟩ := Option.isSome_iff_exists.mp h.stop_boundary
    rw [slice?_of_boundary? h.lt.le hm hn] at hslice
    rw [hraw, ← Option.some.inj hslice, List.length_drop, List.length_take]
    omega
  · rw [clampedSlice_eq_nil h]
    exact Nat.zero_le _

end Span

/-! ### The three answers -/

namespace Snippet

theorem firstLineWidth_le (text : List Char) : firstLineWidth text ≤ text.length :=
  (List.takeWhile_prefix _).length_le

/-- The snippet for a span, by steps that may fail: the line has to be cut out between two
characters, and the end of the span is brought between two bounds that have to be in order. -/
def ofSpan? (file : SourceFile) (span : Span) : Option (Except SourceError Snippet) := do
  let found ←
    if span.hasLocation then file.lineText? span.line.toNat else some (.error .missingLocation)
  match found with
  | .error cause => return .error cause
  | .ok line =>
    let text := file.content.toList
    let first := span.startIn file.byteLength
    let last ← clamp? span.stop first file.byteLength
    let covered := (slice? text first last).getD []
    return .ok ⟨line, span.line.toNat, span.column.toNat,
      span.column.toNat + firstLineWidth covered⟩

/-- **No step fails.** -/
theorem ofSpan?_eq (file : SourceFile) (span : Span) :
    ofSpan? file span = some (ofSpan file span) := by
  rw [ofSpan?, ofSpan, SourceFile.spanLine, file.lineText?_eq]
  by_cases hlocation : span.hasLocation = true
  · rw [if_pos hlocation, if_pos hlocation]
    cases file.lineText span.line.toNat with
    | error cause => rfl
    | ok line =>
      simp only [Option.bind_eq_bind, Option.bind_some, span.clamp?_stop]
      rfl
  · rw [if_neg hlocation, if_neg hlocation]
    rfl

/-- The snippet that shows a line for a span. -/
def showing (line : String) (file : SourceFile) (span : Span) : Snippet where
  line := line
  lineNumber := span.line.toNat
  startColumn := span.column.toNat
  endColumn := span.column.toNat +
    firstLineWidth (clampedSlice file.content.toList span.start span.stop)

variable {file : SourceFile} {span : Span}

theorem ofSpan_of_missing (h : span.line = 0 ∨ span.column = 0) :
    ofSpan file span = .error .missingLocation := by
  rw [ofSpan, SourceFile.spanLine, if_neg (span.not_hasLocation_iff.mpr h)]
  rfl

theorem ofSpan_of_lineText {line : String} (h : span.line ≠ 0 ∧ span.column ≠ 0)
    (hline : file.lineText span.line.toNat = .ok line) :
    ofSpan file span = .ok (showing line file span) := by
  rw [ofSpan, SourceFile.spanLine, if_pos (span.hasLocation_iff.mpr h), hline]
  rfl

theorem ofSpan_of_lineCount_lt (h : span.line ≠ 0 ∧ span.column ≠ 0)
    (hlt : file.lineCount < span.line.toNat) :
    ofSpan file span = .error (.invalidLineNumber span.line.toNat file.lineCount) := by
  have hline : file.lineText span.line.toNat =
      .error (.invalidLineNumber span.line.toNat file.lineCount) :=
    SourceFile.lineText_eq_error (by omega)
  rw [ofSpan, SourceFile.spanLine, if_pos (span.hasLocation_iff.mpr h), hline]
  rfl

/-- **The three answers.** The line of the span is missing, or the file has no such line, or the
line is shown. -/
theorem ofSpan_cases (file : SourceFile) (span : Span) :
    (span.line = 0 ∨ span.column = 0) ∧ ofSpan file span = .error .missingLocation ∨
      (span.line ≠ 0 ∧ span.column ≠ 0) ∧ file.lineCount < span.line.toNat ∧
        ofSpan file span = .error (.invalidLineNumber span.line.toNat file.lineCount) ∨
      (span.line ≠ 0 ∧ span.column ≠ 0) ∧ span.line.toNat ≤ file.lineCount ∧
        ∃ line, file.lineText span.line.toNat = .ok line ∧
          ofSpan file span = .ok (showing line file span) := by
  by_cases hmissing : span.line = 0 ∨ span.column = 0
  · exact .inl ⟨hmissing, ofSpan_of_missing hmissing⟩
  · have hboth : span.line ≠ 0 ∧ span.column ≠ 0 := not_or.mp hmissing
    by_cases hlt : file.lineCount < span.line.toNat
    · exact .inr (.inl ⟨hboth, hlt, ofSpan_of_lineCount_lt hboth hlt⟩)
    · have hpos : span.line.toNat ≠ 0 := by
        rw [← UInt32.toNat_zero, Ne, UInt32.toNat_inj]
        exact hboth.1
      obtain ⟨line, hline⟩ := (file.exists_lineText_iff span.line.toNat).mpr ⟨by omega, by omega⟩
      exact .inr (.inr ⟨hboth, by omega, line, hline, ofSpan_of_lineText hboth hline⟩)

/-- A snippet fits a span, however little the span fits its file. -/
structure Fits (snippet : Snippet) (file : SourceFile) (span : Span) : Prop where
  /-- It shows the line of the span. -/
  lineText_eq : file.lineText span.line.toNat = .ok snippet.line
  /-- It has the number of that line. -/
  lineNumber_eq : snippet.lineNumber = span.line.toNat
  /-- The underline begins at the column of the span. -/
  startColumn_eq : snippet.startColumn = span.column.toNat
  /-- The underline does not end in front of its beginning. -/
  startColumn_le : snippet.startColumn ≤ snippet.endColumn
  /-- If the range of the span, brought into the text, is empty or cuts a character, then the
  underline has no width. -/
  width_eq_zero : ¬ span.CutsOut file.content.toList →
    snippet.endColumn - snippet.startColumn = 0
  /-- Otherwise it is no wider than the characters of that range are many. -/
  width_le : span.CutsOut file.content.toList → ∃ raw,
    slice? file.content.toList (span.startIn file.byteLength) (span.stopIn file.byteLength) =
        some raw ∧
      snippet.endColumn - snippet.startColumn ≤ raw.length
  /-- The columns are numbers of 64 bits, for no text takes more than half of them in bytes. -/
  endColumn_lt : file.byteLength < 2 ^ 63 → snippet.endColumn < 2 ^ 64

theorem fits_showing {line : String} (hline : file.lineText span.line.toNat = .ok line) :
    (showing line file span).Fits file span where
  lineText_eq := hline
  lineNumber_eq := rfl
  startColumn_eq := rfl
  startColumn_le := Nat.le_add_right ..
  width_eq_zero := by
    intro h
    rw [showing, Span.clampedSlice_eq_nil h, Nat.add_sub_cancel_left]
    rfl
  width_le := by
    intro h
    obtain ⟨raw, hslice, hraw⟩ := h.exists_slice?
    refine ⟨raw, hslice, ?_⟩
    rw [showing, hraw, Nat.add_sub_cancel_left]
    exact firstLineWidth_le raw
  endColumn_lt := by
    intro hsize
    have hcolumn := span.column.toNat_lt
    have hbytes : firstLineWidth (clampedSlice file.content.toList span.start span.stop) ≤
        file.byteLength :=
      calc firstLineWidth (clampedSlice file.content.toList span.start span.stop)
          ≤ (clampedSlice file.content.toList span.start span.stop).length := firstLineWidth_le _
        _ ≤ file.content.toList.length := span.length_clampedSlice_le _
        _ ≤ file.byteLength := length_le_byteLength _
    rw [showing]
    change span.column.toNat +
      firstLineWidth (clampedSlice file.content.toList span.start span.stop) < 2 ^ 64
    omega

/-- The location is missing if there is no line or no column. -/
theorem ofSpan_eq_missing_iff (file : SourceFile) (span : Span) :
    ofSpan file span = .error .missingLocation ↔ span.line = 0 ∨ span.column = 0 := by
  rcases ofSpan_cases file span with ⟨h, heq⟩ | ⟨h, -, heq⟩ | ⟨h, -, line, -, heq⟩ <;> rw [heq]
  · exact iff_of_true rfl h
  · exact iff_of_false (by simp) (not_or.mpr h)
  · exact iff_of_false (by simp) (not_or.mpr h)

/-- The line is wrong if the file has fewer lines, and then both numbers are reported. -/
theorem ofSpan_eq_invalid_iff (file : SourceFile) (span : Span) (line count : Nat) :
    ofSpan file span = .error (.invalidLineNumber line count) ↔
      (span.line ≠ 0 ∧ span.column ≠ 0) ∧ file.lineCount < span.line.toNat ∧
        line = span.line.toNat ∧ count = file.lineCount := by
  rcases ofSpan_cases file span with ⟨h, heq⟩ | ⟨h, hlt, heq⟩ | ⟨h, hle, shown, -, heq⟩ <;> rw [heq]
  · exact iff_of_false (by simp) fun hall => not_or.mpr hall.1 h
  · simp [h, hlt, eq_comm]
  · exact iff_of_false (by simp) fun hall => absurd hall.2.1 (Nat.not_lt.mpr hle)

/-- In all other cases there is a snippet. -/
theorem exists_ofSpan_iff (file : SourceFile) (span : Span) :
    (∃ snippet, ofSpan file span = .ok snippet) ↔
      (span.line ≠ 0 ∧ span.column ≠ 0) ∧ span.line.toNat ≤ file.lineCount := by
  rcases ofSpan_cases file span with ⟨h, heq⟩ | ⟨h, hlt, heq⟩ | ⟨h, hle, line, -, heq⟩ <;> rw [heq]
  · exact iff_of_false (by simp) fun hall => not_or.mpr hall.1 h
  · exact iff_of_false (by simp) fun hall => absurd hlt (Nat.not_lt.mpr hall.2)
  · exact iff_of_true ⟨_, rfl⟩ ⟨h, hle⟩

/-- **The snippet fits.** -/
theorem fits_of_ofSpan {snippet : Snippet} (h : ofSpan file span = .ok snippet) :
    snippet.Fits file span := by
  rcases ofSpan_cases file span with ⟨-, heq⟩ | ⟨-, -, heq⟩ | ⟨-, -, line, hline, heq⟩ <;>
    rw [heq] at h
  · cases h
  · cases h
  · obtain rfl := Except.ok.inj h
    exact fits_showing hline

end Snippet

/-! ### What is shown of a report -/

/-- A report is shown with a file, whatever its span is about. -/
structure Diagnostic.ShownAnyway (d : Diagnostic) (file : SourceFile) : Prop where
  /-- No step of making the snippet fails. -/
  ofSpan?_eq : Snippet.ofSpan? file d.span = some (Snippet.ofSpan file d.span)
  /-- The location is missing if there is no line or no column. -/
  missing_iff : Snippet.ofSpan file d.span = .error .missingLocation ↔
    d.span.line = 0 ∨ d.span.column = 0
  /-- The line is wrong if the file has fewer lines, and then both numbers are reported. -/
  invalid_iff : ∀ line count,
    Snippet.ofSpan file d.span = .error (.invalidLineNumber line count) ↔
      (d.span.line ≠ 0 ∧ d.span.column ≠ 0) ∧ file.lineCount < d.span.line.toNat ∧
        line = d.span.line.toNat ∧ count = file.lineCount
  /-- Otherwise there is a snippet. -/
  ok_iff : (∃ snippet, Snippet.ofSpan file d.span = .ok snippet) ↔
    (d.span.line ≠ 0 ∧ d.span.column ≠ 0) ∧ d.span.line.toNat ≤ file.lineCount
  /-- It fits the span. -/
  fits : ∀ snippet, Snippet.ofSpan file d.span = .ok snippet → snippet.Fits file d.span
  /-- Without a location the headline is all that is shown. -/
  render_of_missing : d.span.line = 0 ∨ d.span.column = 0 →
    d.render file = d.headlineWords ++ "\n"
  /-- With a location that the file does not have, only the place is shown. -/
  render_of_invalid : (d.span.line ≠ 0 ∧ d.span.column ≠ 0) →
    file.lineCount < d.span.line.toNat →
      d.render file = d.headlineWords ++ "\n" ++
        ("  --> " ++ file.name ++ ":" ++ decimal d.span.line.toNat ++ ":" ++
          decimal d.span.column.toNat) ++ "\n"
  /-- With a snippet, there are the place, the line with its number in front, and the underline
  below it. -/
  render_of_ok : ∀ snippet, Snippet.ofSpan file d.span = .ok snippet →
    let width := max 3 (decimal d.span.line.toNat).length
    d.render file = d.headlineWords ++ "\n" ++
      ("  --> " ++ file.name ++ ":" ++ decimal d.span.line.toNat ++ ":" ++
        decimal d.span.column.toNat) ++ "\n" ++
      (padLeft width ' ' (decimal d.span.line.toNat) ++ " | " ++ snippet.line) ++ "\n" ++
      (run width ' ' ++ " | " ++ run (d.span.column.toNat - 1) ' ' ++
        run (max 1 (snippet.endColumn - snippet.startColumn)) '^') ++ "\n"

namespace Diagnostic

variable {d : Diagnostic} {file : SourceFile}

theorem render_of_hasLocation (h : d.span.line ≠ 0 ∧ d.span.column ≠ 0) :
    d.render file =
      d.headlineWords ++ "\n" ++ d.arrowRow file ++ "\n" ++ d.snippetRows file := by
  simp only [render, if_pos (d.span.hasLocation_iff.mpr h), d.headline_eq]

theorem render_of_missing (h : d.span.line = 0 ∨ d.span.column = 0) :
    d.render file = d.headlineWords ++ "\n" := by
  simp only [render, if_neg (d.span.not_hasLocation_iff.mpr h), d.headline_eq]

theorem render_of_invalid (h : d.span.line ≠ 0 ∧ d.span.column ≠ 0)
    (hlt : file.lineCount < d.span.line.toNat) :
    d.render file = d.headlineWords ++ "\n" ++ d.arrowRow file ++ "\n" := by
  rw [render_of_hasLocation h, snippetRows, Snippet.ofSpan_of_lineCount_lt h hlt,
    String.append_empty]

theorem render_of_ok {snippet : Snippet} (h : Snippet.ofSpan file d.span = .ok snippet) :
    d.render file =
      d.headlineWords ++ "\n" ++ d.arrowRow file ++ "\n" ++ snippet.sourceRow ++ "\n" ++
        snippet.caretRow ++ "\n" := by
  have hlocation := ((Snippet.exists_ofSpan_iff file d.span).mp ⟨snippet, h⟩).1
  rw [render_of_hasLocation hlocation, snippetRows, h]
  simp only [Snippet.format, String.append_assoc]

/-- The rows of a snippet, in the numbers of the span. -/
theorem rows_of_fits {snippet : Snippet} (h : snippet.Fits file d.span) :
    let width := max 3 (decimal d.span.line.toNat).length
    snippet.sourceRow =
        padLeft width ' ' (decimal d.span.line.toNat) ++ " | " ++ snippet.line ∧
      snippet.caretRow = run width ' ' ++ " | " ++ run (d.span.column.toNat - 1) ' ' ++
        run (max 1 (snippet.endColumn - snippet.startColumn)) '^' := by
  rw [← h.lineNumber_eq, ← h.startColumn_eq]
  exact ⟨rfl, rfl⟩

end Diagnostic

/-- **Every report is shown, whatever its span.** Of the three answers the one with its reason is
given, a snippet fits the span, and what is shown is the headline, the place if there is one, and
the snippet if there is one. -/
theorem any_span_is_shown (d : Diagnostic) (file : SourceFile) : d.ShownAnyway file where
  ofSpan?_eq := Snippet.ofSpan?_eq file d.span
  missing_iff := Snippet.ofSpan_eq_missing_iff file d.span
  invalid_iff := Snippet.ofSpan_eq_invalid_iff file d.span
  ok_iff := Snippet.exists_ofSpan_iff file d.span
  fits := fun _ => Snippet.fits_of_ofSpan
  render_of_missing := Diagnostic.render_of_missing
  render_of_invalid := Diagnostic.render_of_invalid
  render_of_ok := by
    intro snippet h
    obtain ⟨hsource, hcaret⟩ := Diagnostic.rows_of_fits (Snippet.fits_of_ofSpan h)
    rw [Diagnostic.render_of_ok h, hsource, hcaret]
    rfl

/-- The ends of this span are in the wrong order, and one of them is inside a character. -/
example : Snippet.ofSpan ⟨"a.c", "é\r\nx"⟩ ⟨9, 1, 1, 7⟩ = .ok ⟨"é", 1, 7, 7⟩ := by decide

end TokenScan
