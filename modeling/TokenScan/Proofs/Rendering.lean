import TokenScan.Snippet
import TokenScan.Proofs.Coverage
import TokenScan.Proofs.Lines
import TokenScan.Proofs.Warnings

/-!
# Reports with their source line

A report is shown with the line that its span begins on and with carets under that line. Three
things have to fit for the carets to stand in the right place. The line and the column were counted
by the scanner; the line is found through the table of the file; and the carets are counted from the
bytes of the span. `Span.Covers` says that a span is about a stretch of text in all four of its
numbers, and from there on only characters are counted.

What is shown of a stretch is its front, up to the first carriage return or line feed. That much is
on one line, and it is never trimmed away with the line ending. Every token has such a front, for no
token begins with a blank.

## Main definitions

* `Span.Covers` — a span is about a stretch
* `Diagnostic.headlineWords` — the words of a headline
* `Diagnostic.Underlines` — a report is shown with carets under a stretch

## Main results

* `Span.Covers.exists_ofSpan` — the snippet for a stretch
* `render_underlines` — every report of a scan is shown with carets under its token
-/

namespace TokenScan

open Text

/-! ### The snippet for a stretch -/

/-- A span is about a stretch of text: its bytes are those of the stretch, and its line and column
are where the stretch begins. -/
structure Span.Covers (span : Span) (site : Site) : Prop where
  /-- The span starts with the first byte. -/
  start_eq : span.start = byteLength site.before
  /-- The span stops behind the last byte. -/
  stop_eq : span.stop = byteLength (site.before ++ site.raw)
  /-- The span has the line of the first character. -/
  line_eq : span.line.toNat = lineOf site.before
  /-- The span has the column of the first character. -/
  column_eq : span.column.toNat = columnOf site.before

/-- The characters of a stretch that are on its first line. -/
def Site.firstLine (site : Site) : List Char :=
  site.raw.takeWhile fun c => !SourceFile.isLineEnding c

theorem Site.isLineEnding_of_mem_firstLine (site : Site) :
    ∀ c ∈ site.firstLine, SourceFile.isLineEnding c = false := by
  intro c hc
  simpa using List.mem_takeWhile_imp hc

theorem Site.firstLine_append (site : Site) :
    site.firstLine ++ site.raw.dropWhile (fun c => !SourceFile.isLineEnding c) = site.raw :=
  List.takeWhile_append_dropWhile

/-- The snippet for a stretch, if `tail` is what is shown behind its first line. -/
def Site.snippet (site : Site) (tail : List Char) : Snippet where
  line := String.ofList (lastLine site.before ++ site.firstLine ++ tail)
  lineNumber := lineOf site.before
  startColumn := columnOf site.before
  endColumn := columnOf site.before + site.firstLine.length

namespace Span.Covers

variable {span : Span} {site : Site} {file : SourceFile}

theorem hasLocation (h : span.Covers site) : span.hasLocation = true := by
  have hline : 0 < span.line := by
    rw [UInt32.lt_iff_toNat_lt, h.line_eq, lineOf]
    exact Nat.lt_add_right _ Nat.one_pos
  have hcolumn : 0 < span.column := by
    rw [UInt32.lt_iff_toNat_lt, h.column_eq, columnOf]
    exact Nat.lt_add_right _ Nat.one_pos
  simp [Span.hasLocation, hline, hcolumn]

theorem clampedSlice_eq (h : span.Covers site)
    (hcontent : file.content.toList = site.before ++ site.raw ++ site.after) :
    Snippet.clampedSlice file.content.toList span.start span.stop = site.raw := by
  have hfirst : byteLength site.before ≤ byteLength (site.before ++ site.raw) := by
    rw [byteLength_append]
    exact Nat.le_add_right ..
  have hlast : byteLength (site.before ++ site.raw) ≤ byteLength file.content.toList := by
    rw [hcontent, byteLength_append _ site.after]
    exact Nat.le_add_right ..
  rw [Snippet.clampedSlice, h.start_eq, h.stop_eq, Nat.min_eq_left hlast,
    Nat.min_eq_left (Nat.le_trans hfirst hlast), Nat.max_eq_right hfirst, hcontent, slice?_append,
    Option.getD_some]

/-- **The snippet for a stretch.** The line is shown, and the front of the stretch is what stands in
it from the column of the span on. -/
theorem exists_ofSpan (h : span.Covers site)
    (hcontent : file.content.toList = site.before ++ site.raw ++ site.after)
    (hfirst : site.firstLine ≠ []) :
    ∃ tail, file.lineText span.line.toNat = .ok (site.snippet tail).line ∧
      Snippet.ofSpan file span = .ok (site.snippet tail) := by
  have hsplit : file.content.toList =
      site.before ++ site.firstLine ++
        (site.raw.dropWhile (fun c => !SourceFile.isLineEnding c) ++ site.after) := by
    rw [hcontent, List.append_assoc, List.append_assoc, ← List.append_assoc site.firstLine,
      site.firstLine_append]
  obtain ⟨tail, hline⟩ :=
    SourceFile.exists_lineText hsplit hfirst site.isLineEnding_of_mem_firstLine
  rw [← h.line_eq] at hline
  refine ⟨tail, hline, ?_⟩
  rw [Snippet.ofSpan, SourceFile.spanLine, if_pos h.hasLocation, hline, h.clampedSlice_eq hcontent,
    h.line_eq, h.column_eq]
  rfl

end Span.Covers

/-! ### The rows of a snippet -/

theorem length_run (n : Nat) (c : Char) : (run n c).length = n := by
  rw [← String.length_toList, toList_run, List.length_replicate]

theorem length_padLeft (width : Nat) (fill : Char) (text : String) :
    (padLeft width fill text).length = max width text.length := by
  rw [← String.length_toList, toList_padLeft, List.length_append, List.length_replicate,
    String.length_toList]
  omega

/-- Where a character that does not stand in front is found in a run of it. -/
theorem getElem?_append_replicate_eq_some_iff {front : List Char} {c : Char} (hc : c ∉ front)
    {n i : Nat} : (front ++ List.replicate n c)[i]? = some c ↔ ∃ k < n, i = front.length + k := by
  constructor
  · intro h
    by_cases hi : i < front.length
    · rw [List.getElem?_append_left hi] at h
      exact absurd (List.mem_of_getElem? h) hc
    · rw [List.getElem?_append_right (Nat.le_of_not_lt hi)] at h
      have hlt := (List.getElem?_eq_some_iff.mp h).1
      rw [List.length_replicate] at hlt
      exact ⟨i - front.length, hlt, by omega⟩
  · rintro ⟨k, hk, rfl⟩
    rw [List.getElem?_append_right (Nat.le_add_right ..), Nat.add_sub_cancel_left,
      List.getElem?_replicate, if_pos hk]

namespace Snippet

/-- The number of characters in either row in front of the part that is underlined. -/
def margin (snippet : Snippet) : Nat := snippet.gutterWidth + 3 + (snippet.startColumn - 1)

/-- The number of carets. -/
def carets (snippet : Snippet) : Nat := max 1 (snippet.endColumn - snippet.startColumn)

/-- The line number fills the gutter, however many digits it has. -/
theorem length_gutter (snippet : Snippet) :
    (padLeft snippet.gutterWidth ' ' (decimal snippet.lineNumber)).length =
      snippet.gutterWidth := by
  rw [length_padLeft]
  exact Nat.max_eq_left (Nat.le_max_right ..)

/-- The carets stand behind the margin, one beside the other. -/
theorem getElem?_caretRow_eq_some_iff (snippet : Snippet) (i : Nat) :
    snippet.caretRow.toList[i]? = some '^' ↔ ∃ k < snippet.carets, i = snippet.margin + k := by
  have hrow : snippet.caretRow.toList =
      (List.replicate snippet.gutterWidth ' ' ++ [' ', '|', ' '] ++
        List.replicate (snippet.startColumn - 1) ' ') ++ List.replicate snippet.carets '^' := by
    simp [caretRow, carets]
  have hfront : '^' ∉ List.replicate snippet.gutterWidth ' ' ++ [' ', '|', ' '] ++
      List.replicate (snippet.startColumn - 1) ' ' := by
    simp [List.mem_replicate]
  have hmargin : (List.replicate snippet.gutterWidth ' ' ++ [' ', '|', ' '] ++
      List.replicate (snippet.startColumn - 1) ' ').length = snippet.margin := by
    simp only [List.length_append, List.length_replicate, margin]
    rfl
  rw [hrow, getElem?_append_replicate_eq_some_iff hfront, hmargin]

/-- Behind the margin stands the line from the first underlined column on. -/
theorem getElem?_sourceRow (snippet : Snippet) (k : Nat) :
    snippet.sourceRow.toList[snippet.margin + k]? =
      snippet.line.toList[snippet.startColumn - 1 + k]? := by
  have hrow : snippet.sourceRow.toList =
      ((padLeft snippet.gutterWidth ' ' (decimal snippet.lineNumber)).toList ++ [' ', '|', ' ']) ++
        snippet.line.toList := by
    simp [sourceRow]
  have hlength : ((padLeft snippet.gutterWidth ' ' (decimal snippet.lineNumber)).toList ++
      [' ', '|', ' ']).length = snippet.gutterWidth + 3 := by
    rw [List.length_append, String.length_toList, length_gutter]
    rfl
  rw [hrow, margin, Nat.add_assoc, ← hlength, List.getElem?_append_right (Nat.le_add_right ..),
    Nat.add_sub_cancel_left]

end Snippet

/-! ### Carets under a token -/

/-- The words of a headline: the code is in brackets, with at least four digits, if there is one. -/
def Diagnostic.headlineWords (d : Diagnostic) : String :=
  match d.code? with
  | some code =>
    "warning[" ++ code.category ++ padLeft 4 '0' (decimal code.number) ++ "]: " ++ d.message
  | none => "warning: " ++ d.message

theorem Diagnostic.headline_eq (d : Diagnostic) : d.headline = d.headlineWords := by
  have hlevel : d.severity.name = "warning" := rfl
  rw [headline, headlineWords, hlevel]
  cases d.code? with
  | none => rfl
  | some code =>
    simp only [DiagnosticCode.text, String.append_assoc]
    rfl

/-- A report is shown with a number of carets under a stretch of a file. -/
structure Diagnostic.Underlines (d : Diagnostic) (file : SourceFile) (raw : List Char)
    (snippet : Snippet) (shown : String) : Prop where
  /-- The span leads to the snippet. -/
  ofSpan_eq : Snippet.ofSpan file d.span = .ok snippet
  /-- The line of the span is shown. -/
  lineText_eq : file.lineText d.span.line.toNat = .ok shown
  /-- The report is its headline, the place, and the two rows of the snippet. -/
  render_eq : d.render file = d.headlineWords ++ "\n" ++
    ("  --> " ++ file.name ++ ":" ++ decimal d.span.line.toNat ++ ":" ++
      decimal d.span.column.toNat) ++ "\n" ++ snippet.sourceRow ++ "\n" ++ snippet.caretRow ++ "\n"
  /-- The first row is the line number, set to the right, and the line. -/
  sourceRow_eq : snippet.sourceRow =
    padLeft snippet.gutterWidth ' ' (decimal d.span.line.toNat) ++ " | " ++ shown
  /-- The second row is blank up to the column of the span, and ends in carets. -/
  caretRow_eq : snippet.caretRow = run snippet.gutterWidth ' ' ++ " | " ++
    run (d.span.column.toNat - 1) ' ' ++ run snippet.carets '^'
  /-- The line number takes as many characters as there are blanks below it. -/
  length_gutter : (padLeft snippet.gutterWidth ' ' (decimal d.span.line.toNat)).length =
    (run snippet.gutterWidth ' ').length
  /-- There is a caret. -/
  carets_pos : 0 < snippet.carets
  /-- There are no more carets than characters in the stretch. -/
  carets_le_raw : snippet.carets ≤ raw.length
  /-- No caret stands behind the end of the line. -/
  carets_le_shown : d.span.column.toNat - 1 + snippet.carets ≤ shown.length
  /-- The carets stand one beside the other from some place on. -/
  caret_iff : ∀ i, snippet.caretRow.toList[i]? = some '^' ↔
    ∃ k < snippet.carets, i = snippet.margin + k
  /-- Over each caret stands a character of the stretch, over the first caret the first one. -/
  over_caret : ∀ k < snippet.carets, snippet.sourceRow.toList[snippet.margin + k]? = raw[k]?

/-- Every token has a character on its first line. -/
theorem Site.Reads.firstLine_ne_nil {site : Site} {token : Token} (h : site.Reads token) :
    site.firstLine ≠ [] := by
  obtain ⟨c, rest, hraw⟩ := List.exists_cons_of_ne_nil h.munch.raw_ne_nil
  have hblank : isBlank c = false := h.munch.isBlank_eq_false c (by rw [hraw]; rfl)
  have hending : SourceFile.isLineEnding c = false := by
    rw [← Bool.not_eq_true]
    intro hending
    have hcase : c = '\n' ∨ c = '\r' := by simpa [SourceFile.isLineEnding] using hending
    rcases hcase with rfl | rfl
    · exact absurd hblank (by decide)
    · exact absurd hblank (by decide)
  rw [firstLine, hraw, List.takeWhile_cons, hending]
  exact List.cons_ne_nil _ _

/-- A report about a token is about its stretch. -/
theorem Site.covers_of_report? {site : Site} {token : Token} {d : Diagnostic}
    (hread : site.Reads token) (hreport : site.report? token = some d)
    (hbefore : site.before.length < 2 ^ 32 - 1) : d.span.Covers site := by
  rw [Site.span_eq_of_report? hreport]
  exact
    { start_eq := rfl
      stop_eq := rfl
      line_eq := hread.toNat_line hbefore
      column_eq := hread.toNat_column hbefore }

/-- There are as many carets as characters on the first line of the stretch. -/
theorem Site.carets_snippet (site : Site) (hfirst : site.firstLine ≠ []) (tail : List Char) :
    (site.snippet tail).carets = site.firstLine.length := by
  have hpos := List.length_pos_iff.mpr hfirst
  rw [Snippet.carets, snippet, Nat.add_sub_cancel_left]
  exact Nat.max_eq_right hpos

/-- Behind the margin stands the first line of the stretch. -/
theorem Site.getElem?_sourceRow_snippet (site : Site) (tail : List Char) {k : Nat}
    (hk : k < site.firstLine.length) :
    (site.snippet tail).sourceRow.toList[(site.snippet tail).margin + k]? = site.raw[k]? := by
  have hindent : (site.snippet tail).startColumn - 1 = (lastLine site.before).length := by
    rw [snippet, columnOf, Nat.add_sub_cancel_left]
  have hline : (site.snippet tail).line.toList =
      lastLine site.before ++ site.firstLine ++ tail := by rw [snippet, String.toList_ofList]
  obtain ⟨rest, hraw⟩ : site.firstLine <+: site.raw := List.takeWhile_prefix _
  rw [Snippet.getElem?_sourceRow, hline, hindent, List.append_assoc,
    List.getElem?_append_right (Nat.le_add_right ..), Nat.add_sub_cancel_left,
    List.getElem?_append_left hk, ← hraw, List.getElem?_append_left hk]

/-- A report about a stretch is shown with carets under it. -/
theorem Span.Covers.exists_underlines {d : Diagnostic} {file : SourceFile} {site : Site}
    (h : d.span.Covers site)
    (hcontent : file.content.toList = site.before ++ site.raw ++ site.after)
    (hfirst : site.firstLine ≠ []) :
    ∃ snippet shown, d.Underlines file site.raw snippet shown := by
  obtain ⟨tail, hline, hsnippet⟩ := h.exists_ofSpan hcontent hfirst
  have hcarets := site.carets_snippet hfirst tail
  refine ⟨site.snippet tail, (site.snippet tail).line, ?_⟩
  exact
    { ofSpan_eq := hsnippet
      lineText_eq := hline
      render_eq := by
        simp only [Diagnostic.render, if_pos h.hasLocation, Diagnostic.snippetRows, hsnippet,
          Snippet.format, Diagnostic.arrowRow, d.headline_eq, String.append_assoc]
      sourceRow_eq := by
        rw [h.line_eq]
        rfl
      caretRow_eq := by
        rw [h.column_eq]
        rfl
      length_gutter := by
        rw [h.line_eq, length_run]
        exact (site.snippet tail).length_gutter
      carets_pos := by
        rw [hcarets]
        exact List.length_pos_iff.mpr hfirst
      carets_le_raw := by
        rw [hcarets]
        exact (List.takeWhile_prefix _).length_le
      carets_le_shown := by
        rw [hcarets, h.column_eq, columnOf, Site.snippet, String.length_ofList]
        simp
      caret_iff := (site.snippet tail).getElem?_caretRow_eq_some_iff
      over_caret := by
        intro k hk
        rw [hcarets] at hk
        exact site.getElem?_sourceRow_snippet tail hk }

/-- **Every report of a scan is shown with carets under its token.** The report is about a stretch
of the legal cut, and what stands over the carets is the front of that stretch. -/
theorem render_underlines (name source : String) (hshort : source.length < 2 ^ 32 - 1)
    {d : Diagnostic} (hd : d ∈ (Scan.ofText source).diagnostics) :
    ∃ cut : Cut, cut.Legal source.toList ∧
      ∃ site ∈ cut.sites, ∃ token ∈ (Scan.ofText source).tokens,
        site.Reads token ∧ site.report? token = some d ∧
          ∃ snippet shown, d.Underlines ⟨name, source⟩ site.raw snippet shown := by
  obtain ⟨site, hsite, token, htoken, hread, hreport⟩ := Cut.exists_of_mem_diagnostics hd
  have hlegal := Cut.legal_ofText source.toList
  have hcontent : (SourceFile.mk name source).content.toList =
      site.before ++ site.raw ++ site.after := by
    rw [Cut.append_of_mem_sites hsite, hlegal.text_eq]
  have hcovers := Site.covers_of_report? hread hreport (Cut.length_before_lt hshort hsite)
  refine ⟨Cut.ofText source.toList, hlegal, site, hsite, token, htoken, hread, hreport, ?_⟩
  exact hcovers.exists_underlines hcontent hread.firstLine_ne_nil

/-- A comment that begins on the second line and is never closed. -/
theorem render_underlines_open_comment :
    "x\n /* é\r\ny".length < 2 ^ 32 - 1 ∧
      Warning.unterminatedComment.report ⟨3, 11, 2, 2⟩ ∈
        (Scan.ofText "x\n /* é\r\ny").diagnostics ∧
      ∃ cut : Cut, cut.Legal "x\n /* é\r\ny".toList ∧
        ∃ site ∈ cut.sites, ∃ token ∈ (Scan.ofText "x\n /* é\r\ny").tokens,
          site.Reads token ∧
          site.report? token = some (Warning.unterminatedComment.report ⟨3, 11, 2, 2⟩) ∧
          ∃ snippet shown, (Warning.unterminatedComment.report ⟨3, 11, 2, 2⟩).Underlines
            ⟨"a.c", "x\n /* é\r\ny"⟩ site.raw snippet shown := by
  have hshort : "x\n /* é\r\ny".length < 2 ^ 32 - 1 := by decide
  have hd : Warning.unterminatedComment.report ⟨3, 11, 2, 2⟩ ∈
      (Scan.ofText "x\n /* é\r\ny").diagnostics := by decide +kernel
  exact ⟨hshort, hd, render_underlines "a.c" "x\n /* é\r\ny" hshort hd⟩

/-- The comment goes on, but its first line is all that is underlined. -/
example : (Warning.unterminatedComment.report ⟨3, 11, 2, 2⟩).render ⟨"a.c", "x\n /* é\r\ny"⟩ =
    "warning[W1002]: unterminated block comment\n  --> a.c:2:2\n  2 |  /* é\n    |  ^^^^\n" := by
  decide +kernel

end TokenScan
