import TokenScan.Proofs.AnySpan
import TokenScan.Proofs.Rendering

/-!
# How far an underline reaches

A span that fits its file is about a stretch of text, and the part of the stretch that stands in the
line that is shown should be underlined. Two rules decide what is: the line is shown up to its line
feed and without the carriage returns at its end, and the underline is counted from the bytes of the
span, up to the first character that may be part of a line ending.

The two rules agree on a line that has carriage returns only at its end. A carriage return in the
middle of a line is an ordinary character for the cursor, which counts a column for it, and for the
line, which shows it, but the underline stops in front of it. So of the part that is shown, the
underline covers what stands in front of the first carriage return, and all of it only if there is
none.

## Main definitions

* `Snippet.shown` — the characters of a stretch that are part of the line
* `Snippet.Measures` — how much of them is underlined

## Main results

* `SourceFile.drop_trimLineEnding_append` — what is shown of a line from a column on
* `underline_misses_carriageReturn` — an underline that is too short
* `underline_stops_at_carriageReturn` — where every underline stops
-/

namespace TokenScan

open Text

/-! ### The part of a line behind a column -/

namespace SourceFile

theorem isLineEnding_eq_false_iff {c : Char} : isLineEnding c = false ↔ c ≠ '\n' ∧ c ≠ '\r' := by
  simp [isLineEnding]

/-- From a column on, a line shows what it would show if it began there. -/
theorem drop_trimLineEnding_append (front behind : List Char) :
    (trimLineEnding (front ++ behind)).drop front.length = trimLineEnding behind := by
  have hfront : (trimLineEnding front).length ≤ front.length := by
    have hle := (List.dropWhile_suffix isLineEnding (l := front.reverse)).length_le
    rw [List.length_reverse] at hle
    rw [trimLineEnding, List.length_reverse]
    exact hle
  rw [trimLineEnding, List.reverse_append, List.dropWhile_append]
  split
  · next hempty =>
    -- nothing but line endings stands behind, so the line may end in front of the column
    rw [trimLineEnding, List.isEmpty_iff.mp hempty, List.reverse_nil]
    exact List.drop_eq_nil_of_le hfront
  · rw [List.reverse_append, List.reverse_reverse, List.drop_left, trimLineEnding]

theorem trimLineEnding_isPrefix (line : List Char) : trimLineEnding line <+: line := by
  obtain ⟨endings, hendings⟩ := List.dropWhile_suffix isLineEnding (l := line.reverse)
  refine ⟨endings.reverse, ?_⟩
  rw [trimLineEnding, ← List.reverse_append, hendings, List.reverse_reverse]

/-- The front of a line that holds no line ending is shown. -/
theorem isPrefix_trimLineEnding_append {run : List Char}
    (hrun : ∀ c ∈ run, isLineEnding c = false) (behind : List Char) :
    run <+: trimLineEnding (run ++ behind) := by
  by_cases hne : run = []
  · rw [hne]
    exact List.nil_prefix
  · have happend := trimLineEnding_append hne hrun [] behind
    rw [List.nil_append] at happend
    rw [happend]
    exact List.prefix_append ..

end SourceFile

/-! ### What a line shows of a stretch -/

namespace Site

/-- What is shown of the line of a stretch, from the column on where the stretch begins. -/
def rest (site : Site) : List Char :=
  SourceFile.trimLineEnding ((site.raw ++ site.after).takeWhile (· != '\n'))

/-- The characters of a stretch that are part of the line that is shown. -/
def shown (site : Site) : List Char := site.raw.take site.rest.length

variable (site : Site)

theorem rest_isPrefix : site.rest <+: site.raw ++ site.after :=
  (SourceFile.trimLineEnding_isPrefix _).trans (List.takeWhile_prefix _)

theorem lineFeed_not_mem_rest : '\n' ∉ site.rest := by
  intro hmem
  exact not_mem_takeWhile_bne '\n' _ ((SourceFile.trimLineEnding_isPrefix _).subset hmem)

/-- The characters of the stretch are those of the line. -/
theorem shown_isPrefix_rest : site.shown <+: site.rest := by
  have htake : site.rest = (site.raw ++ site.after).take site.rest.length :=
    List.prefix_iff_eq_take.mp site.rest_isPrefix
  rw [htake, List.take_append, ← shown]
  exact List.prefix_append ..

/-- A stretch that goes on behind its line is shown up to the end of the line. -/
theorem shown_eq_rest (h : '\n' ∈ site.raw) : site.shown = site.rest := by
  have hle : site.rest.length ≤ site.raw.length := by
    by_contra hlt
    -- else all of the stretch would be in the line, its line feed too
    have hwhole : site.raw <+: site.rest :=
      List.prefix_of_prefix_length_le (List.prefix_append ..) site.rest_isPrefix (by omega)
    exact site.lineFeed_not_mem_rest (hwhole.subset h)
  have htake : site.rest = (site.raw ++ site.after).take site.rest.length :=
    List.prefix_iff_eq_take.mp site.rest_isPrefix
  rw [List.take_append_of_le_length hle] at htake
  exact htake.symm

theorem firstLine_isPrefix_rest : site.firstLine <+: site.rest := by
  have hfeed : '\n' ∉ site.firstLine := fun hmem =>
    (SourceFile.isLineEnding_eq_false_iff.mp (site.isLineEnding_of_mem_firstLine _ hmem)).1 rfl
  have hsplit : site.raw ++ site.after = site.firstLine ++
      (site.raw.dropWhile (fun c => !SourceFile.isLineEnding c) ++ site.after) := by
    rw [← List.append_assoc, site.firstLine_append]
  rw [rest, hsplit, List.takeWhile_append_of_pos (bne_of_not_mem hfeed)]
  exact SourceFile.isPrefix_trimLineEnding_append site.isLineEnding_of_mem_firstLine _

/-- **Where the underline stops.** Of the characters that are shown, those that are counted stand in
front of the first carriage return. -/
theorem takeWhile_shown : site.shown.takeWhile (· != '\r') = site.firstLine := by
  -- the first line is a front of what is shown, and a line ending or nothing follows it there
  have hle : site.firstLine.length ≤ site.rest.length := site.firstLine_isPrefix_rest.length_le
  have hshown : site.shown = site.firstLine ++
      (site.raw.dropWhile fun c => !SourceFile.isLineEnding c).take
        (site.rest.length - site.firstLine.length) := by
    rw [shown]
    conv_lhs => rw [← site.firstLine_append, List.take_append, List.take_of_length_le hle]
  have hreturn : '\r' ∉ site.firstLine := fun hmem =>
    (SourceFile.isLineEnding_eq_false_iff.mp (site.isLineEnding_of_mem_firstLine _ hmem)).2 rfl
  rw [hshown]
  refine takeWhile_append_stop (bne_of_not_mem hreturn) ?_
  intro c hc
  have hmem : c ∈ site.shown := by
    rw [hshown]
    exact List.mem_append_right _ (List.mem_of_mem_head? hc)
  have hne : c ≠ '\n' := by
    rintro rfl
    exact site.lineFeed_not_mem_rest (site.shown_isPrefix_rest.subset hmem)
  rw [List.head?_take] at hc
  split at hc
  · cases hc
  · have hnot := eq_false_of_mem_head?_dropWhile c hc
    have hending : SourceFile.isLineEnding c = true := by simpa using hnot
    simpa [SourceFile.isLineEnding, hne] using hending

end Site

/-! ### Spans that fit their file -/

/-- A span that fits a text is about a stretch of it. -/
theorem Span.Fits.exists_covers {span : Span} {text : List Char} (h : span.Fits text) :
    ∃ site : Site, span.Covers site ∧ text = site.before ++ site.raw ++ site.after := by
  obtain ⟨m, hstart, hline, hcolumn⟩ := h.start_place
  obtain ⟨n, hstop⟩ := Option.isSome_iff_exists.mp h.stop_boundary
  have hmn : m ≤ n := le_of_boundary? h.start_le_stop hstart hstop
  obtain ⟨-, hstart_eq⟩ := boundary?_eq_some_iff.mp hstart
  obtain ⟨-, hstop_eq⟩ := boundary?_eq_some_iff.mp hstop
  have hjoin := take_append_drop_take hmn text
  refine ⟨⟨text.take m, (text.take n).drop m, text.drop n⟩, ?_, ?_⟩
  · exact
      { start_eq := hstart_eq.symm
        stop_eq := by rw [hjoin, hstop_eq]
        line_eq := hline
        column_eq := hcolumn }
  · rw [hjoin, List.take_append_drop]

namespace Snippet

/-- The characters of a stretch that are part of the line of a snippet: as many of them as the line
has from the column on where the underline begins. -/
def shown (snippet : Snippet) (raw : List Char) : List Char :=
  raw.take (snippet.line.toList.drop (snippet.startColumn - 1)).length

/-- A snippet shows the line of a stretch, and underlines what the line shows of the stretch up to
the first carriage return in it. -/
structure Measures (snippet : Snippet) (file : SourceFile) (span : Span) (raw : List Char) :
    Prop where
  /-- It shows the line of the span. -/
  lineText_eq : file.lineText span.line.toNat = .ok snippet.line
  /-- The underline begins at the column of the span. -/
  startColumn_eq : snippet.startColumn = span.column.toNat
  /-- From there on stands in the line what the line shows of the stretch. -/
  shown_isPrefix : snippet.shown raw <+: snippet.line.toList.drop (snippet.startColumn - 1)
  /-- Of a stretch that goes on behind the line, the line shows all that it has from there on. -/
  shown_eq_of_lineFeed : '\n' ∈ raw →
    snippet.shown raw = snippet.line.toList.drop (snippet.startColumn - 1)
  /-- The underline stops in front of the first carriage return that is shown. -/
  width_eq : snippet.endColumn - snippet.startColumn =
    ((snippet.shown raw).takeWhile (· != '\r')).length
  /-- So it covers what is shown if and only if there is none. -/
  width_eq_length_iff : snippet.endColumn - snippet.startColumn = (snippet.shown raw).length ↔
    '\r' ∉ snippet.shown raw

end Snippet

namespace Span.Covers

variable {span : Span} {site : Site} {file : SourceFile}

/-- From the column of a stretch on, its line shows the rest. -/
theorem exists_lineText_drop (h : span.Covers site)
    (hcontent : file.content.toList = site.before ++ site.raw ++ site.after) :
    ∃ line, file.lineText span.line.toNat = .ok line ∧
      line.toList.drop (span.column.toNat - 1) = site.rest := by
  rw [List.append_assoc] at hcontent
  obtain ⟨cut, -, hnumber, hline⟩ := exists_lineCut_around hcontent
  have hcolumn : span.column.toNat - 1 = (lastLine site.before).length := by
    rw [h.column_eq, columnOf, Nat.add_sub_cancel_left]
  refine ⟨String.ofList (SourceFile.trimLineEnding cut.line), ?_, ?_⟩
  · rw [h.line_eq, hnumber]
    exact SourceFile.lineText_cut cut
  · rw [String.toList_ofList, hline, hcolumn, SourceFile.drop_trimLineEnding_append]
    rfl

/-- **The snippet for a stretch.** What the line shows of the stretch is underlined up to the first
carriage return. -/
theorem exists_measures (h : span.Covers site)
    (hcontent : file.content.toList = site.before ++ site.raw ++ site.after) :
    ∃ snippet, Snippet.ofSpan file span = .ok snippet ∧ snippet.Measures file span site.raw := by
  obtain ⟨line, hline, hdrop⟩ := h.exists_lineText_drop hcontent
  have hlocation := span.hasLocation_iff.mp h.hasLocation
  have hshown : (Snippet.showing line file span).shown site.raw = site.shown := by
    rw [Snippet.shown, Snippet.showing, hdrop, Site.shown]
  have hwidth : (Snippet.showing line file span).endColumn -
      (Snippet.showing line file span).startColumn = (site.shown.takeWhile (· != '\r')).length := by
    rw [site.takeWhile_shown, Snippet.showing, Nat.add_sub_cancel_left, h.clampedSlice_eq hcontent]
    rfl
  refine ⟨_, Snippet.ofSpan_of_lineText hlocation hline, ?_⟩
  exact
    { lineText_eq := hline
      startColumn_eq := rfl
      shown_isPrefix := by
        have hrest := site.shown_isPrefix_rest
        rw [← hdrop] at hrest
        rw [hshown]
        exact hrest
      shown_eq_of_lineFeed := by
        intro hfeed
        rw [hshown, site.shown_eq_rest hfeed]
        exact hdrop.symm
      width_eq := by rw [hwidth, hshown]
      width_eq_length_iff := by
        rw [hwidth, hshown]
        exact length_takeWhile_bne_eq_iff }

end Span.Covers

/-- **An underline that is too short.** The span is about all three characters of its file, the line
shows all three, and one of them is underlined: the carriage return between the others does not end
the line, but it ends the underline. -/
theorem underline_misses_carriageReturn :
    let file : SourceFile := ⟨"a.c", "a\rb"⟩
    let span : Span := ⟨0, 3, 1, 1⟩
    span.Fits file.content.toList ∧
      slice? file.content.toList span.start span.stop = some "a\rb".toList ∧
      Snippet.ofSpan file span = .ok ⟨"a\rb", 1, 1, 2⟩ ∧
      (Snippet.mk "a\rb" 1 1 2).shown "a\rb".toList = "a\rb".toList ∧
      ¬ ∃ snippet, Snippet.ofSpan file span = .ok snippet ∧
        snippet.endColumn - snippet.startColumn = (snippet.shown "a\rb".toList).length := by
  intro file span
  have hsnippet : Snippet.ofSpan file span = .ok ⟨"a\rb", 1, 1, 2⟩ := by decide
  refine ⟨⟨by decide, by decide, ⟨0, by decide, by decide, by decide⟩, by decide⟩, by decide,
    hsnippet, by decide, ?_⟩
  rintro ⟨snippet, hother, hwidth⟩
  rw [hsnippet] at hother
  obtain rfl := Except.ok.inj hother
  exact absurd hwidth (by decide)

/-- **Where every underline stops.** For a span that fits its file there is a snippet, and of the
characters between the two ends of the span it underlines those that the line shows in front of the
first carriage return among them. -/
theorem underline_stops_at_carriageReturn {file : SourceFile} {span : Span}
    (h : span.Fits file.content.toList) :
    ∃ raw snippet, slice? file.content.toList span.start span.stop = some raw ∧
      Snippet.ofSpan file span = .ok snippet ∧ snippet.Measures file span raw := by
  obtain ⟨site, hcovers, hcontent⟩ := h.exists_covers
  obtain ⟨snippet, hsnippet, hmeasures⟩ := hcovers.exists_measures hcontent
  refine ⟨site.raw, snippet, ?_, hsnippet, hmeasures⟩
  rw [hcovers.start_eq, hcovers.stop_eq, hcontent, slice?_append]

/-- A comment with carriage returns in the middle and at the end of its first line. -/
theorem underline_stops_at_carriageReturn_in_comment :
    let file : SourceFile := ⟨"a.c", "x /*é\rb\r\r\n*/ y"⟩
    let span : Span := ⟨2, 13, 1, 3⟩
    span.Fits file.content.toList ∧
      Snippet.ofSpan file span = .ok ⟨"x /*é\rb", 1, 3, 6⟩ ∧
      ∃ raw snippet, slice? file.content.toList span.start span.stop = some raw ∧
        Snippet.ofSpan file span = .ok snippet ∧ snippet.Measures file span raw := by
  intro file span
  have hfits : span.Fits file.content.toList :=
    ⟨by decide, by decide, ⟨2, by decide, by decide, by decide⟩, by decide⟩
  exact ⟨hfits, by decide, underline_stops_at_carriageReturn hfits⟩

end TokenScan
