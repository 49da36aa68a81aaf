import TokenScan.Proofs.Motion
import TokenScan.Proofs.Lines

/-!
# The line table is exact

Lines are counted twice. The table of a file is made once, from the byte offsets behind its line
feeds, and a cursor counts lines and columns as it goes. Both counts are of the same thing, the
pieces of the content between its line feeds: the table has an entry for each piece, under which the
piece is found, and wherever a cursor stands, its line has an entry from which its column leads to
the byte where it stands.

Of a piece the table gives all but the carriage returns at its end. Those in its middle stay.

## A cut that fails

`SourceFile.lineText` has one answer to a number without a line, and would give the same one if a
cut between two entries of the table fell inside a character. `SourceFile.lineText?` keeps the two
apart: for a cut that fails it has no answer. It always has one.

## Main definitions

* `SourceFile.lineText?` — the text of a line, by a cut that may fail
* `SourceFile.TableExact` — what the table gives for a number
* `SourceFile.Locates` — what it gives for the line and the column of a cursor

## Main results

* `LineCut.getElem?_splitOn` — a line is a piece between line feeds
* `SourceFile.lineText?_eq` — no cut fails
* `lineTable_exact` — the table finds the pieces, and agrees with every cursor
-/

namespace TokenScan

open Text

/-! ### Pieces between line feeds -/

namespace Text

/-- There is one piece more than there are line feeds. -/
theorem length_splitOn_lineFeed (text : List Char) : (text.splitOn '\n').length = lineOf text := by
  induction text with
  | nil => rfl
  | cons c text ih =>
    rw [List.splitOn_cons_eq_if_modifyHead, lineOf]
    rw [lineOf] at ih
    by_cases hc : c = '\n'
    · subst hc
      rw [if_pos (beq_self_eq_true '\n'), List.length_cons, ih, List.count_cons_self]
      omega
    · rw [if_neg (by simpa using hc), List.length_modifyHead, ih, List.count_cons_of_ne hc]

theorem lastLine_append_lineFeed_append {behind : List Char} (h : lastLine behind = [])
    (front : List Char) : lastLine (front ++ '\n' :: behind) = [] := by
  rw [lastLine_eq_nil_iff]
  right
  rcases lastLine_eq_nil_iff.mp h with rfl | ⟨earlier, rfl⟩
  · exact ⟨front, rfl⟩
  · exact ⟨front ++ '\n' :: earlier, by simp⟩

end Text

namespace LineCut

variable {text : List Char}

/-- The line and what stands behind it are cut apart by the first line feed. -/
theorem exists_splitOn_line_append (cut : LineCut text) :
    ∃ later, (cut.line ++ cut.behind).splitOn '\n' = cut.line :: later := by
  cases hbehind : cut.behind with
  | nil => exact ⟨[], by rw [List.append_nil, List.splitOn_eq_singleton cut.lineFeed_not_mem]⟩
  | cons c rest =>
    obtain rfl : c = '\n' := cut.head?_behind c (by rw [hbehind]; rfl)
    exact ⟨rest.splitOn '\n', List.splitOn_append_cons_self_of_not_mem cut.lineFeed_not_mem rest⟩

/-- **A line is a piece.** As many pieces stand in front of it as there are line feeds. -/
theorem getElem?_splitOn (cut : LineCut text) :
    (text.splitOn '\n')[cut.index]? = some cut.line := by
  obtain ⟨later, hlater⟩ := cut.exists_splitOn_line_append
  have hsplit : text.splitOn '\n' = (cut.front ++ (cut.line ++ cut.behind)).splitOn '\n' :=
    congrArg (List.splitOn '\n') (cut.append_eq.trans (List.append_assoc ..))
  rw [hsplit, index]
  rcases lastLine_eq_nil_iff.mp cut.lastLine_front with hfront | ⟨earlier, hfront⟩
  · rw [hfront, List.nil_append, hlater]
    rfl
  · have hcount : (earlier ++ ['\n']).count '\n' = (earlier.splitOn '\n').length := by
      rw [length_splitOn_lineFeed, lineOf, List.count_append, List.count_singleton_self,
        Nat.add_comm]
    rw [hfront, hcount, List.append_assoc, List.singleton_append, List.splitOn_append_cons_self,
      List.getElem?_append_right (Nat.le_refl _), Nat.sub_self, hlater]
    rfl

end LineCut

/-- Every number up to the number of line feeds is the number of lines in front of a line. -/
theorem exists_lineCut {text : List Char} {i : Nat} (hi : i < lineOf text) :
    ∃ cut : LineCut text, cut.index = i := by
  induction i generalizing text with
  | zero =>
    obtain ⟨line, behind, rfl, hline, hbehind⟩ := exists_run (· != '\n') text
    exact ⟨⟨[], line, behind, rfl, rfl, fun hmem => by simpa using hline _ hmem,
      by simpa using hbehind⟩, rfl⟩
  | succ i ih =>
    obtain ⟨first, rest, rfl, hfirst, hrest⟩ := exists_run (· != '\n') text
    have hnot : '\n' ∉ first := fun hmem => by simpa using hfirst _ hmem
    cases rest with
    | nil =>
      rw [List.append_nil, lineOf, List.count_eq_zero.mpr hnot] at hi
      omega
    | cons c rest =>
      obtain rfl : c = '\n' := by simpa using hrest
      have hi' : i < lineOf rest := by
        rw [lineOf, List.count_append, List.count_eq_zero.mpr hnot, List.count_cons_self] at hi
        rw [lineOf]
        omega
      obtain ⟨cut, rfl⟩ := ih hi'
      refine ⟨⟨first ++ '\n' :: cut.front, cut.line, cut.behind, ?_,
        lastLine_append_lineFeed_append cut.lastLine_front first, cut.lineFeed_not_mem,
        cut.head?_behind⟩, ?_⟩
      · conv_lhs => rw [cut.append_eq]
        simp
      · rw [LineCut.index, LineCut.index, List.count_append, List.count_eq_zero.mpr hnot,
          List.count_cons_self, Nat.zero_add]

namespace SourceFile

/-! ### The carriage returns at the end of a line -/

/-- A line is what is shown of it and carriage returns. -/
theorem exists_trimLineEnding_append {line : List Char} (hline : '\n' ∉ line) :
    ∃ returns, line = trimLineEnding line ++ List.replicate returns '\r' := by
  have hreturns : ∀ c ∈ line.reverse.takeWhile isLineEnding, c = '\r' := by
    intro c hc
    have hending := List.mem_takeWhile_imp hc
    have hmem := List.mem_reverse.mp ((List.takeWhile_prefix _).subset hc)
    have hne : c ≠ '\n' := fun heq => hline (heq ▸ hmem)
    simpa [isLineEnding, hne] using hending
  refine ⟨(line.reverse.takeWhile isLineEnding).length, ?_⟩
  calc line = (line.reverse.takeWhile isLineEnding ++
        line.reverse.dropWhile isLineEnding).reverse := by
        rw [List.takeWhile_append_dropWhile, List.reverse_reverse]
    _ = trimLineEnding line ++ (line.reverse.takeWhile isLineEnding).reverse := by
        rw [List.reverse_append, trimLineEnding]
    _ = trimLineEnding line ++
        List.replicate (line.reverse.takeWhile isLineEnding).length '\r' := by
        rw [← List.reverse_replicate, ← List.eq_replicate_of_mem hreturns]

/-- What is shown of a line does not end in a carriage return. -/
theorem getLast?_trimLineEnding_ne (line : List Char) :
    (trimLineEnding line).getLast? ≠ some '\r' := by
  rw [trimLineEnding, List.getLast?_reverse]
  intro hlast
  have hnot := eq_false_of_mem_head?_dropWhile '\r' hlast
  exact absurd hnot (by decide)

/-! ### Finding a line -/

/-- The text of a line, if the cut that gives it can be made: both ends have to be between two
characters, and in order. -/
def lineText? (file : SourceFile) (line : Nat) : Option (Except SourceError String) :=
  match if line = 0 then none else file.lineStarts[line - 1]? with
  | none => some (.error (.invalidLineNumber line file.lineCount))
  | some start => do
    let stop := (file.lineStarts[line - 1 + 1]?).getD file.byteLength
    let text ← slice? file.content.toList start stop
    return .ok (String.ofList (trimLineEnding text))

variable {file : SourceFile}

/-- A number that is not the number of a line has no entry. -/
theorem getElem?_lineStarts_eq_none {n : Nat} (h : ¬ (1 ≤ n ∧ n ≤ file.lineCount)) :
    (if n = 0 then none else file.lineStarts[n - 1]?) = none := by
  split
  · rfl
  · rw [List.getElem?_eq_none_iff, ← lineCount]
    omega

/-- A number that is not the number of a line is reported, together with the number of lines. -/
theorem lineText_eq_error {n : Nat} (h : ¬ (1 ≤ n ∧ n ≤ file.lineCount)) :
    file.lineText n = .error (.invalidLineNumber n file.lineCount) := by
  have hnone := getElem?_lineStarts_eq_none h
  rw [lineText]
  split at hnone
  · next hzero => simp only [if_pos hzero, Option.bind_eq_bind, Option.bind_none]
  · next hzero =>
    simp only [if_neg hzero, hnone, Option.bind_eq_bind, Option.bind_some, Option.bind_none]

/-- The two entries of the table around a line cut it out of the text. -/
theorem lineText?_cut (cut : LineCut file.content.toList) :
    file.lineText? (cut.index + 1) = some (file.lineText (cut.index + 1)) := by
  simp only [lineText?, lineText, if_neg (Nat.succ_ne_zero _), Nat.add_sub_cancel,
    getElem?_lineStarts_index cut, getD_lineStarts_succ cut, cut.slice?_eq, Option.bind_eq_bind,
    Option.bind_some, Option.pure_def]

/-- The number of a line leads to a cut. -/
theorem exists_lineCut_of_le {n : Nat} (h : 1 ≤ n ∧ n ≤ file.lineCount) :
    ∃ cut : LineCut file.content.toList, n = cut.index + 1 := by
  have hlt : n - 1 < lineOf file.content.toList := by
    rw [← lineCount_eq]
    omega
  obtain ⟨cut, hcut⟩ := exists_lineCut hlt
  exact ⟨cut, by omega⟩

/-- **No cut fails.** Every entry of the table is between two characters, and the next one is not in
front of it. -/
theorem lineText?_eq (file : SourceFile) (n : Nat) : file.lineText? n = some (file.lineText n) := by
  by_cases h : 1 ≤ n ∧ n ≤ file.lineCount
  · obtain ⟨cut, rfl⟩ := exists_lineCut_of_le h
    exact lineText?_cut cut
  · rw [lineText?, getElem?_lineStarts_eq_none h, lineText_eq_error h]

theorem exists_lineText_iff (file : SourceFile) (n : Nat) :
    (∃ text, file.lineText n = .ok text) ↔ 1 ≤ n ∧ n ≤ file.lineCount := by
  constructor
  · rintro ⟨text, htext⟩
    by_contra h
    rw [lineText_eq_error h] at htext
    cases htext
  · intro h
    obtain ⟨cut, rfl⟩ := exists_lineCut_of_le h
    exact ⟨_, lineText_cut cut⟩

/-- **What is found under a number.** It is the piece between line feeds, without the carriage
returns at its end. -/
theorem exists_piece_of_lineText {n : Nat} {text : String} (h : file.lineText n = .ok text) :
    ∃ piece returns, (file.content.toList.splitOn '\n')[n - 1]? = some piece ∧
      piece = text.toList ++ List.replicate returns '\r' ∧ text.toList.getLast? ≠ some '\r' := by
  obtain ⟨cut, rfl⟩ := exists_lineCut_of_le ((exists_lineText_iff file n).mp ⟨text, h⟩)
  rw [lineText_cut cut] at h
  obtain rfl : String.ofList (trimLineEnding cut.line) = text := by simpa using h
  obtain ⟨returns, hreturns⟩ := exists_trimLineEnding_append cut.lineFeed_not_mem
  rw [String.toList_ofList, Nat.add_sub_cancel]
  exact ⟨cut.line, returns, cut.getElem?_splitOn, hreturns, getLast?_trimLineEnding_ne cut.line⟩

/-- The lines of a file are the pieces of its content between line feeds. -/
structure TableExact (file : SourceFile) : Prop where
  /-- There is one line more than there are line feeds. -/
  lineCount_eq : file.lineCount = 1 + file.content.toList.count '\n'
  /-- There are as many lines as pieces. -/
  length_pieces : (file.content.toList.splitOn '\n').length = file.lineCount
  /-- No number leads to a cut that fails. -/
  lineText?_eq : ∀ n, file.lineText? n = some (file.lineText n)
  /-- A line is found under the numbers of lines, and under no others. -/
  exists_lineText_iff : ∀ n, (∃ text, file.lineText n = .ok text) ↔ 1 ≤ n ∧ n ≤ file.lineCount
  /-- Of any other number it is reported how many lines there are. -/
  lineText_eq_error : ∀ n, ¬ (1 ≤ n ∧ n ≤ file.lineCount) →
    file.lineText n = .error (.invalidLineNumber n file.lineCount)
  /-- What is found is the piece of that number, without the carriage returns at its end. -/
  exists_piece : ∀ n text, file.lineText n = .ok text →
    ∃ piece returns, (file.content.toList.splitOn '\n')[n - 1]? = some piece ∧
      piece = text.toList ++ List.replicate returns '\r' ∧ text.toList.getLast? ≠ some '\r'

/-! ### Where a cursor stands -/

/-- The line and the column of a cursor lead, through the table, to the byte where it stands. -/
structure Locates (file : SourceFile) (cursor : Cursor) : Prop where
  /-- Its line is the number of a line. -/
  line_mem : 1 ≤ cursor.location.line.toNat ∧ cursor.location.line.toNat ≤ file.lineCount
  /-- Its column is the number of a column. -/
  one_le_column : 1 ≤ cursor.location.column.toNat
  /-- Its line starts at a character, and as many characters as are in front of its column reach
  from there to its byte. -/
  offset_eq : ∃ start index, file.lineStarts[cursor.location.line.toNat - 1]? = some start ∧
    boundary? file.content.toList start = some index ∧
    cursor.location.column.toNat - 1 ≤ (file.content.toList.drop index).length ∧
    start + Text.byteLength ((file.content.toList.drop index).take
      (cursor.location.column.toNat - 1)) = cursor.location.offset

/-- **The table agrees with a cursor.** Both counts are functions of the characters in front. -/
theorem locates_of_standsIn {cursor : Cursor} (h : cursor.StandsIn file.content.toList)
    (hshort : file.content.length < 2 ^ 32 - 1) : file.Locates cursor := by
  have hle : cursor.before.length < 2 ^ 32 - 1 := by
    rw [← String.length_toList, ← h.append_eq, List.length_append] at hshort
    omega
  have hline : cursor.location.line.toNat = lineOf cursor.before := by
    rw [h.location_eq, Location.toNat_line_past_start hle]
  have hcolumn : cursor.location.column.toNat - 1 = (lastLine cursor.before).length := by
    rw [h.location_eq, Location.toNat_column_past_start hle, columnOf, Nat.add_sub_cancel_left]
  obtain ⟨front, hbefore, hstart⟩ := exists_lineStart h.append_eq.symm
  have hcontent : file.content.toList = front ++ (lastLine cursor.before ++ cursor.rest) := by
    rw [← h.append_eq, ← List.append_assoc, ← hbefore]
  refine ⟨⟨?_, ?_⟩, ?_, Text.byteLength front, front.length, ?_, ?_, ?_, ?_⟩
  · rw [hline, lineOf]
    omega
  · rw [hline, lineCount_eq, ← h.append_eq, lineOf_append]
    omega
  · rw [h.location_eq, Location.toNat_column_past_start hle, columnOf]
    omega
  · rw [hline]
    exact hstart
  · rw [hcontent, boundary?_append]
  · rw [hcontent, List.drop_left, hcolumn, List.length_append]
    omega
  · rw [hcontent, List.drop_left, hcolumn, List.take_left, h.offset_eq, ← byteLength_append,
      ← hbefore]

end SourceFile

/-- **The line table is exact.** Under the numbers of lines, and under no others, it finds the
pieces of the content between line feeds, without the carriage returns at their ends. And wherever a
cursor comes in the content, its line is one of them and its column leads from the start of that
line to where it stands. -/
theorem lineTable_exact (file : SourceFile) :
    file.TableExact ∧
      (file.content.length < 2 ^ 32 - 1 →
        ∀ cursor, (Cursor.ofText file.content.toList).Reaches cursor → file.Locates cursor) := by
  refine ⟨?_, ?_⟩
  · exact
      { lineCount_eq := file.lineCount_eq
        length_pieces := by rw [length_splitOn_lineFeed, file.lineCount_eq]
        lineText?_eq := file.lineText?_eq
        exists_lineText_iff := file.exists_lineText_iff
        lineText_eq_error := fun _ => SourceFile.lineText_eq_error
        exists_piece := fun _ _ => SourceFile.exists_piece_of_lineText }
  · intro hshort cursor hreach
    exact SourceFile.locates_of_standsIn
      ((Cursor.standsIn_ofText file.content.toList).of_reaches hreach) hshort

/-- Carriage returns at the beginning of a line are shown, and a cursor counts them. -/
theorem lineTable_exact_carriage_returns :
    let file : SourceFile := ⟨"a.c", "é\r\n\r\rx\r\r\n"⟩
    let cursor := (Cursor.ofText file.content.toList).forward 6
    file.content.length < 2 ^ 32 - 1 ∧ (Cursor.ofText file.content.toList).Reaches cursor ∧
      file.lineText 2 = .ok "\r\rx" ∧ cursor.location = ⟨7, 2, 4⟩ ∧
      file.TableExact ∧ file.Locates cursor := by
  intro file cursor
  have hshort : file.content.length < 2 ^ 32 - 1 := by decide
  have hreach : (Cursor.ofText file.content.toList).Reaches cursor := Cursor.reaches_forward _ 6
  obtain ⟨htable, hlocates⟩ := lineTable_exact file
  exact ⟨hshort, hreach, by decide, by decide, htable, hlocates hshort cursor hreach⟩

end TokenScan
