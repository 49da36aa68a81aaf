import TokenScan.Proofs.Grammar
import TokenScan.Proofs.Position
import TokenScan.SourceFile
import Mathlib.Data.List.Basic

/-!
# The line table

A file is quoted by lines, and a line is found by its number through a table of byte offsets. This
module says what the table holds: under the number of line feeds in front of a line, the bytes in
front of it. The number that is looked up and the one that a `Location` carries are then the same
number, `Text.lineOf` of the text in front, and what is found is the line up to its line feed.

A text *ends a line* if nothing of it stands behind its last line feed: `lastLine text = []`. So
does the empty text, in front of the first line.

## Main definitions

* `LineCut` — a text cut around one of its lines

## Main results

* `exists_lineCut_around` — every place of a text stands in a line
* `SourceFile.lineCount_eq` — there is one line more than there are line feeds
* `SourceFile.getElem?_lineStarts` — where a line starts
* `SourceFile.lineText_cut` — the text of a line
-/

namespace TokenScan

open Text

namespace Text

theorem not_mem_lastLine (text : List Char) : '\n' ∉ lastLine text := by
  rw [lastLine, List.mem_reverse]
  exact not_mem_takeWhile_bne '\n' text.reverse

/-- What stands in front of the last line ends a line. -/
theorem exists_append_lastLine (text : List Char) :
    ∃ front, text = front ++ lastLine text ∧ lastLine front = [] := by
  refine ⟨(text.reverse.dropWhile (· != '\n')).reverse, ?_, ?_⟩
  · rw [lastLine, ← List.reverse_append, List.takeWhile_append_dropWhile, List.reverse_reverse]
  · rw [lastLine, List.reverse_reverse, List.reverse_eq_nil_iff]
    exact takeWhile_append_stop (List.forall_mem_nil _) eq_false_of_mem_head?_dropWhile

/-- A text ends a line if it is empty or its last character is a line feed. -/
theorem lastLine_eq_nil_iff {text : List Char} :
    lastLine text = [] ↔ text = [] ∨ ∃ front, text = front ++ ['\n'] := by
  constructor
  · intro h
    rcases List.eq_nil_or_concat' text with rfl | ⟨front, c, rfl⟩
    · exact .inl rfl
    · by_cases hc : c = '\n'
      · exact .inr ⟨front, by rw [hc]⟩
      · have hmem : '\n' ∉ [c] := by simpa using Ne.symm hc
        rw [lastLine_append_of_not_mem hmem, List.append_eq_nil_iff] at h
        exact absurd h.2 (List.cons_ne_nil c [])
  · rintro (rfl | ⟨front, rfl⟩)
    · rfl
    · rw [lastLine_append_of_mem (List.mem_singleton_self _)]
      rfl

theorem lineOf_append_of_not_mem {a b : List Char} (h : '\n' ∉ b) :
    lineOf (a ++ b) = lineOf a := by
  rw [lineOf_append, List.count_eq_zero.mpr h, Nat.add_zero]

end Text

/-! ### Cutting out a line -/

/-- A text cut around one of its lines. -/
structure LineCut (text : List Char) where
  /-- What stands in front of the line. -/
  front : List Char
  /-- The line, without the line feed that ends it. -/
  line : List Char
  /-- What stands behind the line, beginning with the line feed. -/
  behind : List Char
  /-- The three together are the text. -/
  append_eq : text = front ++ line ++ behind
  /-- The line begins where the text does, or behind a line feed. -/
  lastLine_front : lastLine front = []
  /-- No line feed is part of the line. -/
  lineFeed_not_mem : '\n' ∉ line
  /-- The line ends at a line feed, or where the text ends. -/
  head?_behind : ∀ c ∈ behind.head?, c = '\n'

namespace LineCut

variable {text : List Char}

/-- The number of lines in front. -/
def index (cut : LineCut text) : Nat := cut.front.count '\n'

/-- The bytes around a line cut it out, together with the line feed that ends it. -/
theorem slice?_eq (cut : LineCut text) :
    slice? text (byteLength cut.front)
      (byteLength (cut.front ++ (cut.line ++ cut.behind.take 1))) =
        some (cut.line ++ cut.behind.take 1) := by
  have hslice := slice?_append cut.front (cut.line ++ cut.behind.take 1) (cut.behind.drop 1)
  rwa [List.append_assoc, List.append_assoc, List.take_append_drop, ← List.append_assoc,
    ← cut.append_eq] at hslice

end LineCut

/-- **Every place stands in a line.** The line goes on up to the next line feed. -/
theorem exists_lineCut_around {text before after : List Char} (htext : text = before ++ after) :
    ∃ cut : LineCut text, before = cut.front ++ lastLine before ∧
      lineOf before = cut.index + 1 ∧
      cut.line = lastLine before ++ after.takeWhile (· != '\n') := by
  obtain ⟨front, hbefore, hfront⟩ := exists_append_lastLine before
  have hnumber : lineOf before = front.count '\n' + 1 := by
    conv_lhs => rw [hbefore, lineOf_append_of_not_mem (not_mem_lastLine before)]
    rw [lineOf, Nat.add_comm]
  have hsplit : text = front ++
      (lastLine before ++ after.takeWhile (· != '\n')) ++ after.dropWhile (· != '\n') :=
    calc text = before ++ after := htext
      _ = (front ++ lastLine before) ++
          (after.takeWhile (· != '\n') ++ after.dropWhile (· != '\n')) := by
          rw [← hbefore, List.takeWhile_append_dropWhile]
      _ = _ := by simp only [List.append_assoc]
  have hline : '\n' ∉ lastLine before ++ after.takeWhile (· != '\n') := by
    rw [List.mem_append, not_or]
    exact ⟨not_mem_lastLine before, not_mem_takeWhile_bne '\n' after⟩
  exact ⟨⟨front, _, _, hsplit, hfront, hline, eq_of_mem_head?_dropWhile_bne⟩, hbefore, hnumber, rfl⟩

namespace SourceFile

/-! ### Where lines start -/

theorem startsFrom_append (offset : Nat) (a b : List Char) :
    startsFrom offset (a ++ b) =
      startsFrom offset a ++ startsFrom (offset + Text.byteLength a) b := by
  induction a generalizing offset with
  | nil => rfl
  | cons c a ih =>
    rw [List.cons_append, startsFrom, startsFrom, ih, byteLength_cons, Nat.add_assoc]
    split <;> rfl

theorem length_startsFrom (offset : Nat) (text : List Char) :
    (startsFrom offset text).length = text.count '\n' := by
  induction text generalizing offset with
  | nil => rfl
  | cons c text ih =>
    rw [startsFrom]
    by_cases hc : c = '\n'
    · rw [if_pos hc, List.length_cons, ih, hc, List.count_cons_self]
    · rw [if_neg hc, ih, List.count_cons_of_ne hc]

/-- There is one line more than there are line feeds. -/
theorem lineCount_eq (file : SourceFile) : file.lineCount = lineOf file.content.toList := by
  rw [lineCount, lineStarts, List.length_cons, length_startsFrom, lineOf, Nat.add_comm]

variable {file : SourceFile}

/-- **Where a line starts.** Under the number of line feeds in front of it, the table has the number
of bytes in front of it. -/
theorem getElem?_lineStarts {front behind : List Char}
    (hcontent : file.content.toList = front ++ behind) (hfront : lastLine front = []) :
    file.lineStarts[front.count '\n']? = some (Text.byteLength front) := by
  rw [lineStarts, hcontent]
  rcases lastLine_eq_nil_iff.mp hfront with rfl | ⟨earlier, rfl⟩
  · rfl
  · have hindex : (earlier ++ ['\n']).count '\n' = (startsFrom 0 earlier).length + 1 := by
      rw [List.count_append, List.count_singleton_self, length_startsFrom]
    have hlast : startsFrom (0 + Text.byteLength earlier) ['\n'] =
        [Text.byteLength (earlier ++ ['\n'])] := by
      rw [Nat.zero_add, byteLength_append]
      rfl
    rw [startsFrom_append, startsFrom_append, hlast, hindex, List.getElem?_cons_succ,
      List.append_assoc, List.getElem?_append_right (Nat.le_refl _), Nat.sub_self]
    rfl

theorem getElem?_lineStarts_index (cut : LineCut file.content.toList) :
    file.lineStarts[cut.index]? = some (Text.byteLength cut.front) :=
  getElem?_lineStarts (cut.append_eq.trans (List.append_assoc ..)) cut.lastLine_front

/-- Where the line of a place starts: as far in front of it as its last line is long. -/
theorem exists_lineStart {before after : List Char}
    (hcontent : file.content.toList = before ++ after) :
    ∃ front, before = front ++ lastLine before ∧
      file.lineStarts[lineOf before - 1]? = some (Text.byteLength front) := by
  obtain ⟨cut, hbefore, hnumber, -⟩ := exists_lineCut_around hcontent
  refine ⟨cut.front, hbefore, ?_⟩
  rw [hnumber, Nat.add_sub_cancel]
  exact getElem?_lineStarts_index cut

/-- Where a line stops: behind the line feed that ends it, or at the end of the text. -/
theorem getD_lineStarts_succ (cut : LineCut file.content.toList) :
    (file.lineStarts[cut.index + 1]?).getD file.byteLength =
      Text.byteLength (cut.front ++ (cut.line ++ cut.behind.take 1)) := by
  obtain ⟨front, line, behind, hcontent, hfront, hline, hbehind⟩ := cut
  have hcount : (front ++ line).count '\n' = front.count '\n' := by
    rw [List.count_append, List.count_eq_zero.mpr hline, Nat.add_zero]
  change (file.lineStarts[front.count '\n' + 1]?).getD file.byteLength =
    Text.byteLength (front ++ (line ++ behind.take 1))
  cases behind with
  | nil =>
    have hnext : file.lineStarts[front.count '\n' + 1]? = none := by
      rw [List.getElem?_eq_none_iff, ← lineCount, lineCount_eq, hcontent, lineOf, List.append_nil,
        hcount, Nat.add_comm]
    rw [hnext, Option.getD_none, byteLength, hcontent, List.take_nil, List.append_nil,
      List.append_nil]
  | cons c behind =>
    obtain rfl : c = '\n' := hbehind c rfl
    have hfeed : (front ++ line ++ ['\n']).count '\n' = front.count '\n' + 1 := by
      rw [List.count_append, hcount, List.count_singleton_self]
    have hsplit : file.content.toList = front ++ line ++ ['\n'] ++ behind := by
      rw [hcontent, List.append_cons]
    have hnext := getElem?_lineStarts hsplit (lastLine_eq_nil_iff.mpr (.inr ⟨front ++ line, rfl⟩))
    rw [← hfeed, hnext, Option.getD_some, List.append_assoc]
    rfl

/-! ### The text of a line -/

theorem trimLineEnding_append_lineFeed (text : List Char) :
    trimLineEnding (text ++ ['\n']) = trimLineEnding text := by
  simp [trimLineEnding, isLineEnding]

/-- Nothing is trimmed in front of a character that is not part of a line ending. -/
theorem trimLineEnding_append {run : List Char} (hne : run ≠ [])
    (hrun : ∀ c ∈ run, isLineEnding c = false) (front behind : List Char) :
    trimLineEnding (front ++ run ++ behind) = front ++ run ++ trimLineEnding behind := by
  obtain ⟨earlier, c, rfl⟩ := (List.eq_nil_or_concat' run).resolve_left hne
  have hc : isLineEnding c = false := hrun c (by simp)
  rw [trimLineEnding, trimLineEnding, List.reverse_append, List.dropWhile_append]
  split
  · next hempty =>
    rw [List.isEmpty_iff.mp hempty]
    simp [hc]
  · simp

/-- **The text of a line.** A line is found under its number, without the line endings at its
end. -/
theorem lineText_cut (cut : LineCut file.content.toList) :
    file.lineText (cut.index + 1) = .ok (String.ofList (trimLineEnding cut.line)) := by
  have htrim : trimLineEnding (cut.line ++ cut.behind.take 1) = trimLineEnding cut.line := by
    cases hbehind : cut.behind with
    | nil => rw [List.take_nil, List.append_nil]
    | cons c behind =>
      obtain rfl : c = '\n' := cut.head?_behind c (by rw [hbehind]; rfl)
      exact trimLineEnding_append_lineFeed cut.line
  simp only [lineText, if_neg (Nat.succ_ne_zero _), Nat.add_sub_cancel,
    getElem?_lineStarts_index cut, getD_lineStarts_succ cut, cut.slice?_eq, Option.bind_eq_bind,
    Option.bind_some]
  exact congrArg (fun text => Except.ok (String.ofList text)) htrim

/-- Whatever stands in a line is shown when the line is quoted, unless a line ending is part of it.
In front of it is shown what stands in front of it in its line. -/
theorem exists_lineText {before run after : List Char}
    (hcontent : file.content.toList = before ++ run ++ after) (hne : run ≠ [])
    (hrun : ∀ c ∈ run, isLineEnding c = false) :
    ∃ tail, file.lineText (lineOf before) =
      .ok (String.ofList (lastLine before ++ run ++ tail)) := by
  obtain ⟨cut, -, hnumber, hline⟩ :=
    exists_lineCut_around (hcontent.trans (List.append_assoc ..))
  have hfeed : '\n' ∉ run := by
    intro hmem
    have hending := hrun '\n' hmem
    simp [isLineEnding] at hending
  rw [List.takeWhile_append_of_pos (bne_of_not_mem hfeed), ← List.append_assoc] at hline
  refine ⟨trimLineEnding (after.takeWhile (· != '\n')), ?_⟩
  rw [hnumber, lineText_cut cut, hline, trimLineEnding_append hne hrun]

/-- The second of two lines ends in a carriage return and a line feed. -/
example : (SourceFile.mk "a.c" "int x;\n// é\r\n").lineText 2 = .ok "// é" := by decide

end SourceFile

end TokenScan
