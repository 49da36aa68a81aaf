import TokenScan.Location
import Mathlib.Algebra.Group.Nat.Defs
import Mathlib.Data.List.Induction
import Mathlib.Data.List.TakeWhile

/-!
# Places, counted

A `Location` is carried along, one character at a time. This module counts its line and its column
from the text that lies before it, as numbers without a bound, and says when the two agree: always
up to the width of a word, and outright for every text that is short enough. Its byte offset needs
no such care; there it is enough that offsets lead back to characters.

## Main definitions

* `Text.lineOf`, `Text.columnOf` — the line and the column behind a text

## Main results

* `Location.past_start` — the location behind a text, counted
* `Location.toNat_line_past_start`, `Location.toNat_column_past_start` — without wrapping around
* `Text.lineOf_columnOf_lt` — the longer of two texts leads to the later place
* `Text.slice?_append` — the offsets of the two ends of a stretch cut it out
-/

namespace TokenScan

namespace Text

/-! ### Lines and columns -/

/-- The characters behind the last line feed, or the whole text if it has none. -/
def lastLine (text : List Char) : List Char := (text.reverse.takeWhile (· != '\n')).reverse

/-- The line behind a text, counted from one. -/
def lineOf (text : List Char) : Nat := 1 + text.count '\n'

/-- The column behind a text, counted from one. -/
def columnOf (text : List Char) : Nat := 1 + (lastLine text).length

theorem lineOf_append (a b : List Char) : lineOf (a ++ b) = lineOf a + b.count '\n' := by
  rw [lineOf, lineOf, List.count_append, Nat.add_assoc]

theorem lastLine_append_of_mem {a b : List Char} (h : '\n' ∈ b) :
    lastLine (a ++ b) = lastLine b := by
  have hstop : (b.reverse.takeWhile (· != '\n')).length ≠ b.reverse.length := by
    intro hlen
    have hself := (List.takeWhile_prefix _).eq_of_length hlen
    have hall := List.takeWhile_eq_self_iff.mp hself '\n' (List.mem_reverse.mpr h)
    simp at hall
  rw [lastLine, lastLine, List.reverse_append, List.takeWhile_append, if_neg hstop]

theorem lastLine_append_of_not_mem {a b : List Char} (h : '\n' ∉ b) :
    lastLine (a ++ b) = lastLine a ++ b := by
  have hall : ∀ c ∈ b.reverse, (c != '\n') = true := by
    intro c hc
    have hne : c ≠ '\n' := by rintro rfl; exact h (List.mem_reverse.mp hc)
    simpa using hne
  rw [lastLine, lastLine, List.reverse_append, List.takeWhile_append_of_pos hall,
    List.reverse_append, List.reverse_reverse]

theorem columnOf_append_of_mem {a b : List Char} (h : '\n' ∈ b) :
    columnOf (a ++ b) = columnOf b := by
  rw [columnOf, columnOf, lastLine_append_of_mem h]

theorem columnOf_append_of_not_mem {a b : List Char} (h : '\n' ∉ b) :
    columnOf (a ++ b) = columnOf a + b.length := by
  rw [columnOf, columnOf, lastLine_append_of_not_mem h, List.length_append, Nat.add_assoc]

theorem lineOf_le (text : List Char) : lineOf text ≤ 1 + text.length :=
  Nat.add_le_add_left List.count_le_length 1

theorem columnOf_le (text : List Char) : columnOf text ≤ 1 + text.length := by
  have hle := (List.takeWhile_prefix (· != '\n') (l := text.reverse)).length_le
  rw [columnOf, lastLine, List.length_reverse]
  rw [List.length_reverse] at hle
  omega

/-- **The longer text leads to the later place.** A line feed in what is added leads to a later
line; without one, the line stays and the column grows. -/
theorem lineOf_columnOf_lt (a : List Char) {b : List Char} (hb : b ≠ []) :
    lineOf a < lineOf (a ++ b) ∨
      lineOf a = lineOf (a ++ b) ∧ columnOf a < columnOf (a ++ b) := by
  rw [lineOf_append]
  by_cases h : '\n' ∈ b
  · have hpos := List.count_pos_iff.mpr h
    exact .inl (by omega)
  · have hpos := List.length_pos_iff.mpr hb
    rw [columnOf_append_of_not_mem h, List.count_eq_zero.mpr h]
    exact .inr ⟨rfl, by omega⟩

/-! ### Bytes -/

theorem byteLength_pos {text : List Char} (h : text ≠ []) : 0 < byteLength text := by
  obtain ⟨c, rest, rfl⟩ := List.exists_cons_of_ne_nil h
  have hpos := c.utf8Size_pos
  rw [byteLength_cons]
  omega

theorem boundaryFrom_append (passed : Nat) (a b : List Char) :
    boundaryFrom passed (a ++ b) (byteLength a) = some (passed + a.length) := by
  induction a generalizing passed with
  | nil => exact boundaryFrom.eq_1 ..
  | cons c a ih =>
    have hpos := byteLength_pos (List.cons_ne_nil c a)
    obtain ⟨n, hn⟩ := Nat.exists_eq_add_one_of_ne_zero (Nat.pos_iff_ne_zero.mp hpos)
    have hrest : n + 1 - c.utf8Size = byteLength a := by
      rw [byteLength_cons] at hn
      omega
    have hfits : c.utf8Size ≤ n + 1 := by
      rw [byteLength_cons] at hn
      omega
    rw [hn, List.cons_append, boundaryFrom, if_pos hfits, hrest, ih, List.length_cons]
    exact congrArg some (by omega)

/-- The number of bytes of the front of a text leads to the end of that front. -/
theorem boundary?_append (a b : List Char) : boundary? (a ++ b) (byteLength a) = some a.length := by
  rw [boundary?, boundaryFrom_append, Nat.zero_add]

/-- **A span cuts out its stretch.** The byte offsets of the two ends of a stretch are character
boundaries, and the stretch is what stands between them. -/
theorem slice?_append (a b c : List Char) :
    slice? (a ++ b ++ c) (byteLength a) (byteLength (a ++ b)) = some b := by
  have hfirst : boundary? (a ++ b ++ c) (byteLength a) = some a.length := by
    rw [List.append_assoc, boundary?_append]
  have hle : a.length ≤ (a ++ b).length := by
    rw [List.length_append]
    omega
  rw [slice?, hfirst, boundary?_append]
  simp only [Option.bind_eq_bind, Option.bind_some]
  rw [if_pos hle, List.take_left, List.drop_left]

end Text

namespace Location

open Text

/-- **The location behind a text, counted.** Words wrap around, and so do these two numbers when
they are made into words; nothing else is lost. -/
theorem past_start (text : List Char) :
    start.past text = ⟨byteLength text, .ofNat (lineOf text), .ofNat (columnOf text)⟩ := by
  -- a location is carried from the left, so the text has to be taken apart at its right end
  induction text using List.reverseRecOn with
  | nil => rfl
  | append_singleton text c ih =>
    rw [past_append, ih, past_cons, past_nil, after, lineOf_append, byteLength_append]
    by_cases hc : c = '\n'
    · subst hc
      rw [if_pos rfl, columnOf_append_of_mem (List.mem_singleton_self _)]
      simp [columnOf, lastLine, UInt32.ofNat_add]
    · have hnot : '\n' ∉ [c] := by simpa using Ne.symm hc
      rw [if_neg hc, columnOf_append_of_not_mem hnot, List.count_eq_zero.mpr hnot]
      simp [UInt32.ofNat_add]

theorem toNat_line_past_start {text : List Char} (h : text.length < 2 ^ 32 - 1) :
    (start.past text).line.toNat = lineOf text := by
  have hle := lineOf_le text
  rw [past_start]
  exact UInt32.toNat_ofNat_of_lt' (by rw [UInt32.size]; omega)

theorem toNat_column_past_start {text : List Char} (h : text.length < 2 ^ 32 - 1) :
    (start.past text).column.toNat = columnOf text := by
  have hle := columnOf_le text
  rw [past_start]
  exact UInt32.toNat_ofNat_of_lt' (by rw [UInt32.size]; omega)

end Location

end TokenScan
