import TokenScan.CharClass

/-!
# The classes of characters do not overlap

A character is classified by the first class that fits, so a class might be cut short by the ones
before it. It is not: no character is both a letter and a digit, and none of them is a blank. Each
class is therefore what its name says, whatever the order in which the classes are tried.

ASCII characters are decided by formulas and the others by tables, so each of these facts has two
halves. The second is a comparison of two tables, range by range.

## Main definitions

* `Ranges.Disjoint` — no range of one table meets a range of the other

## Main results

* `isBlank_eq_false_of_isIdentContinue` — no character of an identifier is blank
* `classify_eq_iff` — a character has the class that fits it
-/

namespace TokenScan

namespace Text

/-- No range of one table meets a range of the other. -/
def Ranges.Disjoint (table other : Ranges) : Prop :=
  ∀ range ∈ table, ∀ range' ∈ other, range.2 < range'.1 ∨ range'.2 < range.1

-- the tables are long, and Boolean comparisons are cheaper to evaluate than the instances for `<`
instance (table other : Ranges) : Decidable (table.Disjoint other) :=
  decidable_of_iff (table.all fun range => other.all fun range' =>
    Nat.blt range.2 range'.1 || Nat.blt range'.2 range.1) (by simp [Ranges.Disjoint])

theorem Ranges.Disjoint.contains_eq_false {table other : Ranges} (h : table.Disjoint other)
    {c : Char} (hc : table.contains c = true) : other.contains c = false := by
  obtain ⟨range, hrange, hlow, hhigh⟩ := contains_eq_true_iff.mp hc
  rw [← Bool.not_eq_true, contains_eq_true_iff]
  rintro ⟨range', hrange', hlow', hhigh'⟩
  have hapart := h range hrange range' hrange'
  omega

theorem disjoint_blankRanges_letterRanges : blankRanges.Disjoint letterRanges := by
  decide +kernel

theorem disjoint_blankRanges_digitRanges : blankRanges.Disjoint digitRanges := by
  decide +kernel

theorem disjoint_digitRanges_letterRanges : digitRanges.Disjoint letterRanges := by
  decide +kernel

/-! ### The ASCII halves -/

theorem toNat_le_of_isBlank {c : Char} (h : isBlank c = true) (hascii : c.toNat < 0x80) :
    c.toNat ≤ 0x20 := by
  obtain ⟨range, hrange, hlow, hhigh⟩ := Ranges.contains_eq_true_iff.mp h
  simp only [blankRanges, List.mem_cons, List.not_mem_nil, or_false] at hrange
  rcases hrange with rfl | rfl | rfl | rfl | rfl | rfl | rfl | rfl
  all_goals
    simp only at hlow hhigh
    omega

theorem le_toNat_of_isAlpha {c : Char} (h : c.isAlpha = true) : 0x41 ≤ c.toNat := by
  have hcase : c.isUpper = true ∨ c.isLower = true := Bool.or_eq_true_iff.mp h
  rcases hcase with hupper | hlower
  · have hge : 'A'.val ≤ c.val := (of_decide_eq_true hupper).1
    exact UInt32.le_iff_toNat_le.mp hge
  · have hboth : (decide (c.val ≥ 'a'.val) && decide (c.val ≤ 'z'.val)) = true := hlower
    have hge : 'a'.val ≤ c.val := of_decide_eq_true (Bool.and_eq_true_iff.mp hboth).1
    have hle : 0x61 ≤ c.toNat := UInt32.le_iff_toNat_le.mp hge
    omega

theorem toNat_le_of_isDigit {c : Char} (h : c.isDigit = true) :
    0x30 ≤ c.toNat ∧ c.toNat ≤ 0x39 := Char.isDigit_iff_toNat.mp h

/-! ### Blanks, letters and digits -/

theorem isBlank_eq_false_of_isLetter {c : Char} (h : isLetter c = true) : isBlank c = false := by
  rw [← Bool.not_eq_true]
  intro hblank
  unfold isLetter at h
  split at h
  · next hascii =>
    have hle := toNat_le_of_isBlank hblank hascii
    have hge := le_toNat_of_isAlpha h
    omega
  · rw [disjoint_blankRanges_letterRanges.contains_eq_false hblank] at h
    simp at h

theorem isBlank_eq_false_of_isDigit {c : Char} (h : isDigit c = true) : isBlank c = false := by
  rw [← Bool.not_eq_true]
  intro hblank
  unfold isDigit at h
  split at h
  · next hascii =>
    have hle := toNat_le_of_isBlank hblank hascii
    have hge := toNat_le_of_isDigit h
    omega
  · rw [disjoint_blankRanges_digitRanges.contains_eq_false hblank] at h
    simp at h

theorem isLetter_eq_false_of_isDigit {c : Char} (h : isDigit c = true) : isLetter c = false := by
  rw [← Bool.not_eq_true]
  intro hletter
  unfold isDigit at h
  unfold isLetter at hletter
  split at h
  · next hascii =>
    rw [if_pos hascii] at hletter
    have hle := toNat_le_of_isDigit h
    have hge := le_toNat_of_isAlpha hletter
    omega
  · next hascii =>
    rw [if_neg hascii, disjoint_digitRanges_letterRanges.contains_eq_false h] at hletter
    simp at hletter

end Text

open Text

theorem isBlank_eq_false_of_isIdentStart {c : Char} (h : isIdentStart c = true) :
    isBlank c = false := by
  rw [isIdentStart, Bool.or_eq_true, beq_iff_eq] at h
  rcases h with rfl | h
  · decide
  · exact isBlank_eq_false_of_isLetter h

/-- No character of an identifier is blank. -/
theorem isBlank_eq_false_of_isIdentContinue {c : Char} (h : isIdentContinue c = true) :
    isBlank c = false := by
  rw [isIdentContinue, Bool.or_eq_true] at h
  rcases h with h | h
  · exact isBlank_eq_false_of_isIdentStart h
  · exact isBlank_eq_false_of_isDigit h

theorem isIdentStart_eq_false_of_isDigit {c : Char} (h : isDigit c = true) :
    isIdentStart c = false := by
  rw [isIdentStart, isLetter_eq_false_of_isDigit h, Bool.or_false, beq_eq_false_iff_ne]
  rintro rfl
  exact absurd h (by decide)

/-! ### The classes, without the order -/

/-- **Each class is what its name says.** That a class is tried before another makes no
difference. -/
theorem classify_eq_iff {c : Char} {cls : CharClass} : classify c = cls ↔ cls.Fits c := by
  constructor
  · rintro rfl
    exact fits_classify c
  · intro h
    cases cls with
    | whitespace => exact classify_eq_whitespace_iff.mpr h
    | identStart =>
      have hstart : isIdentStart c = true := h
      simp [classify, isBlank_eq_false_of_isIdentStart hstart, hstart]
    | digit =>
      have hdigit : isDigit c = true := h
      simp [classify, isBlank_eq_false_of_isDigit hdigit,
        isIdentStart_eq_false_of_isDigit hdigit, hdigit]
    | quote =>
      obtain rfl : c = '\"' := h
      decide
    | slash =>
      obtain rfl : c = '/' := h
      decide
    | other =>
      obtain ⟨hblank, hstart, hdigit, hquote, hslash⟩ := h
      simp [classify, hblank, hstart, hdigit, hquote, hslash]

end TokenScan
