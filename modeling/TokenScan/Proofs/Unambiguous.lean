import TokenScan.Proofs.Grammar
import TokenScan.Report.Chunk
import TokenScan.Text.Printed
import Mathlib.Data.List.Forall2

/-!
# Texts that can be taken apart

A report is lossless if its parts can be told from the text of the whole. The parts stand one behind
the other, so what has to be shown of each of them is the same: in front of what may follow it, it
can be read in one way only. From `a ++ x = b ++ y` one concludes `a = b` and `x = y`.

This module has the three reasons for that. A part ends where a character stands that is never
inside it, such as the line feed behind a line. A numeral ends where no digit stands. A run of
characters, each written in a form of its own, can be read form by form, if no form is the beginning
of another, and it ends where a character stands with which no form begins.

Two of the texts escape characters, each with its own marks and codes. `Text.Escaping` has what they
have in common, and that is enough to tell their forms.

## Main definitions

* `Text.Escaping` — marks and codes that can be told from each other
* `Text.Escaping.Writes` — a form stands for a character

## Main results

* `Text.append_inj_of_stop`, `Text.append_cons_inj` — a part ends where another character stands
* `Text.forall₂_of_flatMap_append` — a run of parts, and from it
  `Text.flatMap_append_cons_inj` — characters that are written in forms of their own
* `Text.Escaping.Writes.append_inj` — an escaped character can be told from its form
* `Text.intercalate_append_cons_inj` — a list between brackets
* `Text.toDigits_injective` — a number can be told from its numeral
* `bytesOf_injective` — a text can be told from its bytes
-/

namespace TokenScan

namespace Text

variable {α : Type}

/-! ### Where a part ends -/

/-- **A part ends where another character stands.** All of its own characters satisfy a test, and
the first one behind it does not. -/
theorem append_inj_of_stop {p : Char → Bool} {a b x y : List Char} (ha : ∀ c ∈ a, p c = true)
    (hb : ∀ c ∈ b, p c = true) (hx : ∀ c ∈ x.head?, p c = false) (hy : ∀ c ∈ y.head?, p c = false)
    (h : a ++ x = b ++ y) : a = b ∧ x = y := by
  have htake := congrArg (List.takeWhile p) h
  have hdrop := congrArg (List.dropWhile p) h
  rw [takeWhile_append_stop ha hx, takeWhile_append_stop hb hy] at htake
  rw [dropWhile_append_stop ha hx, dropWhile_append_stop hb hy] at hdrop
  exact ⟨htake, hdrop⟩

/-- A part ends at the first place of a character that it does not contain. -/
theorem append_cons_inj {stop : Char} {a b x y : List Char} (ha : stop ∉ a) (hb : stop ∉ b)
    (h : a ++ stop :: x = b ++ stop :: y) : a = b ∧ x = y := by
  obtain ⟨hab, hxy⟩ := append_inj_of_stop (bne_of_not_mem ha) (bne_of_not_mem hb)
    (by simp) (by simp) h
  exact ⟨hab, List.tail_eq_of_cons_eq hxy⟩

/-- What may stand behind a part of a run: another part, or what stands behind the run. -/
def MayFollow (form : α → List Char) (Behind : List Char → Prop) (x : List Char) : Prop :=
  Behind x ∨ ∃ a z, x = form a ++ z

theorem mayFollow_flatMap_append {form : α → List Char} {Behind : List Char → Prop}
    {x : List Char} (hx : Behind x) (as : List α) :
    MayFollow form Behind (as.flatMap form ++ x) := by
  cases as with
  | nil => exact .inl hx
  | cons a as => exact .inr ⟨a, as.flatMap form ++ x, by rw [List.flatMap_cons, List.append_assoc]⟩

/-- **A run of parts.** If each part can be told in front of what may follow it, and none is taken
for what stands behind the run, then the parts of the run can be told one after the other. -/
theorem forall₂_of_flatMap_append {R : α → α → Prop} {form : α → List Char}
    (Behind : List Char → Prop) {as bs : List α} {x y : List Char}
    (hform : ∀ a ∈ as, ∀ b ∈ bs, ∀ {x y}, MayFollow form Behind x → MayFollow form Behind y →
      form a ++ x = form b ++ y → R a b ∧ x = y)
    (hbehind : ∀ a z, ¬ Behind (form a ++ z)) (hx : Behind x) (hy : Behind y)
    (h : as.flatMap form ++ x = bs.flatMap form ++ y) : List.Forall₂ R as bs ∧ x = y := by
  induction as generalizing bs with
  | nil =>
    cases bs with
    | nil => exact ⟨.nil, h⟩
    | cons b bs =>
      rw [List.flatMap_nil, List.nil_append, List.flatMap_cons, List.append_assoc] at h
      exact absurd (h ▸ hx) (hbehind b _)
  | cons a as ih =>
    cases bs with
    | nil =>
      rw [List.flatMap_nil, List.nil_append, List.flatMap_cons, List.append_assoc] at h
      exact absurd (h ▸ hy) (hbehind a _)
    | cons b bs =>
      rw [List.flatMap_cons, List.flatMap_cons, List.append_assoc, List.append_assoc] at h
      obtain ⟨hab, hrest⟩ := hform a (List.mem_cons_self ..) b (List.mem_cons_self ..)
        (mayFollow_flatMap_append hx as) (mayFollow_flatMap_append hy bs) h
      obtain ⟨hall, hxy⟩ := ih (fun a ha b hb => hform a (List.mem_cons_of_mem _ ha) b
        (List.mem_cons_of_mem _ hb)) hrest
      exact ⟨.cons hab hall, hxy⟩

/-- **Characters that are written in forms of their own.** If no form is the beginning of another,
they can be told one after the other, up to a character with which no form begins. -/
theorem flatMap_append_cons_inj {form : α → List Char} {stop : Char}
    (hform : ∀ {a b x y}, form a ++ x = form b ++ y → a = b ∧ x = y)
    (hstop : ∀ {a x y}, form a ++ x ≠ stop :: y) {as bs : List α} {x y : List Char}
    (h : as.flatMap form ++ stop :: x = bs.flatMap form ++ stop :: y) : as = bs ∧ x = y := by
  obtain ⟨hall, hxy⟩ := forall₂_of_flatMap_append (R := Eq) (fun z => ∃ w, z = stop :: w)
    (fun a _ b _ _ _ _ _ heq => hform heq) (fun a z ⟨w, hw⟩ => hstop hw) ⟨x, rfl⟩ ⟨y, rfl⟩ h
  exact ⟨(List.forall₂_eq_eq_eq ▸ hall : as = bs), List.tail_eq_of_cons_eq hxy⟩

/-! ### Escaped characters -/

/-- A way to escape characters. Some of them have a mark, which stands for them behind a backslash;
the others may stand for themselves. Behind a backslash and a `u` stands the code of a character. -/
structure Escaping where
  /-- The mark of a character. -/
  mark? : Char → Option Char
  /-- These characters are a code of this character. -/
  IsCode : List Char → Char → Prop
  /-- No two characters have the same mark. -/
  mark?_injective : ∀ {c d mark}, mark? c = some mark → mark? d = some mark → c = d
  /-- The letter in front of a code is no mark. -/
  mark?_ne_u : ∀ c, mark? c ≠ some 'u'
  /-- The line feed is no mark. -/
  mark?_ne_lineFeed : ∀ c, mark? c ≠ some '\n'
  /-- A backslash does not stand for itself. -/
  mark?_backslash : mark? '\\' ≠ none
  /-- A line feed does not stand for itself. -/
  mark?_lineFeed : mark? '\n' ≠ none
  /-- A character can be told from its code, and so can what follows. -/
  code_append_inj : ∀ {a b c d x y}, IsCode a c → IsCode b d → a ++ x = b ++ y → c = d ∧ x = y
  /-- No code holds a line feed. -/
  lineFeed_not_mem_code : ∀ {code c}, IsCode code c → '\n' ∉ code

/-- A form stands for a character. -/
inductive Escaping.Writes (escaping : Escaping) : List Char → Char → Prop
  /-- A character without a mark may stand for itself. -/
  | plain {c : Char} (h : escaping.mark? c = none) : Writes escaping [c] c
  /-- A mark stands for the character that has it. -/
  | short {c mark : Char} (h : escaping.mark? c = some mark) : Writes escaping ['\\', mark] c
  /-- A code stands for its character. -/
  | code {c : Char} {code : List Char} (h : escaping.IsCode code c) :
      Writes escaping ('\\' :: 'u' :: code) c

namespace Escaping.Writes

variable {escaping : Escaping} {form other : List Char} {c d : Char} {x y : List Char}

/-- A form that begins with a backslash is not the character itself. -/
theorem ne_backslash (h : escaping.mark? c = none) : c ≠ '\\' := by
  rintro rfl
  exact escaping.mark?_backslash h

/-- **No form is the beginning of another.** So the first character can be told, and what follows
its form. -/
theorem append_inj (h : escaping.Writes form c) (h' : escaping.Writes other d)
    (heq : form ++ x = other ++ y) : c = d ∧ x = y := by
  cases h with
  | plain hc =>
    cases h' with
    | plain => exact List.cons_eq_cons.mp heq
    | short => exact absurd (List.head_eq_of_cons_eq heq) (ne_backslash hc)
    | code => exact absurd (List.head_eq_of_cons_eq heq) (ne_backslash hc)
  | short hc =>
    cases h' with
    | plain hd => exact absurd (List.head_eq_of_cons_eq heq).symm (ne_backslash hd)
    | short hd =>
      obtain ⟨-, hrest⟩ := List.cons_eq_cons.mp heq
      obtain ⟨rfl, hxy⟩ := List.cons_eq_cons.mp hrest
      exact ⟨escaping.mark?_injective hc hd, hxy⟩
    | code =>
      obtain ⟨-, hrest⟩ := List.cons_eq_cons.mp heq
      obtain ⟨rfl, -⟩ := List.cons_eq_cons.mp hrest
      exact absurd hc (escaping.mark?_ne_u c)
  | code hc =>
    cases h' with
    | plain hd => exact absurd (List.head_eq_of_cons_eq heq).symm (ne_backslash hd)
    | short hd =>
      obtain ⟨-, hrest⟩ := List.cons_eq_cons.mp heq
      obtain ⟨rfl, -⟩ := List.cons_eq_cons.mp hrest
      exact absurd hd (escaping.mark?_ne_u d)
    | code hd =>
      obtain ⟨-, hrest⟩ := List.cons_eq_cons.mp heq
      obtain ⟨-, hcodes⟩ := List.cons_eq_cons.mp hrest
      exact escaping.code_append_inj hc hd hcodes

/-- No form begins with a character that has a mark, except for the backslash. -/
theorem append_ne {stop : Char} (hmark : escaping.mark? stop ≠ none) (hstop : stop ≠ '\\')
    (h : escaping.Writes form c) : form ++ x ≠ stop :: y := by
  intro heq
  cases h with
  | plain h =>
    obtain rfl : c = stop := List.head_eq_of_cons_eq heq
    exact hmark h
  | short => exact hstop (List.head_eq_of_cons_eq heq).symm
  | code => exact hstop (List.head_eq_of_cons_eq heq).symm

/-- No form holds a line feed. -/
theorem lineFeed_not_mem (h : escaping.Writes form c) : '\n' ∉ form := by
  intro hmem
  cases h with
  | plain h =>
    obtain rfl := List.mem_singleton.mp hmem
    exact escaping.mark?_lineFeed h
  | @short _ mark h =>
    obtain rfl : '\n' = mark := by simpa using hmem
    exact escaping.mark?_ne_lineFeed c h
  | @code _ code h =>
    have hcode : '\n' ∈ code := by simpa using hmem
    exact escaping.lineFeed_not_mem_code h hcode

end Escaping.Writes

/-! ### Lists between brackets -/

theorem intercalate_cons (sep text : List Char) (texts : List (List Char)) :
    sep.intercalate (text :: texts) = text ++ texts.flatMap fun later => sep ++ later := by
  induction texts generalizing text with
  | nil => simp
  | cons later texts ih => rw [List.intercalate_cons_cons, ih, List.flatMap_cons]; simp

theorem not_mem_intercalate {c : Char} {sep : List Char} {texts : List (List Char)}
    (hsep : c ∉ sep) (htexts : ∀ text ∈ texts, c ∉ text) : c ∉ sep.intercalate texts := by
  cases texts with
  | nil => simp
  | cons text texts =>
    rw [List.forall_mem_cons] at htexts
    rw [intercalate_cons, List.mem_append, List.mem_flatMap]
    rintro (hmem | ⟨later, hlater, hmem⟩)
    · exact htexts.1 hmem
    · exact (List.mem_append.mp hmem).elim hsep (htexts.2 later hlater)

/-- **A list between brackets.** If each item can be told in front of a comma and of the closing
bracket, and none begins with that bracket, then the items can be told, and what follows them. -/
theorem intercalate_append_cons_inj {form : α → List Char} {stop : Char} (hcomma : stop ≠ ',')
    (hstop : ∀ a x y, form a ++ x ≠ stop :: y) {as bs : List α} {x y : List Char}
    (hform : ∀ a ∈ as, ∀ b ∈ bs, ∀ {x y}, (∀ c ∈ x.head?, c = ',' ∨ c = stop) →
      (∀ c ∈ y.head?, c = ',' ∨ c = stop) → form a ++ x = form b ++ y → a = b ∧ x = y)
    (h : [','].intercalate (as.map form) ++ stop :: x =
      [','].intercalate (bs.map form) ++ stop :: y) : as = bs ∧ x = y := by
  let later (a : α) : List Char := ',' :: form a
  let Closing (z : List Char) : Prop := ∃ w, z = stop :: w
  have hcons : ∀ a as z, [','].intercalate ((a :: as).map form) ++ z =
      form a ++ (as.flatMap later ++ z) := by
    intro a as z
    rw [List.map_cons, intercalate_cons, List.flatMap_map, List.append_assoc]
    rfl
  have hfollow : ∀ {z}, MayFollow later Closing z → ∀ c ∈ z.head?, c = ',' ∨ c = stop := by
    rintro _ (⟨w, rfl⟩ | ⟨a, w, rfl⟩) c hc
    · exact .inr (Option.mem_some.mp hc).symm
    · exact .inl (Option.mem_some.mp hc).symm
  cases as with
  | nil =>
    cases bs with
    | nil => exact ⟨rfl, List.tail_eq_of_cons_eq h⟩
    | cons b bs =>
      rw [hcons] at h
      exact absurd h.symm (hstop b _ _)
  | cons a as =>
    cases bs with
    | nil =>
      rw [hcons] at h
      exact absurd h (hstop a _ _)
    | cons b bs =>
      rw [hcons, hcons] at h
      have hx : Closing (stop :: x) := ⟨x, rfl⟩
      have hy : Closing (stop :: y) := ⟨y, rfl⟩
      obtain ⟨rfl, hrest⟩ := hform a (List.mem_cons_self ..) b (List.mem_cons_self ..)
        (hfollow (mayFollow_flatMap_append hx as)) (hfollow (mayFollow_flatMap_append hy bs)) h
      obtain ⟨hall, hxy⟩ := forall₂_of_flatMap_append (R := Eq) Closing
        (fun a ha b hb {_ _} hfx hfy heq => hform a (List.mem_cons_of_mem _ ha) b
          (List.mem_cons_of_mem _ hb) (hfollow hfx) (hfollow hfy) (List.tail_eq_of_cons_eq heq))
        (fun a z ⟨w, hw⟩ => hcomma (List.head_eq_of_cons_eq hw).symm) hx hy hrest
      obtain rfl : as = bs := List.forall₂_eq_eq_eq ▸ hall
      exact ⟨rfl, List.tail_eq_of_cons_eq hxy⟩

/-! ### Numerals -/

theorem exists_digitChar_of_mem_toDigits {base n : Nat} (hbase : 1 < base) {c : Char}
    (hc : c ∈ Nat.toDigits base n) : ∃ digit < base, c = digit.digitChar := by
  induction n using Nat.strongRecOn with
  | ind n ih =>
    rw [Nat.toDigits_eq_if hbase] at hc
    split at hc
    · next hlt => exact ⟨n, hlt, List.mem_singleton.mp hc⟩
    · next hge =>
      rcases List.mem_append.mp hc with hc | hc
      · exact ih (n / base) (Nat.div_lt_self (by omega) hbase) hc
      · exact ⟨n % base, Nat.mod_lt n (by omega), List.mem_singleton.mp hc⟩

theorem digitChar_injective : ∀ m < 16, ∀ n < 16, m.digitChar = n.digitChar → m = n := by decide

/-- **Numbers are told from their numerals**, up to hexadecimal ones. -/
theorem toDigits_injective {base m n : Nat} (hbase : 1 < base) (hsmall : base ≤ 16)
    (h : Nat.toDigits base m = Nat.toDigits base n) : m = n := by
  have hdigit : ∀ {i j}, i < base → j < base → i.digitChar = j.digitChar → i = j :=
    fun hi hj => digitChar_injective _ (by omega) _ (by omega)
  induction m using Nat.strongRecOn generalizing n with
  | ind m ih =>
    rw [Nat.toDigits_eq_if hbase, Nat.toDigits_eq_if hbase (n := n)] at h
    by_cases hm : m < base <;> by_cases hn : n < base
    · rw [if_pos hm, if_pos hn] at h
      exact hdigit hm hn (List.head_eq_of_cons_eq h)
    · rw [if_pos hm, if_neg hn, List.singleton_eq_append_iff] at h
      simp at h
    · rw [if_neg hm, if_pos hn, List.append_eq_singleton_iff] at h
      simp at h
    · rw [if_neg hm, if_neg hn] at h
      obtain ⟨hfront, hlast⟩ := List.append_inj' h rfl
      have hquot := ih (m / base) (Nat.div_lt_self (by omega) hbase) hfront
      have hrem := hdigit (Nat.mod_lt m (by omega)) (Nat.mod_lt n (by omega))
        (List.head_eq_of_cons_eq hlast)
      rw [← Nat.div_add_mod m base, ← Nat.div_add_mod n base, hquot, hrem]

theorem isDigit_of_mem_decimal {n : Nat} {c : Char} (hc : c ∈ (decimal n).toList) :
    c.isDigit = true := by
  rw [toList_decimal] at hc
  exact Nat.isDigit_of_mem_toDigits (by decide) (by decide) hc

/-- A numeral ends where no digit stands. -/
theorem decimal_append_inj {m n : Nat} {x y : List Char} (hx : ∀ c ∈ x.head?, c.isDigit = false)
    (hy : ∀ c ∈ y.head?, c.isDigit = false)
    (h : (decimal m).toList ++ x = (decimal n).toList ++ y) : m = n ∧ x = y := by
  obtain ⟨hdigits, hxy⟩ := append_inj_of_stop (fun c => isDigit_of_mem_decimal)
    (fun c => isDigit_of_mem_decimal) hx hy h
  rw [toList_decimal, toList_decimal] at hdigits
  exact ⟨toDigits_injective (by decide) (by decide) hdigits, hxy⟩

end Text

/-! ### Bytes and pieces -/

theorem bytesOf_injective : Function.Injective bytesOf := by
  intro a b h
  have hdata : a.toByteArray.data = b.toByteArray.data := Array.toList_inj.mp h
  exact String.toByteArray_inj.mp (ByteArray.ext hdata)

theorem Chunk.toList_join (chunks : List Chunk) :
    (join chunks).toList = chunks.flatMap fun chunk => chunk.text.toList := by
  rw [join, String.toList_join, List.flatMap_map]

end TokenScan
