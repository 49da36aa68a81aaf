import TokenScan.Proofs.Classes
import TokenScan.Proofs.Portion
import Mathlib.Data.List.Infix

/-!
# The grammar of tokens

Which stretches of a text are tokens, said without the scanner: `Munch` has one clause for each
form of token, and each clause speaks of the characters of the token and of what follows it. What
follows matters for two reasons. A token is as long as it can be, so the next character must not
continue it; and only at the end of the text may a string or a comment lack its closing mark.

The grammar and the scanner are the same thing. `exists_munch` says that the grammar leaves no gap,
and `Piece.ofText?_of_munch` that the scanner takes what the grammar says; together they make the
grammar unambiguous.

## Main definitions

* `Munch` — the grammar, one clause for each form of token
* `malformation?` — what is wrong with a token, read off the text

## Main results

* `exists_munch` — every text that does not begin with a blank begins with a token
* `Piece.ofText?_of_munch` — the scanner takes that token
* `Piece.munch_of_ofText?` — what the scanner takes is a token
* `portions_of_munch` — behind blanks, the scanner takes the blanks and the token
* `portions_append_of_blank` — more blanks in front only make the first gap longer
-/

namespace TokenScan

open Text

/-- In front of `after`, the characters `raw` are a token of this kind with this lexeme. -/
inductive Munch : TokenKind → List Char → List Char → List Char → Prop
  /-- A word is a whole run of identifier characters. A reserved one is a keyword. -/
  | keyword {c : Char} {word after : List Char} (first : classify c = .identStart)
      (inside : ∀ d ∈ c :: word, isIdentContinue d = true)
      (stop : ∀ d ∈ after.head?, isIdentContinue d = false)
      (reserved : ∃ k : Keyword, k.spelling.toList = c :: word) :
      Munch .keyword (c :: word) (c :: word) after
  /-- Any other word is an identifier. -/
  | identifier {c : Char} {word after : List Char} (first : classify c = .identStart)
      (inside : ∀ d ∈ c :: word, isIdentContinue d = true)
      (stop : ∀ d ∈ after.head?, isIdentContinue d = false)
      (free : ∀ k : Keyword, k.spelling.toList ≠ c :: word) :
      Munch .identifier (c :: word) (c :: word) after
  /-- A number is digits with at most one point, which may be the last character. -/
  | number {c : Char} {digits after : List Char} (first : classify c = .digit)
      (inside : ∀ d ∈ c :: digits, isDigit d = true ∨ d = '.')
      (points : (c :: digits).count '.' ≤ 1)
      (stop : ∀ d ∈ after.head?, isDigit d = false ∧ (d = '.' → '.' ∈ c :: digits)) :
      Munch .number (c :: digits) (c :: digits) after
  /-- A string runs through the next quote. -/
  | closedString {body after : List Char} (inside : '\"' ∉ body) :
      Munch .stringLiteral body ('\"' :: (body ++ ['\"'])) after
  /-- Without a next quote, it runs to the end of the text. -/
  | openString {body : List Char} (inside : '\"' ∉ body) :
      Munch .stringLiteral body ('\"' :: body) []
  /-- A line comment runs up to the next line feed, or to the end of the text. -/
  | lineComment {body after : List Char} (inside : '\n' ∉ body)
      (stop : ∀ d ∈ after.head?, d = '\n') :
      Munch .comment body ('/' :: '/' :: body) after
  /-- A block comment runs through the first closing mark behind the opening one. -/
  | closedComment {body after : List Char} (inside : ¬ ['*', '/'] <:+: body) :
      Munch .comment body ('/' :: '*' :: (body ++ ['*', '/'])) after
  /-- Without a closing mark, it runs to the end of the text. -/
  | openComment {body : List Char} (inside : ¬ ['*', '/'] <:+: body) :
      Munch .comment body ('/' :: '*' :: body) []
  /-- Four operators have two characters. -/
  | comparison {c : Char} {after : List Char} (first : c ∈ ['=', '!', '<', '>']) :
      Munch .operator [c, '='] [c, '='] after
  /-- Any other character is an operator, if no longer operator and no comment begins with it. -/
  | sign {c : Char} {after : List Char} (first : classify c = .slash ∨ classify c = .other)
      (slash : c = '/' → ∀ d ∈ after.head?, d ≠ '/' ∧ d ≠ '*')
      (stop : c ∈ ['=', '!', '<', '>'] → ∀ d ∈ after.head?, d ≠ '=') :
      Munch .operator [c] [c] after

/-- What is wrong with a token in front of `after`: a number with a point meets another point, a
string meets no quote behind its first one, or a block comment meets no closing mark. -/
def malformation? (kind : TokenKind) (lexeme raw after : List Char) : Option Warning :=
  match kind with
  | .number => if '.' ∈ lexeme ∧ after.head? = some '.' then some .splitNumber else none
  | .stringLiteral =>
    if '\"' ∈ (raw ++ after).drop 1 then none else some .unterminatedString
  | .comment =>
    if ['/', '*'] <+: raw ∧ ¬ ['*', '/'] <:+: (raw ++ after).drop 2 then some .unterminatedComment
    else none
  | _ => none

/-- A token has at least one character. -/
theorem Munch.raw_ne_nil {kind : TokenKind} {lexeme raw after : List Char}
    (h : Munch kind lexeme raw after) : raw ≠ [] := by
  cases h <;> exact List.cons_ne_nil _ _

/-! ### Runs of characters -/

namespace Text

theorem bne_of_not_mem {c : Char} {text : List Char} (h : c ∉ text) :
    ∀ d ∈ text, (d != c) = true := by
  intro d hd
  have hne : d ≠ c := by
    rintro rfl
    exact h hd
  simpa using hne

theorem not_mem_takeWhile_bne (c : Char) (text : List Char) : c ∉ text.takeWhile (· != c) := by
  intro hmem
  have hne := List.mem_takeWhile_imp hmem
  simp at hne

/-- As many characters stand in front of the first one of a kind as there are at all, if there is
none of that kind. -/
theorem length_takeWhile_bne_eq_iff {c : Char} {text : List Char} :
    (text.takeWhile (· != c)).length = text.length ↔ c ∉ text := by
  constructor
  · intro hlength
    rw [← (List.takeWhile_prefix (· != c)).eq_of_length hlength]
    exact not_mem_takeWhile_bne c text
  · intro hnot
    rw [List.takeWhile_eq_self_iff.mpr (bne_of_not_mem hnot)]

/-- A text splits behind its longest run of characters that satisfy `p`. -/
theorem exists_run (p : Char → Bool) (text : List Char) :
    ∃ run after, text = run ++ after ∧ (∀ d ∈ run, p d = true) ∧
      ∀ d ∈ after.head?, p d = false := by
  refine ⟨text.takeWhile p, text.dropWhile p, List.takeWhile_append_dropWhile.symm,
    fun d hd => List.mem_takeWhile_imp hd, eq_false_of_mem_head?_dropWhile⟩

/-- A text without a pair of characters, or split at the first such pair. -/
theorem exists_split_at_pair (a b : Char) (text : List Char) :
    (¬ [a, b] <:+: text) ∨
      ∃ body after, text = body ++ a :: b :: after ∧ ¬ [a, b] <:+: body := by
  induction text with
  | nil => exact .inl (by simp)
  | cons c text ih =>
    by_cases hpair : [a, b] <+: c :: text
    · obtain ⟨after, hafter⟩ := hpair
      exact .inr ⟨[], after, hafter.symm, by simp⟩
    · rcases ih with hnone | ⟨body, after, rfl, hbody⟩
      · exact .inl (by rw [List.infix_cons_iff]; simp [hpair, hnone])
      · refine .inr ⟨c :: body, after, rfl, ?_⟩
        rw [List.infix_cons_iff]
        rintro (hfront | hinside)
        · exact hpair (hfront.trans (List.prefix_append (c :: body) _))
        · exact hbody hinside

end Text

/-! ### The scanner takes what the grammar says

For each form of token, the rule that applies to it and what the rule reads. -/

theorem Keyword.isSome_ofSpelling?_iff {word : List Char} :
    (ofSpelling? (String.ofList word)).isSome = true ↔ ∃ k : Keyword, k.spelling.toList = word := by
  simp only [Option.isSome_iff_exists, ofSpelling?_eq_some_iff, ← String.toList_inj,
    String.toList_ofList]

namespace Piece

theorem number_append_whole {run after : List Char} (inside : ∀ d ∈ run, isDigit d = true)
    (stop : ∀ d ∈ after.head?, isDigit d = false ∧ d ≠ '.') :
    number (run ++ after) = ⟨.number, run, run, none⟩ := by
  have hstop : ∀ d ∈ after.head?, isDigit d = false := fun d hd => (stop d hd).1
  rw [number, takeWhile_append_stop inside hstop, dropWhile_append_stop inside hstop]
  split
  · exact absurd rfl (stop '.' rfl).2
  · rfl

theorem number_append_point {whole run after : List Char}
    (hwhole : ∀ d ∈ whole, isDigit d = true) (hrun : ∀ d ∈ run, isDigit d = true)
    (stop : ∀ d ∈ after.head?, isDigit d = false) :
    number (whole ++ '.' :: (run ++ after)) =
      ⟨.number, whole ++ '.' :: run, whole ++ '.' :: run,
        if after.head? = some '.' then some .splitNumber else none⟩ := by
  have hpoint : ∀ d ∈ ('.' :: (run ++ after)).head?, isDigit d = false := by
    intro d hd
    obtain rfl := Option.some.inj hd
    decide
  rw [number, takeWhile_append_stop hwhole hpoint, dropWhile_append_stop hwhole hpoint]
  split
  · next rest hrest =>
    obtain ⟨-, rfl⟩ := List.cons.inj hrest
    rw [takeWhile_append_stop hrun stop, dropWhile_append_stop hrun stop]
  · next hne => exact absurd rfl (hne _)

theorem number_append {raw after : List Char}
    (inside : ∀ d ∈ raw, isDigit d = true ∨ d = '.') (points : raw.count '.' ≤ 1)
    (stop : ∀ d ∈ after.head?, isDigit d = false ∧ (d = '.' → '.' ∈ raw)) :
    number (raw ++ after) = ⟨.number, raw, raw, malformation? .number raw raw after⟩ := by
  have hdigit : ∀ d ∈ raw, d ≠ '.' → isDigit d = true := by
    intro d hd hne
    exact (inside d hd).resolve_right hne
  by_cases hpoint : '.' ∈ raw
  · obtain ⟨whole, run, rfl, hwhole⟩ := List.eq_append_cons_of_mem hpoint
    have hrun : '.' ∉ run := by
      rw [List.count_append, List.count_cons_self] at points
      exact List.count_eq_zero.mp (by omega)
    rw [List.append_assoc, List.cons_append, number_append_point
      (fun d hd => hdigit d (by simp [hd]) (by rintro rfl; exact hwhole hd))
      (fun d hd => hdigit d (by simp [hd]) (by rintro rfl; exact hrun hd))
      (fun d hd => (stop d hd).1)]
    simp [malformation?]
  · rw [number_append_whole
      (fun d hd => hdigit d hd (by rintro rfl; exact hpoint hd))
      (fun d hd => ⟨(stop d hd).1, fun h => hpoint ((stop d hd).2 h)⟩)]
    simp [malformation?, hpoint]

theorem stringLiteral_closed {body after : List Char} (inside : '\"' ∉ body) :
    stringLiteral ('\"' :: (body ++ ['\"']) ++ after) =
      ⟨.stringLiteral, '\"' :: (body ++ ['\"']), body, none⟩ := by
  have hbody := bne_of_not_mem inside
  have hquote : ∀ d ∈ ('\"' :: after).head?, (d != '\"') = false := by
    intro d hd
    obtain rfl := Option.some.inj hd
    rfl
  have hinner : ('\"' :: (body ++ ['\"']) ++ after).drop 1 = body ++ '\"' :: after := by simp
  have hraw : ('\"' :: (body ++ ['\"']) ++ after).take (body.length + 2) =
      '\"' :: (body ++ ['\"']) := List.take_left' (by simp)
  rw [stringLiteral, hinner, takeWhile_append_stop hbody hquote,
    dropWhile_append_stop hbody hquote, hraw]

theorem stringLiteral_open {body : List Char} (inside : '\"' ∉ body) :
    stringLiteral ('\"' :: body) =
      ⟨.stringLiteral, '\"' :: body, body, some .unterminatedString⟩ := by
  have hbody := bne_of_not_mem inside
  rw [stringLiteral, List.drop_one, List.tail_cons, List.takeWhile_eq_self_iff.mpr hbody,
    List.dropWhile_eq_nil_iff.mpr hbody]

theorem lineComment_append {body after : List Char} (inside : '\n' ∉ body)
    (stop : ∀ d ∈ after.head?, d = '\n') :
    lineComment ('/' :: '/' :: body ++ after) =
      ⟨.comment, '/' :: '/' :: body, body, none⟩ := by
  have hbody := bne_of_not_mem inside
  have hstop : ∀ d ∈ after.head?, (d != '\n') = false := by
    intro d hd
    rw [stop d hd]
    rfl
  have htext : ('/' :: '/' :: body ++ after).drop 2 = body ++ after := rfl
  rw [lineComment, htext, takeWhile_append_stop hbody hstop]
  simp

/-- Up to the first closing mark, or to the end, characters are passed one by one. -/
theorem splitAtClose_append {body rest : List Char} (inside : ¬ ['*', '/'] <:+: body)
    (hrest : rest = [] ∨ ∃ after, rest = '*' :: '/' :: after) (seen : List Char) :
    splitAtClose seen (body ++ rest) = splitAtClose (body.reverse ++ seen) rest := by
  induction body generalizing seen with
  | nil => rfl
  | cons c body ih =>
    rw [List.infix_cons_iff, not_or] at inside
    have hnot : ∀ tail, c = '*' → body ++ rest = '/' :: tail → False := by
      rintro tail rfl htail
      cases body with
      | nil =>
        -- the mark would begin with the last character in front of another mark
        rcases hrest with rfl | ⟨after, rfl⟩
        · simp at htail
        · simp at htail
      | cons d body =>
        obtain ⟨rfl, -⟩ := List.cons.inj htail
        exact inside.1 ⟨body, rfl⟩
    rw [List.cons_append, splitAtClose.eq_3 _ _ _ hnot, ih inside.2]
    simp

theorem splitAtClose_closed {body : List Char} (inside : ¬ ['*', '/'] <:+: body)
    (after : List Char) : splitAtClose [] (body ++ '*' :: '/' :: after) = (body, true) := by
  rw [splitAtClose_append inside (.inr ⟨after, rfl⟩), splitAtClose]
  simp

theorem splitAtClose_open {body : List Char} (inside : ¬ ['*', '/'] <:+: body) :
    splitAtClose [] body = (body, false) := by
  have hsplit := splitAtClose_append inside (.inl rfl) []
  rwa [List.append_nil, List.append_nil, splitAtClose, List.reverse_reverse] at hsplit

theorem blockComment_closed {body after : List Char} (inside : ¬ ['*', '/'] <:+: body) :
    blockComment ('/' :: '*' :: (body ++ ['*', '/']) ++ after) =
      ⟨.comment, '/' :: '*' :: (body ++ ['*', '/']), body, none⟩ := by
  have hinner : ('/' :: '*' :: (body ++ ['*', '/']) ++ after).drop 2 =
      body ++ '*' :: '/' :: after := by simp
  have hraw : ('/' :: '*' :: (body ++ ['*', '/']) ++ after).take (body.length + 4) =
      '/' :: '*' :: (body ++ ['*', '/']) := List.take_left' (by simp)
  rw [blockComment, hinner, splitAtClose_closed inside]
  simp only [if_true, hraw]

theorem blockComment_open {body : List Char} (inside : ¬ ['*', '/'] <:+: body) :
    blockComment ('/' :: '*' :: body) =
      ⟨.comment, '/' :: '*' :: body, body, some .unterminatedComment⟩ := by
  have hinner : ('/' :: '*' :: body).drop 2 = body := rfl
  rw [blockComment, hinner, splitAtClose_open inside]
  rfl

theorem operator_comparison {c : Char} (first : c ∈ ['=', '!', '<', '>']) (after : List Char) :
    operator (c :: '=' :: after) = ⟨.operator, [c, '='], [c, '='], none⟩ := by
  have hhead : isComparisonHead c = true := by
    simpa [isComparisonHead, or_assoc] using first
  simp [operator, hhead]

theorem operator_sign {c : Char} {after : List Char}
    (stop : c ∈ ['=', '!', '<', '>'] → ∀ d ∈ after.head?, d ≠ '=') :
    operator (c :: after) = ⟨.operator, [c], [c], none⟩ := by
  unfold operator
  split
  · next d rest htext =>
    obtain ⟨rfl, rfl⟩ := List.cons.inj htext
    have hhead : ¬ isComparisonHead c = true := by
      intro hhead
      exact stop (by simpa [isComparisonHead, or_assoc] using hhead) '=' rfl rfl
    rw [if_neg hhead]
  · next d rest hne htext =>
    obtain ⟨rfl, rfl⟩ := List.cons.inj htext
    rfl
  · next htext => simp at htext

theorem ofText?_of_rule (rule : Rule) {text : List Char} (h : Rule.ofText? text = some rule) :
    ofText? text = some (rule.read text) := by
  rw [ofText?, h, Option.map_some]

theorem identifier_append {word after : List Char}
    (inside : ∀ d ∈ word, isIdentContinue d = true)
    (stop : ∀ d ∈ after.head?, isIdentContinue d = false) :
    identifier (word ++ after) =
      ⟨if (Keyword.ofSpelling? (String.ofList word)).isSome then .keyword else .identifier,
        word, word, none⟩ := by
  rw [identifier, takeWhile_append_stop inside stop]

/-- **The scanner takes what the grammar says.** -/
theorem ofText?_of_munch {kind : TokenKind} {lexeme raw after : List Char}
    (h : Munch kind lexeme raw after) :
    ofText? (raw ++ after) = some ⟨kind, raw, lexeme, malformation? kind lexeme raw after⟩ := by
  cases h with
  | keyword first inside stop reserved =>
    rw [ofText?_of_rule .identifier (by simp [Rule.ofText?, first]), Rule.read,
      identifier_append inside stop, if_pos (Keyword.isSome_ofSpelling?_iff.mpr reserved)]
    rfl
  | @identifier c word _ first inside stop free =>
    have hfree : ¬ (Keyword.ofSpelling? (String.ofList (c :: word))).isSome = true := by
      rw [Keyword.isSome_ofSpelling?_iff]
      rintro ⟨k, hk⟩
      exact free k hk
    rw [ofText?_of_rule .identifier (by simp [Rule.ofText?, first]), Rule.read,
      identifier_append inside stop, if_neg hfree]
    rfl
  | @number c digits _ first inside points stop =>
    rw [ofText?_of_rule .number (by simp [Rule.ofText?, first]), Rule.read,
      number_append inside points stop]
  | closedString inside =>
    have hclass : classify '\"' = .quote := by decide
    rw [ofText?_of_rule .stringLiteral (by simp [Rule.ofText?, hclass]), Rule.read,
      stringLiteral_closed inside]
    simp [malformation?]
  | openString inside =>
    have hclass : classify '\"' = .quote := by decide
    rw [List.append_nil, ofText?_of_rule .stringLiteral (by simp [Rule.ofText?, hclass]),
      Rule.read, stringLiteral_open inside]
    simp [malformation?, inside]
  | lineComment inside stop =>
    have hclass : classify '/' = .slash := by decide
    rw [ofText?_of_rule .lineComment (by simp [Rule.ofText?, hclass]), Rule.read,
      lineComment_append inside stop]
    simp [malformation?]
  | closedComment inside =>
    have hclass : classify '/' = .slash := by decide
    rw [ofText?_of_rule .blockComment (by simp [Rule.ofText?, hclass]), Rule.read,
      blockComment_closed inside]
    have hmark : ['*', '/'] <:+: lexeme ++ '*' :: '/' :: after := ⟨lexeme, after, by simp⟩
    simp [malformation?, hmark]
  | openComment inside =>
    have hclass : classify '/' = .slash := by decide
    rw [List.append_nil, ofText?_of_rule .blockComment (by simp [Rule.ofText?, hclass]),
      Rule.read, blockComment_open inside]
    simp [malformation?, inside]
  | @comparison c _ first =>
    have hclass : classify c = .other := by
      simp only [List.mem_cons, List.not_mem_nil, or_false] at first
      rcases first with rfl | rfl | rfl | rfl <;> decide
    rw [ofText?_of_rule .operator (by simp [Rule.ofText?, hclass]), Rule.read]
    exact congrArg some (operator_comparison first after)
  | @sign c _ first slash stop =>
    have hrule : Rule.ofText? (c :: after) = some .operator := by
      rcases first with hclass | hclass
      · have hnot := slash (classify_eq_iff.mp hclass)
        simp only [Rule.ofText?, hclass]
        split
        · exact absurd rfl (hnot '/' rfl).1
        · exact absurd rfl (hnot '*' rfl).2
        · rfl
      · simp [Rule.ofText?, hclass]
    rw [List.cons_append, List.nil_append, ofText?_of_rule .operator hrule, Rule.read,
      operator_sign stop]
    rfl

/-- The second mark of a comment cannot use the star of the first. -/
example : ofText? "/*/".toList =
    some ⟨.comment, ['/', '*', '/'], ['/'], some .unterminatedComment⟩ := by decide

/-- A number takes one point and leaves the other. -/
example : ofText? "1..2".toList =
    some ⟨.number, ['1', '.'], ['1', '.'], some .splitNumber⟩ := by decide

end Piece

/-! ### The grammar leaves no gap -/

theorem exists_munch_word {c : Char} (h : classify c = .identStart) (rest : List Char) :
    ∃ kind lexeme raw after, c :: rest = raw ++ after ∧ Munch kind lexeme raw after := by
  obtain ⟨word, after, rfl, hword, hstop⟩ := exists_run isIdentContinue rest
  have inside : ∀ d ∈ c :: word, isIdentContinue d = true := by
    intro d hd
    rcases List.mem_cons.mp hd with rfl | hd
    · exact isIdentContinue_of_isIdentStart (classify_eq_iff.mp h)
    · exact hword d hd
  by_cases hreserved : ∃ k : Keyword, k.spelling.toList = c :: word
  · exact ⟨_, _, _, after, rfl, .keyword h inside hstop hreserved⟩
  · exact ⟨_, _, _, after, rfl, .identifier h inside hstop (not_exists.mp hreserved)⟩

theorem exists_munch_number {c : Char} (h : classify c = .digit) (rest : List Char) :
    ∃ kind lexeme raw after, c :: rest = raw ++ after ∧ Munch kind lexeme raw after := by
  have hfirst : isDigit c = true := classify_eq_iff.mp h
  have hpoint : isDigit '.' = false := by decide
  obtain ⟨whole, behind, rfl, hwhole, hstop⟩ := exists_run isDigit rest
  have hcount : (c :: whole).count '.' = 0 := by
    rw [List.count_eq_zero]
    intro hmem
    have hdigit : isDigit '.' = true := by
      rcases List.mem_cons.mp hmem with rfl | hmem
      · exact hfirst
      · exact hwhole '.' hmem
    rw [hpoint] at hdigit
    simp at hdigit
  by_cases hdot : behind.head? = some '.'
  · obtain ⟨tail, rfl⟩ := List.head?_eq_some_iff.mp hdot
    obtain ⟨run, after, rfl, hrun, hafter⟩ := exists_run isDigit tail
    have hnone : run.count '.' = 0 := by
      rw [List.count_eq_zero]
      intro hmem
      rw [hrun '.' hmem] at hpoint
      simp at hpoint
    refine ⟨_, _, c :: (whole ++ '.' :: run), after, by simp, .number h ?_ ?_ ?_⟩
    · intro d hd
      simp only [List.mem_cons, List.mem_append] at hd
      rcases hd with rfl | hd | rfl | hd
      · exact .inl hfirst
      · exact .inl (hwhole d hd)
      · exact .inr rfl
      · exact .inl (hrun d hd)
    · rw [← List.cons_append, List.count_append, List.count_cons_self]
      omega
    · exact fun d hd => ⟨hafter d hd, fun _ => by simp⟩
  · refine ⟨_, _, c :: whole, behind, rfl, .number h ?_ (by omega) ?_⟩
    · intro d hd
      rcases List.mem_cons.mp hd with rfl | hd
      · exact .inl hfirst
      · exact .inl (hwhole d hd)
    · exact fun d hd => ⟨hstop d hd, fun heq => absurd (heq ▸ hd) hdot⟩

theorem exists_munch_quote (rest : List Char) :
    ∃ kind lexeme raw after, '\"' :: rest = raw ++ after ∧ Munch kind lexeme raw after := by
  by_cases h : '\"' ∈ rest
  · obtain ⟨body, after, rfl, hbody⟩ := List.eq_append_cons_of_mem h
    exact ⟨_, _, '\"' :: (body ++ ['\"']), after, by simp, .closedString hbody⟩
  · exact ⟨_, _, '\"' :: rest, [], by simp, .openString h⟩

theorem exists_munch_slash (rest : List Char) :
    ∃ kind lexeme raw after, '/' :: rest = raw ++ after ∧ Munch kind lexeme raw after := by
  by_cases hline : rest.head? = some '/'
  · obtain ⟨tail, rfl⟩ := List.head?_eq_some_iff.mp hline
    obtain ⟨body, after, rfl, hbody, hstop⟩ := exists_run (· != '\n') tail
    refine ⟨_, _, '/' :: '/' :: body, after, rfl, .lineComment ?_ ?_⟩
    · intro hmem
      have hfalse := hbody '\n' hmem
      simp at hfalse
    · intro d hd
      simpa using hstop d hd
  by_cases hblock : rest.head? = some '*'
  · obtain ⟨tail, rfl⟩ := List.head?_eq_some_iff.mp hblock
    rcases exists_split_at_pair '*' '/' tail with hnone | ⟨body, after, rfl, hbody⟩
    · exact ⟨_, _, '/' :: '*' :: tail, [], by simp, .openComment hnone⟩
    · exact ⟨_, _, '/' :: '*' :: (body ++ ['*', '/']), after, by simp, .closedComment hbody⟩
  · refine ⟨_, _, ['/'], rest, rfl, .sign (.inl (by decide)) (fun _ d hd => ?_) ?_⟩
    · exact ⟨fun heq => hline (heq ▸ hd), fun heq => hblock (heq ▸ hd)⟩
    · intro hmem
      simp at hmem

/-- **The grammar leaves no gap.** A text begins with a blank or with a token. -/
theorem exists_munch {c : Char} (h : isBlank c = false) (rest : List Char) :
    ∃ kind lexeme raw after, c :: rest = raw ++ after ∧ Munch kind lexeme raw after := by
  cases hclass : classify c with
  | whitespace =>
    rw [classify_eq_whitespace_iff, h] at hclass
    simp at hclass
  | identStart => exact exists_munch_word hclass rest
  | digit => exact exists_munch_number hclass rest
  | quote =>
    obtain rfl : c = '\"' := classify_eq_iff.mp hclass
    exact exists_munch_quote rest
  | slash =>
    obtain rfl : c = '/' := classify_eq_iff.mp hclass
    exact exists_munch_slash rest
  | other =>
    by_cases hhead : c ∈ ['=', '!', '<', '>'] ∧ rest.head? = some '='
    · obtain ⟨tail, rfl⟩ := List.head?_eq_some_iff.mp hhead.2
      exact ⟨_, _, [c, '='], tail, rfl, .comparison hhead.1⟩
    · refine ⟨_, _, [c], rest, rfl, .sign (.inr hclass) ?_ ?_⟩
      · rintro rfl
        exact absurd hclass (by decide)
      · exact fun hmem d hd heq => hhead ⟨hmem, heq ▸ hd⟩

/-- What the scanner takes is a token. -/
theorem Piece.munch_of_ofText? {text : List Char} {piece : Piece}
    (h : Piece.ofText? text = some piece) :
    ∃ after, text = piece.raw ++ after ∧ Munch piece.kind piece.lexeme piece.raw after ∧
      piece.warning? = malformation? piece.kind piece.lexeme piece.raw after := by
  obtain ⟨c, rest, rfl, hblank⟩ := Piece.exists_eq_cons h
  obtain ⟨kind, lexeme, raw, after, htext, hmunch⟩ := exists_munch hblank rest
  have htaken := Piece.ofText?_of_munch hmunch
  rw [← htext, h] at htaken
  obtain rfl := Option.some.inj htaken
  exact ⟨after, htext, hmunch, rfl⟩

/-- No token begins with a blank. -/
theorem Munch.isBlank_eq_false {kind : TokenKind} {lexeme raw after : List Char}
    (h : Munch kind lexeme raw after) : ∀ c ∈ raw.head?, isBlank c = false := by
  intro c hc
  obtain ⟨others, rfl⟩ := List.head?_eq_some_iff.mp hc
  obtain ⟨d, rest, htext, hd⟩ := Piece.exists_eq_cons (Piece.ofText?_of_munch h)
  obtain rfl : c = d := List.head_eq_of_cons_eq htext
  exact hd

/-! ### Behind blanks -/

section

variable {gap lexeme raw after : List Char} {kind : TokenKind}

/-- Behind blanks, the scanner takes the blanks and the token. -/
theorem Portion.ofText?_of_munch
    (hgap : ∀ c ∈ gap, isBlank c = true) (h : Munch kind lexeme raw after) :
    ofText? (gap ++ raw ++ after) =
      some ⟨gap, ⟨kind, raw, lexeme, malformation? kind lexeme raw after⟩⟩ := by
  rw [ofText?_eq_some_iff]
  exact ⟨hgap, raw ++ after, List.append_assoc .., Piece.ofText?_of_munch h⟩

/-- Behind blanks, the first step of a run takes the token, and the other steps what follows. -/
theorem portions_of_munch (hgap : ∀ c ∈ gap, isBlank c = true)
    (h : Munch kind lexeme raw after) :
    portions (gap ++ raw ++ after) =
      ⟨gap, ⟨kind, raw, lexeme, malformation? kind lexeme raw after⟩⟩ :: portions after := by
  have hportion := Portion.ofText?_of_munch hgap h
  exact @portions_of_some ⟨gap, ⟨kind, raw, lexeme, malformation? kind lexeme raw after⟩⟩ after
    hportion

theorem blankEnd_of_munch (hgap : ∀ c ∈ gap, isBlank c = true)
    (h : Munch kind lexeme raw after) :
    blankEnd (gap ++ raw ++ after) = blankEnd after := by
  have hportion := Portion.ofText?_of_munch hgap h
  exact @blankEnd_of_some ⟨gap, ⟨kind, raw, lexeme, malformation? kind lexeme raw after⟩⟩ after
    hportion

/-- What a step takes is blanks and a token. -/
theorem Portion.munch_of_ofText? {portion : Portion}
    (h : ofText? (portion.chars ++ after) = some portion) :
    (∀ c ∈ portion.gap, isBlank c = true) ∧
      Munch portion.piece.kind portion.piece.lexeme portion.piece.raw after ∧
      portion.piece.warning? =
        malformation? portion.piece.kind portion.piece.lexeme portion.piece.raw after := by
  obtain ⟨hgap, behind, hbehind, hpiece⟩ := ofText?_eq_some_iff.mp h
  obtain ⟨other, rfl, hmunch, hwarning⟩ := Piece.munch_of_ofText? hpiece
  obtain rfl : after = other := by
    rw [chars, List.append_assoc] at hbehind
    exact List.append_cancel_left (List.append_cancel_left hbehind)
  exact ⟨hgap, hmunch, hwarning⟩

theorem Portion.ofText?_append_of_none (hgap : ∀ c ∈ gap, isBlank c = true) {text : List Char}
    (h : Portion.ofText? text = none) : Portion.ofText? (gap ++ text) = none :=
  Portion.ofText?_eq_none_iff.mpr
    (List.forall_mem_append.mpr ⟨hgap, Portion.ofText?_eq_none_iff.mp h⟩)

/-- **More blanks in front only make the first gap longer.** -/
theorem portions_append_of_blank (hgap : ∀ c ∈ gap, isBlank c = true) (text : List Char) :
    portions (gap ++ text) =
      (portions text).modifyHead fun portion => { portion with gap := gap ++ portion.gap } := by
  cases htext : Portion.ofText? text with
  | none =>
    rw [portions_of_none htext, portions_of_none (Portion.ofText?_append_of_none hgap htext)]
    rfl
  | some portion =>
    obtain ⟨rest, rfl, -⟩ := Portion.exists_rest htext
    obtain ⟨hfront, hmunch, hwarning⟩ := Portion.munch_of_ofText? htext
    have hgaps : ∀ c ∈ gap ++ portion.gap, isBlank c = true :=
      List.forall_mem_append.mpr ⟨hgap, hfront⟩
    have hlonger := portions_of_munch hgaps hmunch
    rw [← hwarning, List.append_assoc, List.append_assoc,
      ← List.append_assoc portion.gap] at hlonger
    rw [portions_of_some htext, Portion.chars, hlonger]
    rfl

end

end TokenScan
