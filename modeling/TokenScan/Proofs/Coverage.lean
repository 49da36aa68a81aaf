import TokenScan.Proofs.Cut

/-!
# The tokens cover the text

A token keeps its lexeme and the place where it begins. Its delimiters are dropped, and the blanks
between tokens are not kept at all. Still nothing is lost: put the delimiters back, lay blanks
between, and the text is there again, with each token at its line and column.

Lines and columns are words, so this is about texts that are too short for words to wrap around.

## Main definitions

* `Delimited` — the raw text of a token, from its kind and its lexeme
* `Unclosed` — the same where the text ends too early for a closing delimiter
* `Cut.Covers` — blanks and the raw texts of tokens make up a text, and the places are right

## Main results

* `tokens_cover` — the tokens of a scan cover the text
-/

namespace TokenScan

open Text

/-- The raw text of a token of this kind with this lexeme. -/
inductive Delimited : TokenKind → List Char → List Char → Prop
  /-- Words, numbers and operators have no delimiters. -/
  | plain {kind : TokenKind} (h : kind ∈ [.keyword, .identifier, .number, .operator])
      (lexeme : List Char) : Delimited kind lexeme lexeme
  /-- Strings stand between quotes. -/
  | stringLiteral (lexeme : List Char) :
      Delimited .stringLiteral lexeme ('\"' :: (lexeme ++ ['\"']))
  /-- Line comments have a mark in front. -/
  | lineComment (lexeme : List Char) : Delimited .comment lexeme ('/' :: '/' :: lexeme)
  /-- Block comments stand between two marks. -/
  | blockComment (lexeme : List Char) :
      Delimited .comment lexeme ('/' :: '*' :: (lexeme ++ ['*', '/']))

/-- The raw text of a token whose closing delimiter is missing. -/
inductive Unclosed : TokenKind → List Char → List Char → Prop
  /-- A string without its second quote. -/
  | stringLiteral (lexeme : List Char) : Unclosed .stringLiteral lexeme ('\"' :: lexeme)
  /-- A block comment without its second mark. -/
  | blockComment (lexeme : List Char) : Unclosed .comment lexeme ('/' :: '*' :: lexeme)

/-- A token has its delimiters, except perhaps at the end of the text. -/
theorem Munch.delimited_or_unclosed {kind : TokenKind} {lexeme raw after : List Char}
    (h : Munch kind lexeme raw after) :
    Delimited kind lexeme raw ∨ Unclosed kind lexeme raw ∧ after = [] := by
  cases h with
  | keyword => exact .inl (.plain (by decide) _)
  | identifier => exact .inl (.plain (by decide) _)
  | number => exact .inl (.plain (by decide) _)
  | closedString => exact .inl (.stringLiteral _)
  | openString => exact .inr ⟨.stringLiteral _, rfl⟩
  | lineComment => exact .inl (.lineComment _)
  | closedComment => exact .inl (.blockComment _)
  | openComment => exact .inr ⟨.blockComment _, rfl⟩
  | comparison => exact .inl (.plain (by decide) _)
  | sign => exact .inl (.plain (by decide) _)

namespace Site.Reads

variable {site : Site} {token : Token}

theorem toNat_line (h : site.Reads token) (hshort : site.before.length < 2 ^ 32 - 1) :
    token.line.toNat = lineOf site.before := by
  have hplace := Location.toNat_line_past_start hshort
  rw [Location.past_start] at hplace
  rw [h.line_eq, hplace]

theorem toNat_column (h : site.Reads token) (hshort : site.before.length < 2 ^ 32 - 1) :
    token.column.toNat = columnOf site.before := by
  have hplace := Location.toNat_column_past_start hshort
  rw [Location.past_start] at hplace
  rw [h.column_eq, hplace]

end Site.Reads

/-- The raw texts of tokens cover a text: between blank gaps they make it up. -/
structure Cut.Covers (cut : Cut) (text : List Char) (tokens : List Token) : Prop where
  /-- The gaps and the stretches, in order, are the text. -/
  text_eq : cut.text = text
  /-- The gaps in front of the stretches are blank. -/
  gap_blank : ∀ segment ∈ cut.segments, ∀ c ∈ segment.gap, isBlank c = true
  /-- The gap behind the last stretch is blank. -/
  tail_blank : ∀ c ∈ cut.tail, isBlank c = true
  /-- The stretches are the raw texts of the tokens, one for one. A closing delimiter is missing
  at most from the last, and then there is no gap behind it. -/
  raw : List.Forall₂ (fun site token =>
    Delimited token.kind token.lexeme.toList site.raw ∨
      Unclosed token.kind token.lexeme.toList site.raw ∧
        cut.sites.getLast? = some site ∧ cut.tail = []) cut.sites tokens
  /-- Each token has the line and the column where its raw text begins. -/
  place : List.Forall₂ (fun site token =>
    token.line.toNat = lineOf site.before ∧ token.column.toNat = columnOf site.before)
    cut.sites tokens
  /-- Each token begins at a later place than the ones before it. -/
  increasing : tokens.Pairwise fun token later =>
    token.line < later.line ∨ token.line = later.line ∧ token.column < later.column

namespace Cut

/-- What stands before a stretch is no longer than the text. -/
theorem length_before_le {source : String} {site : Site}
    (h : site ∈ (ofText source.toList).sites) : site.before.length ≤ source.length := by
  have htext := append_of_mem_sites h
  rw [(legal_ofText _).text_eq, List.append_assoc] at htext
  have hlength := congrArg List.length htext
  rw [List.length_append, String.length_toList] at hlength
  omega

/-- In a short text, what stands before a stretch is short. -/
theorem length_before_lt {source : String} (hshort : source.length < 2 ^ 32 - 1) {site : Site}
    (h : site ∈ (ofText source.toList).sites) : site.before.length < 2 ^ 32 - 1 :=
  Nat.lt_of_le_of_lt (length_before_le h) hshort

theorem forall₂_raw (source : String) :
    List.Forall₂ (fun site token =>
      Delimited token.kind token.lexeme.toList site.raw ∨
        Unclosed token.kind token.lexeme.toList site.raw ∧
          (ofText source.toList).sites.getLast? = some site ∧ (ofText source.toList).tail = [])
      (ofText source.toList).sites (Scan.ofText source).tokens := by
  have hreads := forall₂_reads source
  rw [List.forall₂_iff_zip]
  refine ⟨hreads.length_eq, fun hmem => ?_⟩
  have hread := List.forall₂_zip hreads hmem
  rcases hread.munch.delimited_or_unclosed with hclosed | ⟨hunclosed, hafter⟩
  · exact .inl hclosed
  · exact .inr ⟨hunclosed, (legal_ofText _).getLast?_sites (List.of_mem_zip hmem).1 hafter⟩

theorem forall₂_place {source : String} (hshort : source.length < 2 ^ 32 - 1) :
    List.Forall₂ (fun site token =>
      token.line.toNat = lineOf site.before ∧ token.column.toNat = columnOf site.before)
      (ofText source.toList).sites (Scan.ofText source).tokens := by
  have hreads := forall₂_reads source
  rw [List.forall₂_iff_zip]
  refine ⟨hreads.length_eq, fun hmem => ?_⟩
  have hread := List.forall₂_zip hreads hmem
  have hbefore := length_before_lt hshort (List.of_mem_zip hmem).1
  exact ⟨hread.toNat_line hbefore, hread.toNat_column hbefore⟩

/-- In a short text, each token begins at a later place than the ones before it. -/
theorem pairwise_place {source : String} (hshort : source.length < 2 ^ 32 - 1) :
    (Scan.ofText source).tokens.Pairwise fun token later =>
      token.line < later.line ∨ token.line = later.line ∧ token.column < later.column := by
  have hreads := forall₂_reads source
  have hplace := forall₂_place hshort
  rw [← List.map_snd_zip (Nat.le_of_eq hreads.length_eq.symm), List.pairwise_map]
  refine (pairwise_zip_tokens source).imp_of_mem fun {p later} hp hlater hfront => ?_
  obtain ⟨hline, hcolumn⟩ := List.forall₂_zip hplace hp
  obtain ⟨hline', hcolumn'⟩ := List.forall₂_zip hplace hlater
  -- the later text is the earlier one, the raw text, and what stands between the two tokens
  obtain ⟨between, hbetween⟩ := hfront
  have hraw : p.1.raw ++ between ≠ [] :=
    List.append_ne_nil_of_left_ne_nil (List.forall₂_zip hreads hp).munch.raw_ne_nil between
  have hlt := lineOf_columnOf_lt p.1.before hraw
  rw [← List.append_assoc, hbetween, ← hline, ← hcolumn, ← hline', ← hcolumn'] at hlt
  rcases hlt with hlt | ⟨heq, hlt⟩
  · exact .inl (UInt32.lt_iff_toNat_lt.mpr hlt)
  · exact .inr ⟨UInt32.toNat_inj.mp heq, UInt32.lt_iff_toNat_lt.mpr hlt⟩

end Cut

/-- **The tokens cover the text.** No character of it is lost, doubled or moved, and every token
has the place where it stands. -/
theorem tokens_cover (source : String) (hshort : source.length < 2 ^ 32 - 1) :
    ∃ cut : Cut, cut.Covers source.toList (Scan.ofText source).tokens := by
  have hlegal := Cut.legal_ofText source.toList
  refine ⟨Cut.ofText source.toList, ?_⟩
  exact
    { text_eq := hlegal.text_eq
      gap_blank := hlegal.gap_blank
      tail_blank := hlegal.tail_blank
      raw := Cut.forall₂_raw source
      place := Cut.forall₂_place hshort
      increasing := Cut.pairwise_place hshort }

/-- Two lines, the second with a string that is not closed. -/
theorem tokens_cover_open_string :
    "x = 1\n\"y ".length < 2 ^ 32 - 1 ∧
      ∃ cut : Cut, cut.Covers "x = 1\n\"y ".toList (Scan.ofText "x = 1\n\"y ").tokens := by
  have hshort : "x = 1\n\"y ".length < 2 ^ 32 - 1 := by decide
  exact ⟨hshort, tokens_cover "x = 1\n\"y " hshort⟩

end TokenScan
