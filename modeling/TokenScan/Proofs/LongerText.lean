import TokenScan.Proofs.Continuation
import TokenScan.Proofs.Coverage
import TokenScan.Proofs.Warnings

/-!
# A text that grows at its end

The scanner looks no further than the first character of what follows a token. A token in front of
another one is followed by something, and by the same whatever is put behind the text; so it stays,
and so does the report about it. Only the last token of a text may be followed by nothing, and then
it can grow, get another kind or lose its report. It cannot go away, and it begins where it did.

A report has the line and the column of its token. No two tokens begin at one place, so this says
which token a report is about.

## Main definitions

* `Diagnostic.IsAbout` — a report is about a token
* `Scan.Keeps` — a scan has what another one found in front of its last token

## Main results

* `portions_append_of_concat` — a run over a longer text takes the same portions up to the last
* `longer_text_keeps` — more text only changes the last token
-/

namespace TokenScan

open Text

/-! ### What is taken from a longer text -/

/-- Behind a gap, something is taken. -/
theorem exists_portions_of_gap {gap rest : List Char} {c : Char}
    (hgap : ∀ c ∈ gap, isBlank c = true) (hc : isBlank c = false) :
    ∃ portion later, portions (gap ++ c :: rest) = portion :: later ∧ portion.gap = gap := by
  obtain ⟨kind, lexeme, raw, after, htext, hmunch⟩ := exists_munch hc rest
  have hportions := portions_of_munch hgap hmunch
  rw [List.append_assoc, ← htext] at hportions
  exact ⟨_, _, hportions, rfl⟩

/-- A token with something behind it is closed. -/
theorem Munch.eq_splitNumber {kind : TokenKind} {lexeme raw after : List Char}
    (h : Munch kind lexeme raw after) (hafter : after ≠ []) :
    ∀ w ∈ malformation? kind lexeme raw after, w = .splitNumber := by
  intro w hw
  by_contra hne
  exact hafter (h.after_eq_nil hw hne)

section

variable {portion : Portion} {rest : List Char}

/-- A portion with something behind it is taken again, whatever is put behind that. -/
theorem Portion.ofText?_append (h : ofText? (portion.chars ++ rest) = some portion)
    (hrest : rest ≠ []) (more : List Char) :
    ofText? (portion.chars ++ (rest ++ more)) = some portion := by
  obtain ⟨hgap, hmunch, hwarning⟩ := munch_of_ofText? h
  have hclosed := hmunch.eq_splitNumber hrest
  have hnext : rest = [] → ∀ d ∈ more.head?, d = '\n' := fun hnil => absurd hnil hrest
  have hlonger := hmunch.append hclosed hnext
  have hsame := hmunch.malformation?_append hclosed hnext
  rw [chars, ofText?_of_munch hgap hlonger, hsame, ← hwarning]

/-- The last portion may change, but something is taken behind the same gap. -/
theorem Portion.exists_portions_append (h : ofText? (portion.chars ++ rest) = some portion)
    (more : List Char) :
    ∃ other later, portions (portion.chars ++ (rest ++ more)) = other :: later ∧
      other.gap = portion.gap := by
  obtain ⟨hgap, hmunch, -⟩ := munch_of_ofText? h
  obtain ⟨c, inside, hraw⟩ := List.exists_cons_of_ne_nil hmunch.raw_ne_nil
  have hc : isBlank c = false := hmunch.isBlank_eq_false c (by rw [hraw]; rfl)
  rw [chars, hraw, List.append_assoc]
  exact exists_portions_of_gap hgap hc

end

/-- **All portions but the last stay.** -/
theorem portions_append_of_concat {text : List Char} {front : List Portion} {last : Portion}
    (h : portions text = front ++ [last]) (more : List Char) :
    ∃ other later, portions (text ++ more) = front ++ other :: later ∧ other.gap = last.gap := by
  induction text using Portion.induction generalizing front with
  | blank text hblank =>
    rw [portions_of_none hblank] at h
    simp at h
  | cons portion rest hportion ih =>
    rw [portions_of_some hportion] at h
    rw [List.append_assoc]
    cases front with
    | nil =>
      obtain ⟨rfl, -⟩ := List.cons.inj h
      exact Portion.exists_portions_append hportion more
    | cons first front =>
      obtain ⟨rfl, hothers⟩ := List.cons.inj h
      -- A portion that is not the last has something behind it, which settles what it is.
      have hrest : rest ≠ [] := by
        rintro rfl
        rw [portions_of_none (by rfl)] at hothers
        simp at hothers
      obtain ⟨other, later, hmore, hgap⟩ := ih hothers
      refine ⟨other, later, ?_, hgap⟩
      rw [portions_of_some (Portion.ofText?_append hportion hrest more), hmore, List.cons_append]

/-! ### Which token a report is about -/

/-- A report is about a token: it has its line and its column. -/
def Diagnostic.IsAbout (d : Diagnostic) (token : Token) : Prop :=
  d.span.line = token.line ∧ d.span.column = token.column

theorem Portion.isAbout_of_report? {portion : Portion} {l : Location} {d : Diagnostic}
    (h : portion.report? l = some d) : d.IsAbout (portion.token l) := by
  obtain ⟨w, -, rfl⟩ := Option.map_eq_some_iff.mp h
  exact ⟨rfl, rfl⟩

theorem exists_isAbout_of_mem_reportsFrom {l : Location} {list : List Portion} {d : Diagnostic}
    (h : d ∈ reportsFrom l list) : ∃ token ∈ tokensFrom l list, d.IsAbout token := by
  obtain ⟨p, hp, hreport⟩ := List.mem_filterMap.mp h
  exact ⟨p.2.token p.1, List.mem_map_of_mem hp, Portion.isAbout_of_report? hreport⟩

/-- No report is about two tokens of a short text. -/
theorem not_isAbout_of_isAbout {source : String} {front : List Token} {last : Token}
    (hshort : source.length < 2 ^ 32 - 1) (htokens : (Scan.ofText source).tokens = front ++ [last])
    {d : Diagnostic} (h : d.IsAbout last) : ∀ token ∈ front, ¬ d.IsAbout token := by
  intro token htoken habout
  have hplace := Cut.pairwise_place hshort
  rw [htokens, List.pairwise_append] at hplace
  have hline : token.line = last.line := habout.1.symm.trans h.1
  have hcolumn : token.column = last.column := habout.2.symm.trans h.2
  rcases hplace.2.2 token htoken last (List.mem_singleton_self _) with hlt | ⟨-, hlt⟩
  · exact absurd (hline ▸ hlt) (UInt32.lt_irrefl _)
  · exact absurd (hcolumn ▸ hlt) (UInt32.lt_irrefl _)

/-! ### The scan of a longer text -/

/-- A scan keeps what another one, with the tokens `front` and then `last`, has found in front of
`last`. -/
structure Scan.Keeps (longer scan : Scan) (front : List Token) (last : Token) : Prop where
  /-- The tokens in front of the last one are there, and behind them one that begins where the last
  one does. -/
  tokens : ∃ other later, longer.tokens = front ++ other :: later ∧
    other.line = last.line ∧ other.column = last.column
  /-- The reports about the tokens in front of the last one are there, in front of all others. -/
  diagnostics : ∃ kept lost, scan.diagnostics = kept ++ lost ∧ kept <+: longer.diagnostics ∧
    (∀ d ∈ kept, ∃ token ∈ front, d.IsAbout token) ∧
    ∀ d ∈ lost, d.IsAbout last ∧ ∀ token ∈ front, ¬ d.IsAbout token

/-- The last token is made from the last portion, and the others from those in front of it. -/
theorem exists_concat_of_tokensFrom {l : Location} {list : List Portion} {front : List Token}
    {last : Token} (h : tokensFrom l list = front ++ [last]) :
    ∃ first portion, list = first ++ [portion] ∧ tokensFrom l first = front ∧
      portion.token (l.past (first.flatMap Portion.chars)) = last := by
  rcases List.eq_nil_or_concat list with rfl | ⟨first, portion, rfl⟩
  · simp at h
  · rw [List.concat_eq_append, tokensFrom_append, tokensFrom_cons, tokensFrom_nil] at h
    obtain ⟨hfront, hlast⟩ := List.append_inj' h rfl
    exact ⟨first, portion, List.concat_eq_append, hfront, (List.cons.inj hlast).1⟩

/-- **More text only changes the last token.** The tokens in front of it stay, with the reports
about them, and some token begins where it did. -/
theorem longer_text_keeps (s t : String) (hshort : (s ++ t).length < 2 ^ 32 - 1)
    {front : List Token} {last : Token} (htokens : (Scan.ofText s).tokens = front ++ [last]) :
    (Scan.ofText (s ++ t)).Keeps (Scan.ofText s) front last := by
  have hlength : s.length < 2 ^ 32 - 1 := by
    rw [String.length_append] at hshort
    omega
  have hportions := htokens
  rw [Scan.tokens_ofText] at hportions
  obtain ⟨first, portion, hlist, rfl, rfl⟩ := exists_concat_of_tokensFrom hportions
  obtain ⟨other, later, hmore, hgap⟩ := portions_append_of_concat hlist t.toList
  rw [← String.toList_append] at hmore
  constructor
  · rw [Scan.tokens_ofText, hmore, tokensFrom_append, tokensFrom_cons]
    refine ⟨_, _, rfl, ?_, ?_⟩
    · rw [Portion.token, Portion.token, hgap]
    · rw [Portion.token, Portion.token, hgap]
  · rw [Scan.diagnostics_ofText, Scan.diagnostics_ofText, hlist, hmore, reportsFrom_append,
      reportsFrom_append, reportsFrom_cons, reportsFrom_nil, List.append_nil]
    refine ⟨_, _, rfl, List.prefix_append _ _, fun d hd => ?_, fun d hd => ?_⟩
    · exact exists_isAbout_of_mem_reportsFrom hd
    · have habout := Portion.isAbout_of_report? (Option.mem_toList.mp hd)
      exact ⟨habout, not_isAbout_of_isAbout hlength htokens habout⟩

/-- A number that was split in front of the last token, which was the rest of it and becomes longer;
and a string behind it that is not closed. -/
theorem longer_text_keeps_split_number :
    ("a 1.2.3" ++ "4 \"b").length < 2 ^ 32 - 1 ∧
      (Scan.ofText "a 1.2.3").tokens =
        [⟨.identifier, "a", 1, 1⟩, ⟨.number, "1.2", 1, 3⟩, ⟨.operator, ".", 1, 6⟩] ++
          [⟨.number, "3", 1, 7⟩] ∧
      (Scan.ofText ("a 1.2.3" ++ "4 \"b")).Keeps (Scan.ofText "a 1.2.3")
        [⟨.identifier, "a", 1, 1⟩, ⟨.number, "1.2", 1, 3⟩, ⟨.operator, ".", 1, 6⟩]
        ⟨.number, "3", 1, 7⟩ := by
  have hshort : ("a 1.2.3" ++ "4 \"b").length < 2 ^ 32 - 1 := by decide
  have htokens : (Scan.ofText "a 1.2.3").tokens =
      [⟨.identifier, "a", 1, 1⟩, ⟨.number, "1.2", 1, 3⟩, ⟨.operator, ".", 1, 6⟩] ++
        [⟨.number, "3", 1, 7⟩] := by
    decide +kernel
  exact ⟨hshort, htokens, longer_text_keeps "a 1.2.3" "4 \"b" hshort htokens⟩

end TokenScan
