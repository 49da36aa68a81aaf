import TokenScan.Proofs.Grammar

/-!
# More text behind a text

The grammar looks one character past a token and no further, and it makes no difference between a
line feed there and the end of the text. So a token stays what it is when more text is put behind
the text, if it had a next character already or gets a line feed. Only a token that lacks its
closing mark is different: it would go on into the new text.

What a run takes is then settled too. Behind a text all of whose tokens are closed, a line feed
separates: the run takes what it took before, and goes on with the blanks at the end of the text.

## Main results

* `Munch.append`, `Munch.malformation?_append` — a closed token stays what it is
* `portions_append` — a run over a text, and then over what is put behind it
-/

namespace TokenScan

open Text

section

variable {kind : TokenKind} {lexeme raw after rest : List Char}

/-- Behind a token stands what stood there before, or a line feed. -/
theorem mem_head?_append (hrest : after = [] → ∀ d ∈ rest.head?, d = '\n') :
    ∀ d ∈ (after ++ rest).head?, d ∈ after.head? ∨ d = '\n' := by
  intro d hd
  cases after with
  | nil => exact .inr (hrest rfl d hd)
  | cons c after => exact .inl hd

/-- **A closed token stays what it is.** It does so in front of more text, unless it was the last
one and the new text does not begin with a line feed. -/
theorem Munch.append (h : Munch kind lexeme raw after)
    (hclosed : ∀ w ∈ malformation? kind lexeme raw after, w = .splitNumber)
    (hrest : after = [] → ∀ d ∈ rest.head?, d = '\n') : Munch kind lexeme raw (after ++ rest) := by
  have hhead := mem_head?_append hrest
  cases h with
  | keyword first inside stop reserved =>
    refine .keyword first inside ?_ reserved
    intro d hd
    rcases hhead d hd with hd | rfl
    · exact stop d hd
    · decide
  | identifier first inside stop free =>
    refine .identifier first inside ?_ free
    intro d hd
    rcases hhead d hd with hd | rfl
    · exact stop d hd
    · decide
  | number first inside points stop =>
    refine .number first inside points ?_
    intro d hd
    rcases hhead d hd with hd | rfl
    · exact stop d hd
    · exact ⟨by decide, by simp⟩
  | closedString inside => exact .closedString inside
  | openString inside =>
    have hopen := hclosed .unterminatedString (by simp [malformation?, inside])
    simp at hopen
  | lineComment inside stop =>
    refine .lineComment inside ?_
    intro d hd
    rcases hhead d hd with hd | rfl
    · exact stop d hd
    · rfl
  | closedComment inside => exact .closedComment inside
  | openComment inside =>
    have hopen := hclosed .unterminatedComment (by simp [malformation?, inside])
    simp at hopen
  | comparison first => exact .comparison first
  | sign first slash stop =>
    refine .sign first ?_ ?_
    · intro hc d hd
      rcases hhead d hd with hd | rfl
      · exact slash hc d hd
      · exact ⟨by decide, by decide⟩
    · intro hc d hd
      rcases hhead d hd with hd | rfl
      · exact stop hc d hd
      · decide

/-- A closed token stays as malformed, or as well formed, as it was. -/
theorem Munch.malformation?_append (h : Munch kind lexeme raw after)
    (hclosed : ∀ w ∈ malformation? kind lexeme raw after, w = .splitNumber)
    (hrest : after = [] → ∀ d ∈ rest.head?, d = '\n') :
    malformation? kind lexeme raw (after ++ rest) = malformation? kind lexeme raw after := by
  cases h with
  | number =>
    cases after with
    | nil =>
      have hpoint : ¬ rest.head? = some '.' := by
        intro hd
        have hfeed := hrest rfl '.' hd
        simp at hfeed
      simp [malformation?, hpoint]
    | cons c after => simp [malformation?]
  | closedString => simp [malformation?]
  | openString inside =>
    have hopen := hclosed .unterminatedString (by simp [malformation?, inside])
    simp at hopen
  | lineComment => simp [malformation?]
  | closedComment =>
    have hmark : ∀ text : List Char, ['*', '/'] <:+: lexeme ++ '*' :: '/' :: text :=
      fun text => ⟨lexeme, text, by simp⟩
    simp [malformation?, hmark]
  | openComment inside =>
    have hopen := hclosed .unterminatedComment (by simp [malformation?, inside])
    simp at hopen
  | _ => rfl

end

/-- **A line feed separates.** Behind a text all of whose tokens are closed, what begins with a line
feed is taken as if it stood behind the blanks at the end of the text alone. -/
theorem portions_append {text rest : List Char}
    (hclosed : ∀ portion ∈ portions text, ∀ w ∈ portion.piece.warning?, w = .splitNumber)
    (hrest : ∀ d ∈ rest.head?, d = '\n') :
    portions (text ++ rest) = portions text ++ portions (blankEnd text ++ rest) := by
  induction text using Portion.induction with
  | blank text h => rw [portions_of_none h, blankEnd_of_none h, List.nil_append]
  | cons portion behind h ih =>
    rw [portions_of_some h] at hclosed ⊢
    have hfirst := hclosed portion (List.mem_cons_self ..)
    have hothers := ih fun other hother => hclosed other (List.mem_cons_of_mem _ hother)
    obtain ⟨hgap, hmunch, hwarning⟩ := Portion.munch_of_ofText? h
    rw [hwarning] at hfirst
    have hlonger := hmunch.append hfirst fun _ => hrest
    have hsame := hmunch.malformation?_append hfirst fun _ => hrest
    have hportion : Portion.ofText? (portion.chars ++ (behind ++ rest)) = some portion := by
      rw [Portion.chars, Portion.ofText?_of_munch hgap hlonger, hsame, ← hwarning]
    rw [List.append_assoc, portions_of_some hportion, hothers, blankEnd_of_some h,
      List.cons_append]

end TokenScan
