import TokenScan.Proofs.Cut

/-!
# The scanner is the grammar

The grammar leaves no freedom: at most one token begins where a text begins, a stretch is a token
of one kind with one lexeme only, and so a text has one legal cut and one list of tokens that can
be read off it. The scanner finds both.

## Main results

* `Munch.unique` — no two tokens begin a text
* `tokens_iff_reads` — the tokens of a scan are those of the only legal cut, and nothing else is
-/

namespace TokenScan

/-- **No two tokens begin a text.** -/
theorem Munch.unique {kind kind' : TokenKind} {lexeme lexeme' raw raw' after after' : List Char}
    (h : Munch kind lexeme raw after) (h' : Munch kind' lexeme' raw' after')
    (htext : raw ++ after = raw' ++ after') :
    kind = kind' ∧ lexeme = lexeme' ∧ raw = raw' ∧ after = after' := by
  have hpiece := Piece.ofText?_of_munch h
  rw [htext, Piece.ofText?_of_munch h'] at hpiece
  have heq := Option.some.inj hpiece
  rw [Piece.mk.injEq] at heq
  obtain ⟨rfl, rfl, rfl, -⟩ := heq
  exact ⟨rfl, rfl, rfl, List.append_cancel_left htext⟩

/-- One token is read off a stretch where it stands. -/
theorem Site.Reads.unique {site : Site} {token other : Token} (h : site.Reads token)
    (h' : site.Reads other) : token = other := by
  obtain ⟨hkind, hlexeme, -, -⟩ := h.munch.unique h'.munch rfl
  have hline : token.line = other.line := h.line_eq.trans h'.line_eq.symm
  have hcolumn : token.column = other.column := h.column_eq.trans h'.column_eq.symm
  cases token
  cases other
  rw [Token.mk.injEq]
  exact ⟨hkind, String.toList_inj.mp hlexeme, hline, hcolumn⟩

/-- One list of tokens is read off a cut. -/
theorem Cut.reads_unique {cut : Cut} {tokens others : List Token}
    (h : List.Forall₂ Site.Reads cut.sites tokens)
    (h' : List.Forall₂ Site.Reads cut.sites others) : tokens = others := by
  have hunique : Relator.RightUnique Site.Reads := fun _ _ _ hread hread' => hread.unique hread'
  exact hunique.forall₂ h h'

/-- **The scanner computes the grammar.** Every text has exactly one legal cut, and the tokens of
a scan are exactly what the grammar makes of its stretches. -/
theorem tokens_iff_reads (source : String) :
    ∃ cut : Cut, (∀ other : Cut, other.Legal source.toList ↔ other = cut) ∧
      ∀ tokens : List Token,
        List.Forall₂ Site.Reads cut.sites tokens ↔ tokens = (Scan.ofText source).tokens := by
  refine ⟨Cut.ofText source.toList, fun other => Cut.legal_iff, fun tokens => ?_⟩
  have hscan := Cut.forall₂_reads source
  constructor
  · intro hreads
    exact Cut.reads_unique hreads hscan
  · rintro rfl
    exact hscan

end TokenScan
