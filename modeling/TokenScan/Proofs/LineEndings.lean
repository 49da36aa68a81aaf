import TokenScan.Proofs.MaximalMunch
import TokenScan.Proofs.Warnings

/-!
# Line endings

A line may end in a line feed, or in a carriage return and a line feed. To the scanner a carriage
return is a blank like any other, so a text scans the same either way, as far as places go: only a
line feed ends a line, and the carriage return in front of it is the last character of its line, so
nothing is found behind it there.

Tokens that run over several lines have the carriage returns in their lexemes. A line comment ends
in front of the line feed, not in front of the carriage return, so it gets one as its last character
and leaves the gap behind it one shorter. This is the one place where the two texts are not cut at
the same characters.

## Main definitions

* `Text.crlf` — writes each line feed as a carriage return and a line feed
* `Site.crlf`, `Site.crlfToken` — what becomes of a stretch, and of the token read off it

## Main results

* `Munch.crlf`, `Munch.crlf_of_endsLine` — a token stays a token
* `Cut.sites_crlf` — the cut of the new text is the cut of the old one
* `scan_crlf` — line endings do not change the scan
-/

namespace TokenScan

namespace Text

/-- Writes each line feed as a carriage return and a line feed. -/
def crlf (text : List Char) : List Char :=
  text.flatMap fun c => if c = '\n' then ['\r', '\n'] else [c]

@[simp] theorem crlf_nil : crlf [] = [] := rfl

@[simp] theorem crlf_lineFeed_cons (text : List Char) :
    crlf ('\n' :: text) = '\r' :: '\n' :: crlf text := rfl

@[simp] theorem crlf_append (a b : List Char) : crlf (a ++ b) = crlf a ++ crlf b :=
  List.flatMap_append

theorem crlf_cons_of_ne {c : Char} (h : c ≠ '\n') (text : List Char) :
    crlf (c :: text) = c :: crlf text := by
  rw [crlf, List.flatMap_cons, if_neg h]
  rfl

theorem crlf_eq_self {text : List Char} (h : '\n' ∉ text) : crlf text = text := by
  induction text with
  | nil => rfl
  | cons c text ih =>
    rw [List.mem_cons, not_or] at h
    rw [crlf_cons_of_ne (Ne.symm h.1), ih h.2]

theorem mem_crlf_iff {c : Char} {text : List Char} :
    c ∈ crlf text ↔ c ∈ text ∨ c = '\r' ∧ '\n' ∈ text := by
  induction text with
  | nil => simp
  | cons d text ih =>
    by_cases hd : d = '\n'
    · subst hd
      rw [crlf_lineFeed_cons, List.mem_cons, List.mem_cons, ih]
      grind
    · rw [crlf_cons_of_ne hd, List.mem_cons, ih]
      grind

theorem mem_crlf_of_ne {c : Char} (h : c ≠ '\r') {text : List Char} : c ∈ crlf text ↔ c ∈ text := by
  rw [mem_crlf_iff]
  simp [h]

theorem isBlank_of_mem_crlf {gap : List Char} (hgap : ∀ c ∈ gap, isBlank c = true) :
    ∀ c ∈ crlf gap, isBlank c = true := by
  intro c hc
  rcases mem_crlf_iff.mp hc with hc | ⟨rfl, -⟩
  · exact hgap c hc
  · decide

theorem head?_crlf (text : List Char) :
    (crlf text).head? = text.head?.map fun c => if c = '\n' then '\r' else c := by
  cases text with
  | nil => rfl
  | cons c text =>
    by_cases hc : c = '\n'
    · subst hc
      rfl
    · rw [crlf_cons_of_ne hc, List.head?_cons, List.head?_cons, Option.map_some, if_neg hc]

/-- What can be said of the next character can still be said if it can be said of a carriage
return. -/
theorem forall_head?_crlf {p : Char → Prop} {text : List Char} (h : ∀ d ∈ text.head?, p d)
    (hreturn : p '\r') : ∀ d ∈ (crlf text).head?, p d := by
  intro d hd
  rw [head?_crlf] at hd
  obtain ⟨c, hc, rfl⟩ := Option.map_eq_some_iff.mp hd
  split
  · exact hreturn
  · exact h c hc

theorem head?_crlf_eq_some_iff {c : Char} (hreturn : c ≠ '\r') (hfeed : c ≠ '\n')
    {text : List Char} : (crlf text).head? = some c ↔ text.head? = some c := by
  rw [head?_crlf]
  cases text with
  | nil => simp
  | cons d text =>
    by_cases hd : d = '\n'
    · subst hd
      simp [Ne.symm hreturn, Ne.symm hfeed]
    · simp [hd]

/-- Two characters that stand side by side still do, unless one of them ends a line. -/
theorem infix_crlf_iff {a b : Char} (ha : a ≠ '\r' ∧ a ≠ '\n') (hb : b ≠ '\r' ∧ b ≠ '\n')
    {text : List Char} : [a, b] <:+: crlf text ↔ [a, b] <:+: text := by
  induction text with
  | nil => rfl
  | cons c text ih =>
    by_cases hc : c = '\n'
    · subst hc
      simp [List.infix_cons_iff, ih, ha]
    · have hnext : [b] <+: crlf text ↔ [b] <+: text := by
        rw [List.singleton_prefix_iff_head?_eq_some, List.singleton_prefix_iff_head?_eq_some,
          head?_crlf_eq_some_iff hb.1 hb.2]
      rw [crlf_cons_of_ne hc, List.infix_cons_iff, List.infix_cons_iff, ih,
        List.cons_prefix_cons, List.cons_prefix_cons, hnext]

/-! ### Places -/

theorem count_lineFeed_crlf (text : List Char) : (crlf text).count '\n' = text.count '\n' := by
  induction text with
  | nil => rfl
  | cons c text ih =>
    by_cases hc : c = '\n'
    · subst hc
      simp [ih]
    · rw [crlf_cons_of_ne hc, List.count_cons_of_ne hc, List.count_cons_of_ne hc, ih]

/-- The line that is not at its end yet has no carriage return more. -/
theorem lastLine_crlf (text : List Char) : lastLine (crlf text) = lastLine text := by
  induction text using List.reverseRecOn with
  | nil => rfl
  | append_singleton text c ih =>
    rw [crlf_append]
    by_cases hc : c = '\n'
    · subst hc
      rw [lastLine_append_of_mem (List.mem_singleton_self _),
        lastLine_append_of_mem (by decide)]
      decide
    · have hnot : '\n' ∉ [c] := by simpa using Ne.symm hc
      rw [crlf_eq_self hnot, lastLine_append_of_not_mem hnot, lastLine_append_of_not_mem hnot, ih]

theorem lineOf_crlf (text : List Char) : lineOf (crlf text) = lineOf text := by
  rw [lineOf, lineOf, count_lineFeed_crlf]

theorem columnOf_crlf (text : List Char) : columnOf (crlf text) = columnOf text := by
  rw [columnOf, columnOf, lastLine_crlf]

end Text

open Text

/-! ### Tokens -/

/-- A stretch that stands in front of `after` is a line comment in front of a line feed. -/
def EndsLine (raw after : List Char) : Prop := ['/', '/'] <+: raw ∧ after.head? = some '\n'

instance (raw after : List Char) : Decidable (EndsLine raw after) :=
  inferInstanceAs (Decidable (_ ∧ _))

section

variable {kind : TokenKind} {lexeme raw after : List Char}

theorem lineFeed_not_mem {p : Char → Prop} {text : List Char} (inside : ∀ d ∈ text, p d)
    (hfeed : ¬ p '\n') : '\n' ∉ text := by
  intro hmem
  exact hfeed (inside '\n' hmem)

theorem lineFeed_not_mem_of_comparison {c : Char} (first : c ∈ ['=', '!', '<', '>']) :
    '\n' ∉ [c, '='] := by
  simp only [List.mem_cons, List.not_mem_nil, or_false] at first
  rcases first with rfl | rfl | rfl | rfl <;> decide

theorem lineFeed_not_mem_of_sign {c : Char} (first : classify c = .slash ∨ classify c = .other) :
    '\n' ∉ [c] := by
  intro hfeed
  obtain rfl := List.mem_singleton.mp hfeed
  exact absurd first (by decide)

/-- **A token stays a token.** This is a token that does not end in front of a line feed to which a
carriage return is added. -/
theorem Munch.crlf (h : Munch kind lexeme raw after) (hends : ¬ EndsLine raw after) :
    Munch kind (crlf lexeme) (crlf raw) (crlf after) := by
  cases h with
  | keyword first inside stop reserved =>
    rw [crlf_eq_self (lineFeed_not_mem inside (by decide))]
    exact .keyword first inside (forall_head?_crlf stop (by decide)) reserved
  | identifier first inside stop free =>
    rw [crlf_eq_self (lineFeed_not_mem inside (by decide))]
    exact .identifier first inside (forall_head?_crlf stop (by decide)) free
  | number first inside points stop =>
    rw [crlf_eq_self (lineFeed_not_mem inside (by decide))]
    exact .number first inside points (forall_head?_crlf stop ⟨by decide, by simp⟩)
  | closedString inside =>
    rw [crlf_cons_of_ne (by decide), crlf_append]
    exact .closedString (by rwa [mem_crlf_of_ne (by decide)])
  | openString inside =>
    rw [crlf_cons_of_ne (by decide)]
    exact .openString (by rwa [mem_crlf_of_ne (by decide)])
  | lineComment inside stop =>
    have hend : after = [] := by
      cases after with
      | nil => rfl
      | cons d rest => exact absurd ⟨⟨lexeme, rfl⟩, congrArg some (stop d rfl)⟩ hends
    subst hend
    rw [crlf_cons_of_ne (by decide), crlf_cons_of_ne (by decide), crlf_eq_self inside]
    exact .lineComment inside stop
  | closedComment inside =>
    rw [crlf_cons_of_ne (by decide), crlf_cons_of_ne (by decide), crlf_append]
    exact .closedComment (by rwa [infix_crlf_iff (by decide) (by decide)])
  | openComment inside =>
    rw [crlf_cons_of_ne (by decide), crlf_cons_of_ne (by decide)]
    exact .openComment (by rwa [infix_crlf_iff (by decide) (by decide)])
  | comparison first =>
    rw [crlf_eq_self (lineFeed_not_mem_of_comparison first)]
    exact .comparison first
  | sign first slash stop =>
    rw [crlf_eq_self (lineFeed_not_mem_of_sign first)]
    refine .sign first ?_ ?_
    · exact fun hc => forall_head?_crlf (slash hc) (by decide)
    · exact fun hc => forall_head?_crlf (stop hc) (by decide)

/-- It is as malformed, or as well formed, as it was. -/
theorem Munch.malformation?_crlf (h : Munch kind lexeme raw after) (hends : ¬ EndsLine raw after) :
    malformation? kind (Text.crlf lexeme) (Text.crlf raw) (Text.crlf after) =
      malformation? kind lexeme raw after := by
  have hquote : '\"' ≠ '\n' := by decide
  have hslash : '/' ≠ '\n' := by decide
  have hstar : '*' ≠ '\n' := by decide
  cases h with
  | number first inside =>
    have hpoint : (Text.crlf after).head? = some '.' ↔ after.head? = some '.' :=
      head?_crlf_eq_some_iff (by decide) (by decide)
    simp only [malformation?, crlf_eq_self (lineFeed_not_mem inside (by decide)), hpoint]
  | closedString => simp [malformation?, crlf_cons_of_ne hquote]
  | openString inside =>
    have hinside : '\"' ∉ Text.crlf lexeme := by rwa [mem_crlf_of_ne (by decide)]
    simp [malformation?, crlf_cons_of_ne hquote, inside, hinside]
  | lineComment => simp [malformation?, crlf_cons_of_ne hslash]
  | closedComment =>
    have hmark : ∀ body text : List Char, ['*', '/'] <:+: body ++ '*' :: '/' :: text :=
      fun body text => ⟨body, text, by simp⟩
    simp [malformation?, crlf_cons_of_ne hslash, crlf_cons_of_ne hstar, hmark]
  | openComment inside =>
    have hinside : ¬ ['*', '/'] <:+: Text.crlf lexeme := by
      rwa [infix_crlf_iff (by decide) (by decide)]
    simp [malformation?, crlf_cons_of_ne hslash, crlf_cons_of_ne hstar, inside, hinside]
  | _ => rfl

/-- In front of a line feed, a line comment takes the carriage return. -/
theorem Munch.crlf_of_endsLine (h : Munch kind lexeme raw after) (hends : EndsLine raw after) :
    kind = .comment ∧ '\n' ∉ raw ∧ ∃ rest, after = '\n' :: rest ∧
      Munch kind (lexeme ++ ['\r']) (raw ++ ['\r']) ('\n' :: Text.crlf rest) := by
  obtain ⟨hmark, hfeed⟩ := hends
  obtain ⟨rest, rfl⟩ := List.head?_eq_some_iff.mp hfeed
  cases h with
  | lineComment inside =>
    refine ⟨rfl, by simpa using inside, rest, rfl, ?_⟩
    exact .lineComment (by simpa using inside) (by simp)
  | keyword first | identifier first | number first =>
    obtain rfl := (List.cons_prefix_cons.mp hmark).1
    exact absurd first (by decide)
  | _ => simp at hmark

/-- What becomes of a lexeme. Strings and block comments may hold line feeds; a line comment takes
the carriage return in front of the line feed that ends it; nothing else changes. -/
def crlfLexeme (kind : TokenKind) (lexeme raw after : List Char) : List Char :=
  match kind with
  | .stringLiteral => crlf lexeme
  | .comment =>
    if ['/', '*'] <+: raw then crlf lexeme
    else if after.head? = some '\n' then lexeme ++ ['\r']
    else lexeme
  | _ => lexeme

theorem Munch.crlfLexeme_eq (h : Munch kind lexeme raw after) (hends : ¬ EndsLine raw after) :
    crlfLexeme kind lexeme raw after = Text.crlf lexeme := by
  cases h with
  | keyword _ inside | identifier _ inside =>
    exact (crlf_eq_self (lineFeed_not_mem inside (by decide))).symm
  | number _ inside => exact (crlf_eq_self (lineFeed_not_mem inside (by decide))).symm
  | closedString | openString => rfl
  | lineComment inside =>
    have hfeed : ¬ after.head? = some '\n' := fun hfeed => hends ⟨⟨lexeme, rfl⟩, hfeed⟩
    simp [crlfLexeme, hfeed, crlf_eq_self inside]
  | closedComment | openComment => simp [crlfLexeme]
  | comparison first => exact (crlf_eq_self (lineFeed_not_mem_of_comparison first)).symm
  | sign first => exact (crlf_eq_self (lineFeed_not_mem_of_sign first)).symm

theorem crlfLexeme_of_endsLine (hends : EndsLine raw after) :
    crlfLexeme .comment lexeme raw after = lexeme ++ ['\r'] := by
  have hmark : ¬ ['/', '*'] <+: raw := by
    obtain ⟨⟨body, rfl⟩, -⟩ := hends
    simp
  simp [crlfLexeme, hmark, hends.2]

end

/-! ### Stretches -/

namespace Site

/-- What becomes of a stretch. It is read anew where it stands then. -/
def crlf (site : Site) : Site :=
  if EndsLine site.raw site.after then
    ⟨Text.crlf site.before, site.raw ++ ['\r'], (Text.crlf site.after).tail⟩
  else ⟨Text.crlf site.before, Text.crlf site.raw, Text.crlf site.after⟩

/-- What becomes of the token that is read off a stretch. -/
def crlfToken (site : Site) (token : Token) : Token :=
  { token with
    lexeme := String.ofList (crlfLexeme token.kind token.lexeme.toList site.raw site.after) }

variable {site : Site} {token : Token}

@[simp] theorem kind_crlfToken (site : Site) (token : Token) :
    (site.crlfToken token).kind = token.kind := rfl

theorem before_crlf (site : Site) : site.crlf.before = Text.crlf site.before := by
  unfold crlf
  split <;> rfl

theorem munch_crlf (h : site.Reads token) :
    Munch token.kind (site.crlfToken token).lexeme.toList site.crlf.raw site.crlf.after := by
  have hmunch := h.munch
  rw [crlfToken, String.toList_ofList]
  by_cases hends : EndsLine site.raw site.after
  · obtain ⟨hkind, -, rest, hafter, hlonger⟩ := hmunch.crlf_of_endsLine hends
    rw [crlf, if_pos hends, hkind, crlfLexeme_of_endsLine hends, hafter]
    rwa [hkind] at hlonger
  · rw [crlf, if_neg hends, hmunch.crlfLexeme_eq hends]
    exact hmunch.crlf hends

theorem malformation?_crlf (h : site.Reads token) :
    malformation? token.kind (site.crlfToken token).lexeme.toList site.crlf.raw site.crlf.after =
      malformation? token.kind token.lexeme.toList site.raw site.after := by
  have hmunch := h.munch
  rw [crlfToken, String.toList_ofList]
  by_cases hends : EndsLine site.raw site.after
  · obtain ⟨hkind, -, rest, hafter, hlonger⟩ := hmunch.crlf_of_endsLine hends
    obtain ⟨body, hbody⟩ := hends.1
    rw [crlf, if_pos hends, hkind]
    simp [malformation?, ← hbody]
  · rw [crlf, if_neg hends, hmunch.crlfLexeme_eq hends]
    exact hmunch.malformation?_crlf hends

/-- **A token is read again.** It has the same kind, line and column. -/
theorem Reads.crlf (h : site.Reads token) : site.crlf.Reads (site.crlfToken token) where
  munch := by rw [kind_crlfToken]; exact munch_crlf h
  line_eq := by rw [before_crlf, lineOf_crlf]; exact h.line_eq
  column_eq := by rw [before_crlf, columnOf_crlf]; exact h.column_eq

end Site

/-! ### The cut -/

namespace Cut

/-- The stretches of a text that stands behind another one. -/
def sitesBehind (before text : List Char) : List Site :=
  sitesFrom before (ofText text).tail (ofText text).segments

variable {gap : List Char}

theorem sitesBehind_of_none {text : List Char} (h : Portion.ofText? text = none)
    (before : List Char) : sitesBehind before text = [] := by
  rw [sitesBehind, ofText_of_none h, sitesFrom]

theorem sitesBehind_of_munch {kind : TokenKind} {lexeme raw after : List Char}
    (hgap : ∀ c ∈ gap, isBlank c = true) (h : Munch kind lexeme raw after) (before : List Char) :
    sitesBehind before (gap ++ raw ++ after) =
      ⟨before ++ gap, raw, after⟩ :: sitesBehind (before ++ (gap ++ raw)) after := by
  have hafter := (legal_ofText after).text_eq
  rw [sitesBehind, ofText_of_munch hgap h, sitesFrom, hafter, Segment.chars, sitesBehind]

/-- Blanks in front of a text stand in front of its first stretch. -/
theorem sitesBehind_append_of_blank (hgap : ∀ c ∈ gap, isBlank c = true)
    (before text : List Char) :
    sitesBehind before (gap ++ text) = sitesBehind (before ++ gap) text := by
  cases htext : Portion.ofText? text with
  | none =>
    rw [sitesBehind_of_none htext,
      sitesBehind_of_none (Portion.ofText?_append_of_none hgap htext)]
  | some portion =>
    obtain ⟨rest, rfl, -⟩ := Portion.exists_rest htext
    obtain ⟨hfront, hmunch, -⟩ := Portion.munch_of_ofText? htext
    have hgaps : ∀ c ∈ gap ++ portion.gap, isBlank c = true :=
      List.forall_mem_append.mpr ⟨hgap, hfront⟩
    have hlonger := sitesBehind_of_munch hgaps hmunch before
    rw [Portion.chars, sitesBehind_of_munch hfront hmunch]
    simpa only [List.append_assoc] using hlonger

/-- The text is cut at the same characters, apart from carriage returns that line comments take. -/
theorem sitesBehind_crlf (before text : List Char) :
    sitesBehind (crlf before) (crlf text) = (sitesBehind before text).map Site.crlf := by
  induction text using Portion.induction generalizing before with
  | blank text h =>
    have hblank := isBlank_of_mem_crlf (Portion.ofText?_eq_none_iff.mp h)
    rw [sitesBehind_of_none h, sitesBehind_of_none (Portion.ofText?_eq_none_iff.mpr hblank),
      List.map_nil]
  | cons portion rest h ih =>
    obtain ⟨hgap, hmunch, -⟩ := Portion.munch_of_ofText? h
    have hgaps := isBlank_of_mem_crlf hgap
    rw [Portion.chars, sitesBehind_of_munch hgap hmunch, List.map_cons, ← ih, Site.crlf]
    by_cases hends : EndsLine portion.piece.raw rest
    · -- The comment takes the carriage return, and the text behind it begins with the line feed.
      obtain ⟨-, hraw, behind, rfl, hlonger⟩ := hmunch.crlf_of_endsLine hends
      have hreturn : ∀ c ∈ ['\r'], isBlank c = true := List.forall_mem_singleton.mpr (by decide)
      have htext : crlf (portion.gap ++ portion.piece.raw ++ '\n' :: behind) =
          crlf portion.gap ++ (portion.piece.raw ++ ['\r']) ++ '\n' :: crlf behind := by
        simp [crlf_eq_self hraw]
      have hbehind := sitesBehind_append_of_blank hreturn
        (crlf (before ++ (portion.gap ++ portion.piece.raw))) ('\n' :: crlf behind)
      rw [htext, sitesBehind_of_munch hgaps hlonger, if_pos hends]
      simpa [crlf_eq_self hraw] using hbehind.symm
    · rw [crlf_append, crlf_append, sitesBehind_of_munch hgaps (hmunch.crlf hends), if_neg hends]
      simp

theorem sites_crlf (text : List Char) :
    (ofText (crlf text)).sites = (ofText text).sites.map Site.crlf :=
  sitesBehind_crlf [] text

end Cut

/-! ### Reports -/

/-- The same report about the same line and column. It may be about other bytes. -/
structure Diagnostic.SameNotice (d other : Diagnostic) : Prop where
  /-- It is as grave. -/
  severity_eq : other.severity = d.severity
  /-- It has the same code. -/
  code?_eq : other.code? = d.code?
  /-- It says the same. -/
  message_eq : other.message = d.message
  /-- It is about the same line. -/
  line_eq : other.span.line = d.span.line
  /-- It is about the same column. -/
  column_eq : other.span.column = d.span.column

theorem Warning.sameNotice_report (w : Warning) {span other : Span} (hline : other.line = span.line)
    (hcolumn : other.column = span.column) : (w.report span).SameNotice (w.report other) :=
  ⟨rfl, rfl, rfl, hline, hcolumn⟩

theorem Site.Reads.report?_crlf {site : Site} {token : Token} (h : site.Reads token) :
    Option.Rel Diagnostic.SameNotice (site.report? token)
      (site.crlf.report? (site.crlfToken token)) := by
  rw [Site.report?_eq, Site.report?_eq, Site.kind_crlfToken, Site.malformation?_crlf h]
  cases malformation? token.kind token.lexeme.toList site.raw site.after with
  | none => exact .none
  | some w => exact .some (w.sameNotice_report rfl rfl)

/-! ### Scans -/

section

variable {sites : List Site} {tokens : List Token}

theorem forall₂_reads_crlf (h : List.Forall₂ Site.Reads sites tokens) :
    List.Forall₂ Site.Reads (sites.map Site.crlf) (List.zipWith Site.crlfToken sites tokens) := by
  induction h with
  | nil => exact .nil
  | cons hread _ ih => exact .cons hread.crlf ih

theorem forall₂_sameNotice_crlf (h : List.Forall₂ Site.Reads sites tokens) :
    List.Forall₂ Diagnostic.SameNotice
      ((sites.zip tokens).filterMap fun p => p.1.report? p.2)
      (((sites.map Site.crlf).zip (List.zipWith Site.crlfToken sites tokens)).filterMap fun p =>
        p.1.report? p.2) := by
  have hpairs : List.Forall₂
      (fun p q => Option.Rel Diagnostic.SameNotice (p.1.report? p.2) (q.1.report? q.2))
      (sites.zip tokens)
      ((sites.map Site.crlf).zip (List.zipWith Site.crlfToken sites tokens)) := by
    induction h with
    | nil => exact .nil
    | cons hread _ ih => exact .cons hread.report?_crlf ih
  exact List.rel_filterMap (fun _ _ hreport => hreport) hpairs

end

/-- **Line endings do not change the scan.** The tokens are those of the old text, each with the
lexeme that its stretch has now, and the reports are those of the old text too. It does not matter
whether there are carriage returns in the old text, or how long it is. -/
theorem scan_crlf (source : String) :
    ∃ cut : Cut, cut.Legal source.toList ∧
      List.Forall₂ Site.Reads cut.sites (Scan.ofText source).tokens ∧
      (Scan.ofText (String.ofList (crlf source.toList))).tokens =
        List.zipWith Site.crlfToken cut.sites (Scan.ofText source).tokens ∧
      List.Forall₂ Diagnostic.SameNotice (Scan.ofText source).diagnostics
        (Scan.ofText (String.ofList (crlf source.toList))).diagnostics := by
  have hold := Cut.forall₂_reads source
  have hnew := Cut.forall₂_reads (String.ofList (crlf source.toList))
  have hreports := Cut.diagnostics_eq (String.ofList (crlf source.toList))
  rw [String.toList_ofList] at hnew hreports
  -- The stretches of the new text are those of the old one, and can be read in one way only.
  have hagain := forall₂_reads_crlf hold
  rw [← Cut.sites_crlf] at hagain
  have htokens := Cut.reads_unique hnew hagain
  refine ⟨Cut.ofText source.toList, Cut.legal_ofText _, hold, htokens, ?_⟩
  rw [hreports, htokens, Cut.sites_crlf, Cut.diagnostics_eq source]
  exact forall₂_sameNotice_crlf hold

end TokenScan
