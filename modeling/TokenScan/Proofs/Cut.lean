import TokenScan.Proofs.Grammar
import TokenScan.Proofs.Position
import Mathlib.Data.List.Forall2

/-!
# Cuts of a text

A cut divides a text into gaps and the stretches between them. It is legal if the gaps are blank
and each stretch is a token of the grammar where it stands. The grammar looks at what follows a
token, so a stretch is judged as a `Site`, together with the text on either side of it.

There is exactly one legal cut of every text, and the scanner finds it.

## Main definitions

* `Cut`, `Cut.text`, `Cut.sites` — a division of a text, and its stretches where they stand
* `Cut.Legal` — the gaps are blank and the stretches are tokens
* `Cut.ofText` — the cut that the scanner makes

## Main results

* `Cut.legal_iff` — the cut that the scanner makes is the only legal one
* `Cut.forall₂_reads` — the tokens of a scan are those of the stretches
* `Cut.diagnostics_eq` — the diagnostics of a scan are those of the malformed stretches
* `Cut.pairwise_sites` — each stretch stands behind the ones before it
-/

namespace TokenScan

open Text

/-- A stretch of text that is to be a token, and the gap in front of it. -/
structure Segment where
  /-- The characters between this stretch and the one before. -/
  gap : List Char
  /-- The stretch. -/
  raw : List Char
deriving DecidableEq

/-- All the characters of a segment. -/
def Segment.chars (segment : Segment) : List Char := segment.gap ++ segment.raw

/-- A stretch of text where it stands. -/
structure Site where
  /-- Everything before it. -/
  before : List Char
  /-- The stretch. -/
  raw : List Char
  /-- Everything behind it. -/
  after : List Char

/-- A stretch with more text in front. -/
def Site.behind (front : List Char) (site : Site) : Site :=
  { site with before := front ++ site.before }

/-- A token is what the grammar makes of the stretch where it stands, and begins there. -/
structure Site.Reads (site : Site) (token : Token) : Prop where
  /-- The stretch is a token of this kind with this lexeme. -/
  munch : Munch token.kind token.lexeme.toList site.raw site.after
  /-- The token has the line of the stretch. -/
  line_eq : token.line = .ofNat (lineOf site.before)
  /-- The token has the column of the stretch. -/
  column_eq : token.column = .ofNat (columnOf site.before)

/-- The report about a token, if the stretch where it stands is malformed. It is about all of the
stretch, from the first of its bytes to the last. -/
def Site.report? (site : Site) (token : Token) : Option Diagnostic :=
  let span : Span :=
    ⟨byteLength site.before, byteLength (site.before ++ site.raw), token.line, token.column⟩
  (malformation? token.kind token.lexeme.toList site.raw site.after).map fun
    | .unterminatedString =>
      ⟨.warning, "unterminated string literal", span, some ⟨"W", 1001⟩⟩
    | .unterminatedComment =>
      ⟨.warning, "unterminated block comment", span, some ⟨"W", 1002⟩⟩
    | .splitNumber =>
      ⟨.warning, "numeric literal contains more than one decimal point", span, some ⟨"W", 1003⟩⟩

/-- The codes and messages are those of the scanner. -/
theorem Site.report?_eq (site : Site) (token : Token) :
    site.report? token =
      (malformation? token.kind token.lexeme.toList site.raw site.after).map fun w =>
        w.report ⟨byteLength site.before, byteLength (site.before ++ site.raw), token.line,
          token.column⟩ := by
  rw [report?]
  congr 1
  funext w
  cases w <;> rfl

/-- A text divided into segments, with a gap behind the last one. -/
structure Cut where
  /-- The segments, in order. -/
  segments : List Segment
  /-- The characters behind the last segment. -/
  tail : List Char
deriving DecidableEq

namespace Cut

/-- The text that is divided. -/
def text (cut : Cut) : List Char := cut.segments.flatMap Segment.chars ++ cut.tail

/-- The stretches of segments where they stand, if `before` stands in front of the segments and
`tail` behind them. -/
def sitesFrom (before : List Char) (tail : List Char) : List Segment → List Site
  | [] => []
  | segment :: rest =>
    ⟨before ++ segment.gap, segment.raw, text ⟨rest, tail⟩⟩ ::
      sitesFrom (before ++ segment.chars) tail rest

/-- The stretches of a cut where they stand. -/
def sites (cut : Cut) : List Site := sitesFrom [] cut.tail cut.segments

/-- A legal cut of a text: the gaps are blank, and each stretch is a token where it stands. -/
structure Legal (cut : Cut) (text : List Char) : Prop where
  /-- It is this text that is divided. -/
  text_eq : cut.text = text
  /-- The gaps in front of the tokens are blank. -/
  gap_blank : ∀ segment ∈ cut.segments, ∀ c ∈ segment.gap, isBlank c = true
  /-- The gap behind the last token is blank. -/
  tail_blank : ∀ c ∈ cut.tail, isBlank c = true
  /-- Each stretch is a token. -/
  munch : ∀ site ∈ cut.sites, ∃ kind lexeme, Munch kind lexeme site.raw site.after

/-- The cut that the scanner makes. -/
def ofText (text : List Char) : Cut where
  segments := (portions text).map fun portion => ⟨portion.gap, portion.piece.raw⟩
  tail := blankEnd text

/-! ### Stretches and the text around them -/

@[simp] theorem text_cons (segment : Segment) (rest : List Segment) (tail : List Char) :
    text ⟨segment :: rest, tail⟩ = segment.gap ++ segment.raw ++ text ⟨rest, tail⟩ := by
  simp [text, Segment.chars]

theorem append_of_mem_sitesFrom {before tail : List Char} {segments : List Segment} {site : Site}
    (h : site ∈ sitesFrom before tail segments) :
    site.before ++ site.raw ++ site.after = before ++ text ⟨segments, tail⟩ := by
  induction segments generalizing before with
  | nil => simp [sitesFrom] at h
  | cons segment rest ih =>
    rcases List.mem_cons.mp h with rfl | h
    · simp
    · rw [ih h]
      simp [Segment.chars]

/-- Every stretch divides the text in three. -/
theorem append_of_mem_sites {cut : Cut} {site : Site} (h : site ∈ cut.sites) :
    site.before ++ site.raw ++ site.after = cut.text := by
  rw [append_of_mem_sitesFrom h, List.nil_append]

theorem isPrefix_before_of_mem_sitesFrom {before tail : List Char} {segments : List Segment}
    {site : Site} (h : site ∈ sitesFrom before tail segments) : before <+: site.before := by
  induction segments generalizing before with
  | nil => simp [sitesFrom] at h
  | cons segment rest ih =>
    rcases List.mem_cons.mp h with rfl | h
    · exact List.prefix_append _ _
    · exact (List.prefix_append _ _).trans (ih h)

theorem pairwise_sitesFrom (before tail : List Char) (segments : List Segment) :
    (sitesFrom before tail segments).Pairwise fun site later =>
      site.before ++ site.raw <+: later.before := by
  induction segments generalizing before with
  | nil => exact .nil
  | cons segment rest ih =>
    refine .cons (fun later hlater => ?_) (ih _)
    have hfront := isPrefix_before_of_mem_sitesFrom hlater
    rwa [Segment.chars, ← List.append_assoc] at hfront

/-- Each stretch stands behind the ones before it. -/
theorem pairwise_sites (cut : Cut) :
    cut.sites.Pairwise fun site later => site.before ++ site.raw <+: later.before :=
  pairwise_sitesFrom [] cut.tail cut.segments

theorem getLast?_sitesFrom {before tail : List Char} {segments : List Segment} {site : Site}
    (hraw : ∀ s ∈ sitesFrom before tail segments, s.raw ≠ [])
    (h : site ∈ sitesFrom before tail segments) (hafter : site.after = []) :
    (sitesFrom before tail segments).getLast? = some site ∧ tail = [] := by
  induction segments generalizing before with
  | nil => simp [sitesFrom] at h
  | cons segment rest ih =>
    rw [sitesFrom] at hraw
    rcases List.mem_cons.mp h with rfl | h
    · cases rest with
      | nil => exact ⟨rfl, hafter⟩
      | cons next rest =>
        have hnext : next.raw ≠ [] := hraw ⟨_, next.raw, _⟩ (.tail _ (List.mem_cons_self ..))
        rw [text_cons, List.append_eq_nil_iff, List.append_eq_nil_iff] at hafter
        exact absurd hafter.1.2 hnext
    · obtain ⟨hlast, htail⟩ := ih (fun s hs => hraw s (List.mem_cons_of_mem _ hs)) h
      rw [sitesFrom, List.getLast?_cons, hlast]
      exact ⟨rfl, htail⟩

/-- Only the last stretch can have nothing behind it, and then no gap follows. -/
theorem Legal.getLast?_sites {cut : Cut} {text : List Char} (hcut : cut.Legal text) {site : Site}
    (h : site ∈ cut.sites) (hafter : site.after = []) :
    cut.sites.getLast? = some site ∧ cut.tail = [] := by
  refine getLast?_sitesFrom (fun s hs => ?_) h hafter
  obtain ⟨kind, lexeme, hmunch⟩ := hcut.munch s hs
  exact hmunch.raw_ne_nil

theorem sitesFrom_append (front before tail : List Char) (segments : List Segment) :
    sitesFrom (front ++ before) tail segments =
      (sitesFrom before tail segments).map (Site.behind front) := by
  induction segments generalizing before with
  | nil => rfl
  | cons segment rest ih =>
    rw [sitesFrom, sitesFrom, List.map_cons, ← ih]
    simp [Site.behind]

@[simp] theorem sites_nil (tail : List Char) : sites ⟨[], tail⟩ = [] := rfl

theorem sites_cons (segment : Segment) (rest : List Segment) (tail : List Char) :
    sites ⟨segment :: rest, tail⟩ =
      ⟨segment.gap, segment.raw, text ⟨rest, tail⟩⟩ ::
        (sites ⟨rest, tail⟩).map (Site.behind segment.chars) := by
  rw [sites, sites, sitesFrom, ← sitesFrom_append]
  simp

/-! ### The scanner makes the only legal cut -/

theorem legal_nil_iff {tail text : List Char} :
    Legal ⟨[], tail⟩ text ↔ tail = text ∧ ∀ c ∈ text, isBlank c = true := by
  constructor
  · intro h
    have htext : tail = text := h.text_eq
    exact ⟨htext, htext ▸ h.tail_blank⟩
  · rintro ⟨rfl, hblank⟩
    exact ⟨rfl, by simp, hblank, by simp⟩

/-- A cut is legal if its first stretch is a token and the rest of it is legal. -/
theorem legal_cons_iff {segment : Segment} {rest : List Segment} {tail text : List Char} :
    Legal ⟨segment :: rest, tail⟩ text ↔
      (∀ c ∈ segment.gap, isBlank c = true) ∧
        ∃ after, text = segment.gap ++ segment.raw ++ after ∧
          (∃ kind lexeme, Munch kind lexeme segment.raw after) ∧ Legal ⟨rest, tail⟩ after := by
  constructor
  · rintro ⟨htext, hgap, htail, hmunch⟩
    rw [sites_cons] at hmunch
    rw [text_cons] at htext
    refine ⟨hgap segment (List.mem_cons_self ..), Cut.text ⟨rest, tail⟩, htext.symm, ?_, rfl,
      fun s hs => hgap s (List.mem_cons_of_mem _ hs), htail, fun site hsite => ?_⟩
    · exact hmunch _ (List.mem_cons_self ..)
    · exact hmunch (site.behind segment.chars) (List.mem_cons_of_mem _ (List.mem_map_of_mem hsite))
  · rintro ⟨hgap, after, rfl, hfirst, rfl, hgaps, htail, hmunch⟩
    refine ⟨text_cons .., fun s hs => ?_, htail, fun site hsite => ?_⟩
    · rcases List.mem_cons.mp hs with rfl | hs
      · exact hgap
      · exact hgaps s hs
    · rw [sites_cons] at hsite
      rcases List.mem_cons.mp hsite with rfl | hsite
      · exact hfirst
      · obtain ⟨inner, hinner, rfl⟩ := List.mem_map.mp hsite
        exact hmunch inner hinner

theorem ofText_of_none {text : List Char} (h : Portion.ofText? text = none) :
    ofText text = ⟨[], text⟩ := by
  rw [ofText, portions_of_none h, blankEnd_of_none h, List.map_nil]

theorem ofText_of_some {portion : Portion} {rest : List Char}
    (h : Portion.ofText? (portion.chars ++ rest) = some portion) :
    ofText (portion.chars ++ rest) =
      ⟨⟨portion.gap, portion.piece.raw⟩ :: (ofText rest).segments, (ofText rest).tail⟩ := by
  rw [ofText, portions_of_some h, blankEnd_of_some h, List.map_cons, ofText]

theorem ofText_of_munch {kind : TokenKind} {gap lexeme raw after : List Char}
    (hgap : ∀ c ∈ gap, isBlank c = true) (h : Munch kind lexeme raw after) :
    ofText (gap ++ raw ++ after) =
      ⟨⟨gap, raw⟩ :: (ofText after).segments, (ofText after).tail⟩ := by
  rw [ofText, portions_of_munch hgap h, blankEnd_of_munch hgap h, List.map_cons, ofText]

theorem legal_ofText (text : List Char) : (ofText text).Legal text := by
  induction text using Portion.induction with
  | blank text h =>
    rw [ofText_of_none h]
    exact legal_nil_iff.mpr ⟨rfl, Portion.ofText?_eq_none_iff.mp h⟩
  | cons portion rest h ih =>
    rw [ofText_of_some h]
    obtain ⟨hgap, hmunch, -⟩ := Portion.munch_of_ofText? h
    exact legal_cons_iff.mpr ⟨hgap, rest, rfl, ⟨_, _, hmunch⟩, ih⟩

theorem eq_ofText_of_legal {segments : List Segment} {tail text : List Char}
    (h : Legal ⟨segments, tail⟩ text) : (⟨segments, tail⟩ : Cut) = ofText text := by
  induction segments generalizing text with
  | nil =>
    obtain ⟨rfl, hblank⟩ := legal_nil_iff.mp h
    exact (ofText_of_none (Portion.ofText?_eq_none_iff.mpr hblank)).symm
  | cons segment rest ih =>
    obtain ⟨hgap, after, rfl, ⟨kind, lexeme, hmunch⟩, hrest⟩ := legal_cons_iff.mp h
    rw [ofText_of_munch hgap hmunch, ← ih hrest]

/-- **The scanner makes the only legal cut.** -/
theorem legal_iff {cut : Cut} {text : List Char} : cut.Legal text ↔ cut = ofText text := by
  constructor
  · exact eq_ofText_of_legal
  · rintro rfl
    exact legal_ofText text

/-! ### Tokens and reports of the stretches -/

/-- A portion and the place where it begins, against the stretch that its piece takes. -/
structure Takes (site : Site) (p : Location × Portion) : Prop where
  /-- The piece takes the stretch. -/
  raw_eq : p.2.piece.raw = site.raw
  /-- The stretch is a token as the piece says. -/
  munch : Munch p.2.piece.kind p.2.piece.lexeme site.raw site.after
  /-- The piece has the warning that the stretch calls for. -/
  warning?_eq :
    p.2.piece.warning? = malformation? p.2.piece.kind p.2.piece.lexeme site.raw site.after
  /-- Behind its gap, the portion stands where the stretch does. -/
  past_gap_eq : p.1.past p.2.gap = Location.start.past site.before

theorem forall₂_takes (before text : List Char) :
    List.Forall₂ Takes (sitesFrom before (ofText text).tail (ofText text).segments)
      (placed (Location.start.past before) (portions text)) := by
  induction text using Portion.induction generalizing before with
  | blank text h =>
    rw [ofText_of_none h, portions_of_none h]
    exact .nil
  | cons portion rest h ih =>
    rw [ofText_of_some h, portions_of_some h, sitesFrom, placed, ← Location.past_append]
    refine .cons ?_ (ih _)
    obtain ⟨-, hmunch, hwarning⟩ := Portion.munch_of_ofText? h
    have hafter : text ⟨(ofText rest).segments, (ofText rest).tail⟩ = rest :=
      (legal_ofText rest).text_eq
    rw [← hafter] at hmunch hwarning
    exact ⟨rfl, hmunch, hwarning, (Location.past_append ..).symm⟩

theorem Takes.reads {site : Site} {p : Location × Portion} (h : Takes site p) :
    site.Reads (p.2.token p.1) where
  munch := by
    rw [Portion.token, String.toList_ofList]
    exact h.munch
  line_eq := by rw [Portion.token, h.past_gap_eq, Location.past_start]
  column_eq := by rw [Portion.token, h.past_gap_eq, Location.past_start]

theorem Takes.report?_eq {site : Site} {p : Location × Portion} (h : Takes site p) :
    p.2.report? p.1 = site.report? (p.2.token p.1) := by
  have hstop : (p.1.past p.2.chars).offset = byteLength (site.before ++ site.raw) := by
    rw [Portion.chars, Location.past_append, h.past_gap_eq, h.raw_eq, ← Location.past_append,
      Location.past_start]
  rw [Portion.report?, Site.report?_eq, h.warning?_eq, Portion.token, Span.between, hstop,
    h.past_gap_eq, String.toList_ofList, Location.past_start]

/-- **The tokens of a scan.** There is one for each stretch of the legal cut. -/
theorem forall₂_reads (source : String) :
    List.Forall₂ Site.Reads (ofText source.toList).sites (Scan.ofText source).tokens := by
  rw [Scan.tokens_ofText, tokensFrom, List.forall₂_map_right_iff]
  exact (forall₂_takes [] source.toList).imp fun _ _ h => h.reads

/-- Every token is read off a stretch of the cut. -/
theorem exists_of_mem_tokens {source : String} {token : Token}
    (h : token ∈ (Scan.ofText source).tokens) :
    ∃ site ∈ (ofText source.toList).sites, site.Reads token := by
  have hreads := forall₂_reads source
  rw [← List.map_snd_zip (Nat.le_of_eq hreads.length_eq.symm)] at h
  obtain ⟨⟨site, _⟩, hmem, rfl⟩ := List.mem_map.mp h
  exact ⟨site, (List.of_mem_zip hmem).1, List.forall₂_zip hreads hmem⟩

/-- Each token is read behind the ones before it. -/
theorem pairwise_zip_tokens (source : String) :
    ((ofText source.toList).sites.zip (Scan.ofText source).tokens).Pairwise fun p later =>
      p.1.before ++ p.1.raw <+: later.1.before := by
  have hlength := (forall₂_reads source).length_eq
  have hsites := pairwise_sites (ofText source.toList)
  rw [← List.map_fst_zip (Nat.le_of_eq hlength), List.pairwise_map] at hsites
  exact hsites

/-- **The diagnostics of a scan.** There is one for each stretch of the legal cut that is
malformed. -/
theorem diagnostics_eq (source : String) :
    (Scan.ofText source).diagnostics =
      ((ofText source.toList).sites.zip (Scan.ofText source).tokens).filterMap fun p =>
        p.1.report? p.2 := by
  have htakes : List.Forall₂ Takes (ofText source.toList).sites
      (placed .start (portions source.toList)) := forall₂_takes [] source.toList
  rw [Scan.diagnostics_ofText, Scan.tokens_ofText, reportsFrom, tokensFrom]
  generalize (ofText source.toList).sites = sites at htakes ⊢
  generalize placed .start (portions source.toList) = places at htakes ⊢
  induction htakes with
  | nil => rfl
  | cons h _ ih =>
    rw [List.map_cons, List.zip_cons_cons, List.filterMap_cons, List.filterMap_cons, h.report?_eq,
      ih]

end Cut

end TokenScan
