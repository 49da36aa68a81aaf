import TokenScan.Proofs.Cut

/-!
# What the scanner reports

A scan reports what is malformed and nothing else. Whether a token is malformed can be read off the
text, so the reports can be told from the legal cut alone: one for each stretch that is malformed,
in the order of the text, about all of the stretch and nothing around it.

Two of the three warnings say that the text ends too early. Such a stretch runs to the end of the
text, so there is at most one, and no report follows it.

## Main definitions

* `Diagnostic.isUnterminated` — whether a report says that the text ends too early
* `Diagnostic.Orderly` — reports one behind the other, and of these at most the last

## Main results

* `diagnostics_exact` — the reports of a scan are those of the malformed stretches
-/

namespace TokenScan

open Text

namespace Diagnostic

/-- Whether a report says that the text ends too early. -/
def isUnterminated (d : Diagnostic) : Bool :=
  d.code? = some .unterminatedString || d.code? = some .unterminatedComment

/-- Reports that are about one stretch of the text after another. -/
structure Orderly (text : List Char) (diagnostics : List Diagnostic) : Prop where
  /-- No report is about nothing. -/
  start_lt_stop : ∀ d ∈ diagnostics, d.span.start < d.span.stop
  /-- The two ends of a span stand between characters. -/
  boundary : ∀ d ∈ diagnostics, ∃ raw, slice? text d.span.start d.span.stop = some raw
  /-- A span begins where the ones before it have ended, or later. -/
  increasing : diagnostics.Pairwise fun d later => d.span.stop ≤ later.span.start
  /-- The text ends too early at most once. -/
  unterminated_once : diagnostics.countP isUnterminated ≤ 1
  /-- If it does, this is reported last, about a stretch up to the end. -/
  unterminated_last : ∀ d ∈ diagnostics, d.isUnterminated = true →
    diagnostics.getLast? = some d ∧ d.span.stop = byteLength text

end Diagnostic

/-! ### The report about one token -/

theorem Warning.isUnterminated_report (w : Warning) (span : Span) :
    (w.report span).isUnterminated = true ↔ w ≠ .splitNumber := by
  rw [Diagnostic.isUnterminated, report, Diagnostic.warning]
  cases w <;> simp [code, DiagnosticCode.unterminatedString, DiagnosticCode.unterminatedComment,
    DiagnosticCode.splitNumber]

/-- If the text ends too early for a token, nothing is behind it. -/
theorem Munch.after_eq_nil {kind : TokenKind} {lexeme raw after : List Char} {w : Warning}
    (h : Munch kind lexeme raw after) (hw : malformation? kind lexeme raw after = some w)
    (hne : w ≠ .splitNumber) : after = [] := by
  cases h with
  | number =>
    simp only [malformation?, Option.ite_none_right_eq_some, Option.some.injEq] at hw
    exact absurd hw.2.symm hne
  | closedString => simp [malformation?] at hw
  | openString => rfl
  | lineComment => simp [malformation?] at hw
  | closedComment =>
    have hmark : ['*', '/'] <:+: lexeme ++ '*' :: '/' :: after := ⟨lexeme, after, by simp⟩
    simp [malformation?, hmark] at hw
  | openComment => rfl
  | _ => simp [malformation?] at hw

namespace Site

variable {site : Site} {token : Token} {d : Diagnostic}

/-- A report about a token is about all of its stretch, and has its line and column. -/
theorem span_eq_of_report? (h : site.report? token = some d) :
    d.span = ⟨byteLength site.before, byteLength (site.before ++ site.raw), token.line,
      token.column⟩ := by
  rw [report?_eq] at h
  obtain ⟨w, -, rfl⟩ := Option.map_eq_some_iff.mp h
  rfl

theorem span_of_report? (h : site.report? token = some d) :
    d.span.start = byteLength site.before ∧ d.span.stop = byteLength (site.before ++ site.raw) := by
  rw [span_eq_of_report? h]
  exact ⟨rfl, rfl⟩

theorem after_eq_nil_of_report? (hread : site.Reads token) (h : site.report? token = some d)
    (hd : d.isUnterminated = true) : site.after = [] := by
  rw [report?_eq] at h
  obtain ⟨w, hw, rfl⟩ := Option.map_eq_some_iff.mp h
  exact hread.munch.after_eq_nil hw ((w.isUnterminated_report _).mp hd)

end Site

/-! ### The reports about a text -/

namespace Cut

variable {source : String}

/-- Every report is about a stretch of the cut and the token that was read off it. -/
theorem exists_of_mem_diagnostics {d : Diagnostic} (h : d ∈ (Scan.ofText source).diagnostics) :
    ∃ site ∈ (ofText source.toList).sites, ∃ token ∈ (Scan.ofText source).tokens,
      site.Reads token ∧ site.report? token = some d := by
  rw [diagnostics_eq, List.mem_filterMap] at h
  obtain ⟨⟨site, token⟩, hmem, hreport⟩ := h
  have hread := List.forall₂_zip (forall₂_reads source) hmem
  obtain ⟨hsite, htoken⟩ := List.of_mem_zip hmem
  exact ⟨site, hsite, token, htoken, hread, hreport⟩

/-- A report is about some characters of the text, and about the last of them if the text ends too
early. -/
theorem span_of_mem_diagnostics {d : Diagnostic} (h : d ∈ (Scan.ofText source).diagnostics) :
    d.span.start < d.span.stop ∧ d.span.stop ≤ byteLength source.toList ∧
      (∃ raw, slice? source.toList d.span.start d.span.stop = some raw) ∧
      (d.isUnterminated = true → d.span.stop = byteLength source.toList) := by
  obtain ⟨site, hsite, token, -, hread, hreport⟩ := exists_of_mem_diagnostics h
  obtain ⟨hstart, hstop⟩ := Site.span_of_report? hreport
  have htext : site.before ++ site.raw ++ site.after = source.toList := by
    rw [append_of_mem_sites hsite, (legal_ofText _).text_eq]
  refine ⟨?_, ?_, ⟨site.raw, ?_⟩, fun hd => ?_⟩
  · have hpos := byteLength_pos hread.munch.raw_ne_nil
    rw [hstart, hstop, byteLength_append]
    omega
  · rw [hstop, ← htext, byteLength_append _ site.after]
    exact Nat.le_add_right ..
  · rw [hstart, hstop, ← htext, slice?_append]
  · rw [hstop, ← htext, Site.after_eq_nil_of_report? hread hreport hd, List.append_nil]

theorem pairwise_span (source : String) :
    (Scan.ofText source).diagnostics.Pairwise fun d later => d.span.stop ≤ later.span.start := by
  rw [diagnostics_eq, List.pairwise_filterMap]
  refine (pairwise_zip_tokens source).imp fun {p later} hfront d hd d' hd' => ?_
  obtain ⟨-, hstop⟩ := Site.span_of_report? hd
  obtain ⟨hstart, -⟩ := Site.span_of_report? hd'
  obtain ⟨between, hbetween⟩ := hfront
  rw [hstop, hstart, ← hbetween, byteLength_append _ between]
  exact Nat.le_add_right ..

end Cut

namespace Scan

variable {source : String}

/-- No report follows one that the text ends too early: it would have to be about characters behind
the end. -/
theorem pairwise_not_isUnterminated (source : String) :
    (ofText source).diagnostics.Pairwise fun d _ => d.isUnterminated = false := by
  refine (Cut.pairwise_span source).imp_of_mem fun {d later} hmem hlater hbehind => ?_
  obtain ⟨-, -, -, hstop⟩ := Cut.span_of_mem_diagnostics hmem
  obtain ⟨hlt, hle, -, -⟩ := Cut.span_of_mem_diagnostics hlater
  cases hd : d.isUnterminated with
  | false => rfl
  | true =>
    rw [hstop hd] at hbehind
    omega

theorem getLast?_diagnostics {d : Diagnostic} (h : d ∈ (ofText source).diagnostics)
    (hd : d.isUnterminated = true) : (ofText source).diagnostics.getLast? = some d := by
  have hpairwise := pairwise_not_isUnterminated source
  obtain ⟨front, back, hsplit⟩ := List.append_of_mem h
  rw [hsplit, List.pairwise_append, List.pairwise_cons] at hpairwise
  cases back with
  | nil => rw [hsplit, List.getLast?_concat]
  | cons later back =>
    have hfalse := hpairwise.2.1.1 later (List.mem_cons_self ..)
    rw [hd] at hfalse
    simp at hfalse

theorem countP_isUnterminated_le (source : String) :
    (ofText source).diagnostics.countP Diagnostic.isUnterminated ≤ 1 := by
  have hpairwise := (pairwise_not_isUnterminated source).filter Diagnostic.isUnterminated
  have hall : ∀ d ∈ (ofText source).diagnostics.filter Diagnostic.isUnterminated,
      d.isUnterminated = true := fun d hd => (List.mem_filter.mp hd).2
  rw [List.countP_eq_length_filter]
  generalize (ofText source).diagnostics.filter Diagnostic.isUnterminated = list at hpairwise hall ⊢
  match list with
  | [] => exact Nat.zero_le 1
  | [_] => exact Nat.le_refl 1
  | d :: later :: _ =>
    have hfalse := (List.pairwise_cons.mp hpairwise).1 later (List.mem_cons_self ..)
    rw [hall d (List.mem_cons_self ..)] at hfalse
    simp at hfalse

/-- The reports of a scan are about one stretch after another. -/
theorem orderly_diagnostics (source : String) :
    Diagnostic.Orderly source.toList (ofText source).diagnostics where
  start_lt_stop := fun _ hd => (Cut.span_of_mem_diagnostics hd).1
  boundary := fun _ hd => (Cut.span_of_mem_diagnostics hd).2.2.1
  increasing := Cut.pairwise_span source
  unterminated_once := countP_isUnterminated_le source
  unterminated_last := by
    intro d hd hunterminated
    obtain ⟨-, -, -, hstop⟩ := Cut.span_of_mem_diagnostics hd
    exact ⟨getLast?_diagnostics hd hunterminated, hstop hunterminated⟩

end Scan

/-- **The reports of a scan.** Along the legal cut and the tokens read off it, there is one report
for each malformed stretch, in order, and no other; and so the reports are orderly. -/
theorem diagnostics_exact (source : String) :
    ∃ cut : Cut, cut.Legal source.toList ∧
      List.Forall₂ Site.Reads cut.sites (Scan.ofText source).tokens ∧
      (Scan.ofText source).diagnostics =
        ((cut.sites.zip (Scan.ofText source).tokens).filterMap fun p => p.1.report? p.2) ∧
      Diagnostic.Orderly source.toList (Scan.ofText source).diagnostics := by
  refine ⟨Cut.ofText source.toList, Cut.legal_ofText _, Cut.forall₂_reads source, ?_, ?_⟩
  · exact Cut.diagnostics_eq source
  · exact Scan.orderly_diagnostics source

end TokenScan
