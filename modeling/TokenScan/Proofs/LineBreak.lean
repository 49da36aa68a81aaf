import TokenScan.Proofs.Continuation
import TokenScan.Proofs.Coverage
import TokenScan.Proofs.Warnings

/-!
# Scanning across a line break

Where a line ends outside of strings and comments, a text can be cut in two and scanned in parts.
Nothing behind the line feed changes what was found in front of it, and behind it the scanner goes
on like a new one that stands in the first column. All that differs is how far down and how far on
it stands, and that is added to every place that it reports.

The scanner behind the line feed is not new in one respect: blanks that stand in front of the line
feed belong to the gap of the next token. They leave no trace, since a gap only moves the place.

## Main definitions

* `Scan.down` — a scan of the same text some lines further down
* `Scan.append` — two scans one behind the other

## Main results

* `tokensFrom_down`, `reportsFrom_down` — the same portions further down give the same tokens and
  reports further down
* `scan_append_lineFeed` — scanning distributes over a line break
-/

namespace TokenScan

open Text

/-! ### Places further down -/

/-- The place `lines` lines further down and `bytes` bytes further on, in the same column. -/
def Location.down (l : Location) (lines bytes : Nat) : Location :=
  ⟨l.offset + bytes, l.line + .ofNat lines, l.column⟩

/-- The same token `lines` lines further down. -/
def Token.down (token : Token) (lines : Nat) : Token :=
  { token with line := token.line + .ofNat lines }

/-- The span `lines` lines further down and `bytes` bytes further on. -/
def Span.down (span : Span) (lines bytes : Nat) : Span :=
  ⟨span.start + bytes, span.stop + bytes, span.line + .ofNat lines, span.column⟩

/-- The same report `lines` lines further down and `bytes` bytes further on. -/
def Diagnostic.down (d : Diagnostic) (lines bytes : Nat) : Diagnostic :=
  { d with span := d.span.down lines bytes }

/-- The scan of a text that stands `lines` lines further down and `bytes` bytes further on. -/
def Scan.down (scan : Scan) (lines bytes : Nat) : Scan where
  tokens := scan.tokens.map fun token => token.down lines
  diagnostics := scan.diagnostics.map fun d => d.down lines bytes

/-- One scan and then another. -/
def Scan.append (scan later : Scan) : Scan where
  tokens := scan.tokens ++ later.tokens
  diagnostics := scan.diagnostics ++ later.diagnostics

section

variable (l : Location) (lines bytes : Nat)

theorem Location.after_down (c : Char) :
    (l.down lines bytes).after c = (l.after c).down lines bytes := by
  have hline : l.line + .ofNat lines + 1 = l.line + 1 + .ofNat lines := by
    rw [UInt32.add_assoc, UInt32.add_comm _ 1, ← UInt32.add_assoc]
  by_cases hc : c = '\n'
  · simp only [after, down, if_pos hc, Nat.add_right_comm, hline]
  · simp only [after, down, if_neg hc, Nat.add_right_comm]

theorem Location.past_down (text : List Char) :
    (l.down lines bytes).past text = (l.past text).down lines bytes := by
  induction text generalizing l with
  | nil => rfl
  | cons c text ih => rw [past_cons, past_cons, after_down, ih]

theorem Portion.token_down (portion : Portion) :
    portion.token (l.down lines bytes) = (portion.token l).down lines := by
  rw [token, token, Location.past_down]
  rfl

theorem Portion.report?_down (portion : Portion) :
    portion.report? (l.down lines bytes) =
      (portion.report? l).map fun d => d.down lines bytes := by
  rw [report?, report?, Location.past_down, Location.past_down, Option.map_map]
  rfl

/-- **The same portions further down.** They make the same tokens, further down. -/
theorem tokensFrom_down (list : List Portion) :
    tokensFrom (l.down lines bytes) list =
      (tokensFrom l list).map fun token => token.down lines := by
  induction list generalizing l with
  | nil => rfl
  | cons portion rest ih =>
    rw [tokensFrom_cons, tokensFrom_cons, Portion.token_down, Location.past_down, ih, List.map_cons]

/-- The reports about the same portions further down are the same, further down. -/
theorem reportsFrom_down (list : List Portion) :
    reportsFrom (l.down lines bytes) list =
      (reportsFrom l list).map fun d => d.down lines bytes := by
  induction list generalizing l with
  | nil => rfl
  | cons portion rest ih =>
    rw [reportsFrom_cons, reportsFrom_cons, Portion.report?_down, Location.past_down, ih,
      List.map_append, Option.toList_map]

end

/-- Behind a line feed, a text is in the first column, as at the start. -/
theorem Location.past_start_append_lineFeed (text : List Char) :
    start.past (text ++ ['\n']) = start.down (lineOf text) (byteLength text + 1) := by
  have hcolumn : columnOf (text ++ ['\n']) = 1 := by
    rw [columnOf_append_of_mem (List.mem_singleton_self _)]
    rfl
  have hsize : '\n'.utf8Size = 1 := by decide
  rw [past_start, lineOf_append, hcolumn, byteLength_append, start, down]
  simp [hsize, UInt32.ofNat_add, UInt32.add_comm]

/-! ### Runs one behind the other -/

section

variable (l : Location)

/-- Blanks in front of the first portion only move the place where the portions begin. -/
theorem tokensFrom_modifyHead (gap : List Char) (list : List Portion) :
    tokensFrom l (list.modifyHead fun portion => { portion with gap := gap ++ portion.gap }) =
      tokensFrom (l.past gap) list := by
  cases list with
  | nil => rfl
  | cons portion rest =>
    simp only [List.modifyHead_cons, tokensFrom_cons, Portion.token, Portion.chars,
      List.append_assoc, Location.past_append]

theorem reportsFrom_modifyHead (gap : List Char) (list : List Portion) :
    reportsFrom l (list.modifyHead fun portion => { portion with gap := gap ++ portion.gap }) =
      reportsFrom (l.past gap) list := by
  cases list with
  | nil => rfl
  | cons portion rest =>
    simp only [List.modifyHead_cons, reportsFrom_cons, Portion.report?, Portion.chars,
      List.append_assoc, Location.past_append]

end

/-- If no report says that the text ends too early, every portion of it is closed. -/
theorem warning?_eq_splitNumber {l : Location} {list : List Portion}
    (h : ∀ d ∈ reportsFrom l list, d.isUnterminated = false) :
    ∀ portion ∈ list, ∀ w ∈ portion.piece.warning?, w = .splitNumber := by
  induction list generalizing l with
  | nil => simp
  | cons portion rest ih =>
    rw [reportsFrom_cons, List.forall_mem_append] at h
    rw [List.forall_mem_cons]
    refine ⟨?_, ih h.2⟩
    intro w hw
    by_contra hne
    have hreport := h.1 (w.report (.between (l.past portion.gap) (l.past portion.chars)))
      (by rw [Portion.report?, Option.mem_def.mp hw]; simp)
    rw [(w.isUnterminated_report _).mpr hne] at hreport
    simp at hreport

section

variable {a b : List Char}

/-- Behind a line break, the run goes on from the next line. -/
theorem portions_append_lineFeed
    (hclosed : ∀ d ∈ reportsFrom .start (portions a), d.isUnterminated = false) :
    portions (a ++ '\n' :: b) =
      portions a ++ (portions b).modifyHead fun portion =>
        { portion with gap := (blankEnd a ++ ['\n']) ++ portion.gap } := by
  have hgap : ∀ c ∈ blankEnd a ++ ['\n'], isBlank c = true := by
    refine List.forall_mem_append.mpr ⟨(Cut.legal_ofText a).tail_blank, ?_⟩
    exact List.forall_mem_singleton.mpr (by decide)
  have hfeed : ∀ d ∈ ('\n' :: b).head?, d = '\n' := by
    intro d hd
    exact (Option.some.inj hd).symm
  rw [portions_append (warning?_eq_splitNumber hclosed) hfeed, ← portions_append_of_blank hgap,
    List.append_assoc, List.singleton_append]

/-- The place where the next line begins. -/
theorem Location.past_flatMap_chars (a : List Char) :
    (start.past ((portions a).flatMap Portion.chars)).past (blankEnd a ++ ['\n']) =
      start.down (lineOf a) (byteLength a + 1) := by
  rw [← past_append, ← List.append_assoc, flatMap_chars_append_blankEnd,
    past_start_append_lineFeed]

end

namespace Scan

variable {a b : String}

/-- Scanning distributes over a line break, up to the width of a word. -/
theorem ofText_append_lineFeed
    (hclosed : ∀ d ∈ (ofText a).diagnostics, d.isUnterminated = false) :
    ofText (a ++ "\n" ++ b) =
      (ofText a).append ((ofText b).down (lineOf a.toList) (byteLength a.toList + 1)) := by
  have htext : (a ++ "\n" ++ b).toList = a.toList ++ '\n' :: b.toList := by simp
  rw [diagnostics_ofText] at hclosed
  have hportions := portions_append_lineFeed (b := b.toList) hclosed
  rw [Scan.mk.injEq]
  constructor
  · rw [tokens_ofText, htext, hportions, tokensFrom_append, tokensFrom_modifyHead,
      Location.past_flatMap_chars, tokensFrom_down, append, down, tokens_ofText, tokens_ofText]
  · rw [diagnostics_ofText, htext, hportions, reportsFrom_append, reportsFrom_modifyHead,
      Location.past_flatMap_chars, reportsFrom_down, append, down, diagnostics_ofText,
      diagnostics_ofText]

end Scan

/-- In a short text, no line is wrapped around, nor is it when some lines more stand in front. -/
theorem Site.Reads.toNat_line_add {source : String} {site : Site} {token : Token} {lines : Nat}
    (hread : site.Reads token) (hsite : site ∈ (Cut.ofText source.toList).sites)
    (hshort : source.length + lines < 2 ^ 32 - 1) :
    (token.line + .ofNat lines).toNat = token.line.toNat + lines := by
  have hbefore := Cut.length_before_le hsite
  have hline := lineOf_le site.before
  rw [UInt32.toNat_add, UInt32.toNat_ofNat', hread.toNat_line (by omega)]
  omega

/-- **Scanning distributes over a line break.** If nothing in the first text runs into its end, the
scan of both texts is the scan of the first and, as many lines further down as the first text has
and as many bytes further on as the first text and the line feed take, the scan of the second. Lines
are counted up here, never around. -/
theorem scan_append_lineFeed (a b : String) (hshort : (a ++ "\n" ++ b).length < 2 ^ 32 - 1)
    (hclosed : ∀ d ∈ (Scan.ofText a).diagnostics, d.isUnterminated = false) :
    Scan.ofText (a ++ "\n" ++ b) =
        (Scan.ofText a).append
          ((Scan.ofText b).down (lineOf a.toList) (byteLength a.toList + 1)) ∧
      (∀ token ∈ (Scan.ofText b).tokens,
        (token.down (lineOf a.toList)).line.toNat = token.line.toNat + lineOf a.toList) ∧
      ∀ d ∈ (Scan.ofText b).diagnostics,
        (d.down (lineOf a.toList) (byteLength a.toList + 1)).span.line.toNat =
          d.span.line.toNat + lineOf a.toList := by
  have hlines : b.length + lineOf a.toList < 2 ^ 32 - 1 := by
    have hle := lineOf_le a.toList
    rw [String.length_append, String.length_append] at hshort
    rw [String.length_toList] at hle
    have hfeed : "\n".length = 1 := by decide
    omega
  refine ⟨Scan.ofText_append_lineFeed hclosed, ?_, ?_⟩
  · intro token htoken
    obtain ⟨site, hsite, hread⟩ := Cut.exists_of_mem_tokens htoken
    exact hread.toNat_line_add hsite hlines
  · intro d hd
    obtain ⟨site, hsite, token, -, hread, hreport⟩ := Cut.exists_of_mem_diagnostics hd
    rw [Diagnostic.down, Site.span_eq_of_report? hreport]
    exact hread.toNat_line_add hsite hlines

/-- A split number and a line comment in front of the line feed, an open comment behind it. -/
theorem scan_append_lineFeed_open_comment :
    ("1.2.3 //" ++ "\n" ++ " /* é").length < 2 ^ 32 - 1 ∧
      (∀ d ∈ (Scan.ofText "1.2.3 //").diagnostics, d.isUnterminated = false) ∧
      Scan.ofText ("1.2.3 //" ++ "\n" ++ " /* é") =
        (Scan.ofText "1.2.3 //").append ((Scan.ofText " /* é").down 1 9) := by
  have hshort : ("1.2.3 //" ++ "\n" ++ " /* é").length < 2 ^ 32 - 1 := by decide
  have hclosed : ∀ d ∈ (Scan.ofText "1.2.3 //").diagnostics, d.isUnterminated = false := by
    decide +kernel
  exact ⟨hshort, hclosed, (scan_append_lineFeed "1.2.3 //" " /* é" hshort hclosed).1⟩

end TokenScan
