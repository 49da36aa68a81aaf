import TokenScan.Proofs.JsonText
import TokenScan.Proofs.TextReport
import TokenScan.Report

/-!
# The JSON report loses nothing

The JSON report is a line for each input, and whoever has its bytes can tell the inputs: their
labels, their tokens, and what was reported about them. That holds of any labels, lexemes and
messages, because the document of an input is one line whatever is in it, and because the text of a
value is the text of no other value.

What a document does not show is the source text, and of the place of a diagnostic all but the line
and the column. Of a code it shows the text.

## Main definitions

* `Diagnostic.SameJson`, `Scanned.SameJson` — two diagnostics, or two inputs, are the same as far as
  this report shows them

## Main results

* `Token.toJson_injective`, `Diagnostic.sameJson_of_json_eq`, `Scanned.sameJson_of_json_eq` — what
  can be told from the value that is written
* `json_report_lossless` — the whole report
-/

namespace TokenScan

/-! ### What the values tell -/

theorem Token.toJson_injective : Function.Injective toJson := by
  intro token other h
  obtain ⟨kind, lexeme, line, column⟩ := token
  obtain ⟨kind', lexeme', line', column'⟩ := other
  simp only [toJson, Json.object.injEq, List.cons.injEq, Prod.mk.injEq, Json.string.injEq,
    Json.number.injEq, true_and, and_true] at h
  obtain ⟨hkind, rfl, hline, hcolumn⟩ := h
  rw [TokenKind.name_injective hkind, UInt32.toNat_inj.mp hline, UInt32.toNat_inj.mp hcolumn]

/-- Two diagnostics are the same as far as the JSON report shows them. -/
structure Diagnostic.SameJson (d e : Diagnostic) : Prop where
  /-- They are equally grave. -/
  severity_eq : d.severity = e.severity
  /-- They have codes with the same text, or none of them has a code. -/
  codeText_eq : d.code?.map DiagnosticCode.text = e.code?.map DiagnosticCode.text
  /-- They have the same message. -/
  message_eq : d.message = e.message
  /-- They are about the same line. -/
  line_eq : d.span.line = e.span.line
  /-- They are about the same column. -/
  column_eq : d.span.column = e.span.column

theorem Diagnostic.sameJson_of_json_eq {d e : Diagnostic}
    (h : Report.diagnosticJson d = Report.diagnosticJson e) : d.SameJson e := by
  simp only [Report.diagnosticJson, Json.object.injEq, List.cons.injEq, Prod.mk.injEq,
    Json.string.injEq, Json.number.injEq, true_and, and_true] at h
  obtain ⟨hcode, hmessage, hline, hcolumn⟩ := h
  refine ⟨rfl, ?_, hmessage, UInt32.toNat_inj.mp hline,
    UInt32.toNat_inj.mp hcolumn⟩
  cases hd : d.code? <;> cases he : e.code? <;> simp_all

/-- Two inputs are the same as far as the JSON report shows them. -/
structure Scanned.SameJson (item other : Scanned) : Prop where
  /-- They have the same label. -/
  label_eq : item.input.label = other.input.label
  /-- They have the same tokens. -/
  tokens_eq : item.scan.tokens = other.scan.tokens
  /-- They have the same diagnostics, one by one. -/
  diagnostics_same :
    List.Forall₂ Diagnostic.SameJson item.scan.diagnostics other.scan.diagnostics

theorem Scanned.sameJson_of_json_eq {item other : Scanned}
    (h : Report.inputJson item = Report.inputJson other) : item.SameJson other := by
  simp only [Report.inputJson, Json.object.injEq, List.cons.injEq, Prod.mk.injEq,
    Json.string.injEq, Json.array.injEq, true_and, and_true] at h
  obtain ⟨hlabel, htokens, hdiagnostics⟩ := h
  refine ⟨hlabel, List.map_injective_iff.mpr Token.toJson_injective htokens, ?_⟩
  rw [← List.forall₂_eq_eq_eq, List.forall₂_map_left_iff, List.forall₂_map_right_iff]
    at hdiagnostics
  exact hdiagnostics.imp fun _ _ => Diagnostic.sameJson_of_json_eq

/-! ### The lines of the report -/

namespace Report

/-- The document of an input, with the line feed that ends it. -/
def documentLine (item : Scanned) : List Char := (inputJson item).text.toList ++ ['\n']

theorem toList_join_json (items : List Scanned) :
    (Chunk.join (json items)).toList = items.flatMap documentLine := by
  rw [Chunk.toList_join, json, List.flatMap_assoc]
  refine List.flatMap_congr fun item _ => ?_
  simp [documentLine, line]

theorem count_lineFeed_documentLine (item : Scanned) : (documentLine item).count '\n' = 1 := by
  rw [documentLine, List.count_append,
    List.count_eq_zero.mpr (Json.lineFeed_not_mem_text (inputJson item))]
  rfl

theorem documentLine_append_inj {item other : Scanned} {x y : List Char}
    (h : documentLine item ++ x = documentLine other ++ y) : item.SameJson other ∧ x = y := by
  simp only [documentLine, List.append_assoc, List.singleton_append] at h
  obtain ⟨htext, hxy⟩ := Text.append_cons_inj (Json.lineFeed_not_mem_text _)
    (Json.lineFeed_not_mem_text _) h
  exact ⟨Scanned.sameJson_of_json_eq (Json.text_injective (String.toList_inj.mp htext)), hxy⟩

end Report

/-- **The JSON report loses nothing.** It is a line for each input, with its document, and a
document holds no line feed. From its bytes the inputs can be told, in order: their labels, their
tokens, and their diagnostics with level, code, message and place. -/
theorem json_report_lossless :
    (∀ items : List Scanned,
      (Chunk.join (Report.json items)).toList =
          items.flatMap (fun item => (Report.inputJson item).text.toList ++ ['\n']) ∧
        (∀ item ∈ items, '\n' ∉ (Report.inputJson item).text.toList) ∧
        (Chunk.join (Report.json items)).toList.count '\n' = items.length) ∧
      ∀ items others : List Scanned,
        bytesOf (Chunk.join (Report.json items)) = bytesOf (Chunk.join (Report.json others)) →
          List.Forall₂ Scanned.SameJson items others := by
  refine ⟨fun items => ⟨Report.toList_join_json items, ?_, ?_⟩, ?_⟩
  · exact fun item _ => Json.lineFeed_not_mem_text _
  · rw [Report.toList_join_json, List.count_flatMap]
    simp [Function.comp_def, Report.count_lineFeed_documentLine]
  · intro items others h
    have hchars := congrArg String.toList (bytesOf_injective h)
    rw [Report.toList_join_json, Report.toList_join_json,
      ← List.append_nil (items.flatMap _), ← List.append_nil (others.flatMap _)] at hchars
    refine (Text.forall₂_of_flatMap_append ([] = ·) ?_ ?_ rfl rfl hchars).1
    · exact fun item _ other _ {_ _} _ _ heq => Report.documentLine_append_inj heq
    · simp [Report.documentLine]

/-- A lexeme that holds the end of its own document, and a message that holds a whole one. The
source texts and the extent of a diagnostic, which the report does not show, may differ. -/
theorem json_report_lossless_forged_document :
    let token : Token := ⟨.comment, "\",\"line\":1\x7d]\x7d\n\x00\\", 1, 1⟩
    let report (start stop : Nat) : Diagnostic :=
      ⟨.warning, "\x7b\"file\":null\x7d\n", ⟨start, stop, 1, 1⟩, none⟩
    let items : List Scanned := [⟨⟨"a\nb", "x"⟩, ⟨[token, token], [report 0 1]⟩⟩]
    let others : List Scanned := [⟨⟨"a\nb", "y"⟩, ⟨[token, token], [report 7 9]⟩⟩]
    bytesOf (Chunk.join (Report.json items)) = bytesOf (Chunk.join (Report.json others)) ∧
      List.Forall₂ Scanned.SameJson items others := by
  intro token report items others
  have hbytes : bytesOf (Chunk.join (Report.json items)) =
    bytesOf (Chunk.join (Report.json others)) := rfl
  exact ⟨hbytes, json_report_lossless.2 items others hbytes⟩

end TokenScan
