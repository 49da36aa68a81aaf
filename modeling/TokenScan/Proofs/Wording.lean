import TokenScan.Proofs.JsonReport

/-!
# The words of the reports

What stands in the reports, word for word. The reports are put together from pieces, and the pieces
from values of other types: tokens have a display, documents are JSON values. Here all of it is
spelled out, from the first character to the last line feed, and the reports are shown to be these
texts. What is left to others is how a single number, lexeme or label is written.

The text report of one input has no header. With any other number of inputs, each has one, and a
line feed stands between the lines of one input and the header of the next.

## Main definitions

* `Report.textWords`, `Report.jsonWords`, `Report.diagnosticsWords` — the three reports

## Main results

* `Report.join_text`, `Report.join_json`, `Report.join_diagnostics` — the pieces of each report are
  its words
-/

namespace TokenScan

namespace Report

open Text

/-! ### Text -/

/-- The line of a token. -/
def tokenWords (token : Token) : String :=
  token.kind.name ++ " '" ++ String.ofList (escape token.lexeme.toList) ++ "' at " ++
    decimal token.line.toNat ++ ":" ++ decimal token.column.toNat ++ "\n"

/-- The header of an input and the lines of its tokens. -/
def blockWords (item : Scanned) : String :=
  "==> " ++ item.input.label ++ " <==\n" ++ String.join (item.scan.tokens.map tokenWords)

/-- The tokens of all inputs. -/
def textWords : List Scanned → String
  | [item] => String.join (item.scan.tokens.map tokenWords)
  | items => "\n".intercalate (items.map blockWords)

theorem toList_tokenWords (token : Token) : (tokenWords token).toList = tokenLine token := by
  simp [tokenWords, tokenLine, Token.display, String.toList_append]

theorem toList_join_tokenWords (tokens : List Token) :
    (String.join (tokens.map tokenWords)).toList = tokens.flatMap tokenLine := by
  simp only [String.toList_join, List.flatMap_map, toList_tokenWords]

theorem toList_blockWords (item : Scanned) :
    (blockWords item).toList = (Chunk.join (block item)).toList := by
  rw [toList_join_block, blockWords, String.toList_append, toList_join_tokenWords]
  simp [String.toList_append]

/-- **The words of the text report.** -/
theorem join_text (items : List Scanned) : Chunk.join (text items) = textWords items := by
  apply String.toList_inj.mp
  match items with
  | [] => rfl
  | [item] => rw [text, toList_join_tokenLines, textWords, toList_join_tokenWords]
  | first :: second :: others =>
    have hblocks : (Chunk.join ((second :: others).flatMap laterBlock)).toList =
        (second :: others).flatMap fun item => "\n".toList ++ (blockWords item).toList := by
      rw [Chunk.toList_join, List.flatMap_assoc]
      refine List.flatMap_congr fun item _ => ?_
      rw [← Chunk.toList_join, toList_join_laterBlock, ← toList_blockWords]
      rfl
    have hwords : textWords (first :: second :: others) =
        "\n".intercalate ((first :: second :: others).map blockWords) := rfl
    rw [hwords, String.toList_intercalate, List.map_map, List.map_cons, intercalate_cons,
      List.flatMap_map, Function.comp_apply, toList_blockWords, text_cons_cons]
    rw [Chunk.toList_join, List.flatMap_append, ← Chunk.toList_join, ← Chunk.toList_join, hblocks]
    rfl

/-! ### JSON -/

/-- Named values in braces, each value in its words. -/
def objectWords (members : List (String × String)) : String :=
  "\x7b" ++ ",".intercalate (members.map fun member => "\"" ++ member.1 ++ "\":" ++ member.2) ++
    "\x7d"

/-- Values in brackets, each in its words. -/
def arrayWords (items : List String) : String := "[" ++ ",".intercalate items ++ "]"

/-- A token as a JSON object. -/
def tokenJsonWords (token : Token) : String :=
  objectWords [
    ("kind", "\"" ++ token.kind.name ++ "\""),
    ("lexeme", Json.quote token.lexeme),
    ("line", decimal token.line.toNat),
    ("column", decimal token.column.toNat)]

/-- A diagnostic as a JSON object. -/
def diagnosticJsonWords (d : Diagnostic) : String :=
  objectWords [
    ("level", "\"warning\""),
    ("code", (d.code?.map fun code => Json.quote code.text).getD "null"),
    ("message", Json.quote d.message),
    ("line", decimal d.span.line.toNat),
    ("column", decimal d.span.column.toNat)]

/-- The document of an input. -/
def documentWords (item : Scanned) : String :=
  objectWords [
    ("file", Json.quote item.input.label),
    ("tokens", arrayWords (item.scan.tokens.map tokenJsonWords)),
    ("diagnostics", arrayWords (item.scan.diagnostics.map diagnosticJsonWords))]

/-- The documents of all inputs, each with a line feed behind it. -/
def jsonWords (items : List Scanned) : String :=
  String.join (items.map fun item => documentWords item ++ "\n")

/-- Whether nothing in a string needs an escape. -/
def isPlain (value : String) : Bool := value.toList.all fun c => Json.escapeChar c == [c]

theorem quote_of_isPlain {value : String} (h : isPlain value = true) :
    Json.quote value = "\"" ++ value ++ "\"" := by
  have hchars : value.toList.flatMap Json.escapeChar = value.toList.flatMap fun c => [c] :=
    List.flatMap_congr fun c hc => beq_iff_eq.mp (List.all_eq_true.mp h c hc)
  rw [Json.quote, hchars, List.flatMap_singleton', String.ofList_toList]

theorem quote_kindName (kind : TokenKind) : Json.quote kind.name = "\"" ++ kind.name ++ "\"" := by
  apply quote_of_isPlain
  cases kind <;> rfl

/-- An object in its words, if the names of its members need no escape. -/
theorem text_object {members : List (String × Json)}
    (h : (members.map Prod.fst).all isPlain = true) :
    (Json.object members).text =
      objectWords (members.map fun member => (member.1, member.2.text)) := by
  have hmembers : Json.memberTexts members =
      members.map fun member => "\"" ++ member.1 ++ "\":" ++ member.2.text := by
    induction members with
    | nil => rw [Json.memberTexts, List.map_nil]
    | cons member members ih =>
      obtain ⟨hfirst, hothers⟩ := Bool.and_eq_true_iff.mp h
      have hcolon : "\"" ++ (":" ++ member.2.text) = "\":" ++ member.2.text := by
        rw [← String.append_assoc]
        rfl
      rw [Json.memberTexts, ih hothers, quote_of_isPlain hfirst, List.map_cons]
      simp only [String.append_assoc, hcolon]
  rw [Json.text, hmembers, objectWords, List.map_map]
  rfl

theorem text_array (items : List Json) :
    (Json.array items).text = arrayWords (items.map Json.text) := by
  rw [Json.text, Json.itemTexts_eq_map, arrayWords]

theorem text_toJson (token : Token) : token.toJson.text = tokenJsonWords token := by
  rw [Token.toJson, text_object, tokenJsonWords]
  · simp only [List.map_cons, List.map_nil, Json.text, quote_kindName]
  · simp only [List.map_cons, List.map_nil]
    decide +kernel

theorem text_diagnosticJson (d : Diagnostic) :
    (diagnosticJson d).text = diagnosticJsonWords d := by
  have hlevel : Json.quote d.severity.name = "\"warning\"" := by
    cases d.severity
    rfl
  rw [diagnosticJson, text_object, diagnosticJsonWords]
  · cases d.code? <;> simp only [List.map_cons, List.map_nil, Json.text, hlevel] <;> rfl
  · simp only [List.map_cons, List.map_nil]
    decide +kernel

theorem text_inputJson (item : Scanned) : (inputJson item).text = documentWords item := by
  have htokens : item.scan.tokens.map (Json.text ∘ Token.toJson) =
      item.scan.tokens.map tokenJsonWords := List.map_congr_left fun token _ => text_toJson token
  have hdiagnostics : item.scan.diagnostics.map (Json.text ∘ diagnosticJson) =
      item.scan.diagnostics.map diagnosticJsonWords :=
    List.map_congr_left fun d _ => text_diagnosticJson d
  rw [inputJson, text_object, documentWords]
  · rw [List.map_cons, List.map_cons, List.map_cons, List.map_nil, text_array, text_array,
      List.map_map, List.map_map, htokens, hdiagnostics, Json.text]
  · simp only [List.map_cons, List.map_nil]
    decide +kernel

/-- **The words of the JSON report.** -/
theorem join_json (items : List Scanned) : Chunk.join (json items) = jsonWords items := by
  apply String.toList_inj.mp
  rw [toList_join_json, jsonWords, String.toList_join, List.flatMap_map]
  refine List.flatMap_congr fun item _ => ?_
  rw [← text_inputJson, String.toList_append, documentLine]
  rfl

/-! ### Diagnostics -/

/-- The diagnostics of all inputs, each with its source line. -/
def diagnosticsWords (items : List Scanned) : String :=
  String.join (items.flatMap fun item =>
    item.scan.diagnostics.map fun d => d.render ⟨item.input.label, item.input.source⟩)

/-- **The words of the report of diagnostics.** -/
theorem join_diagnostics (items : List Scanned) :
    Chunk.join (diagnostics items) = diagnosticsWords items := by
  rw [Chunk.join, diagnostics, diagnosticsWords, List.map_flatMap]
  simp only [List.map_map]
  rfl

end Report

end TokenScan
