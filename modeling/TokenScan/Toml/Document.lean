import TokenScan.Toml.DateTime
import TokenScan.Toml.Number
import TokenScan.Toml.Value

/-!
# Documents

A configuration file is a list of entries, followed by sections: each has a header in brackets and
entries of its own. `document` reads this form, and `Document.build?` puts the entries where their
keys and headers say, which fails when a name is given twice.

Values nest only to a limited depth, so `value` is defined by recursion on the depth that is left.

## Main definitions

* `value` — a value of any kind
* `document` — the form of a whole file
* `parse?` — the table that a file describes
-/

namespace TokenScan.Toml

/-! ### Values -/

/-- Reads something between two marks. -/
def between (opening closing : Char) (item : Reader α) : Reader α :=
  mark opening *> item <* mark closing

/-- Reads a truth value. -/
def boolean : Reader Bool := word "true" *> pure true <|> word "false" *> pure false

/-- Reads an entry: a key, an equals sign and a value. -/
def entry (item : Reader Value) : Reader (List String × Value) := do
  let name ← key
  mark '='
  blank
  return (name, ← item)

/-- Reads the items of an array. A comma may follow the last one. -/
def arrayItems (item : Reader Value) : Reader (List Value) :=
  (separated (mark ',') (gap *> item <* gap) <* maybe (mark ',') <|> pure []) <* gap

/-- Reads the entries of a table in braces, which are on one line. -/
def inlineEntries (item : Reader Value) : Reader Entries := do
  let additions ← separated (mark ',') (entry item <* blank) <|> pure []
  blank
  StateT.lift (Entries.insertAll additions [])

/-- Reads a value, in which others are inside each other at most to the given depth. -/
def value : Nat → Reader Value
  | 0 => scalar
  | depth + 1 =>
    .array <$> between '[' ']' (arrayItems (value depth)) <|>
      .table .inline <$> between '\x7b' '\x7d' (inlineEntries (value depth)) <|> scalar
where
  /-- Reads a value that has no others inside. -/
  scalar : Reader Value :=
    (.string ∘ String.ofList) <$> string <|> .boolean <$> boolean <|> .dateTime <$> dateTime <|>
      .float <$> float <|> .integer <$> integer

/-! ### Documents -/

/-- What a header opens. -/
inductive Header where
  /-- A table. -/
  | single (path : List String)
  /-- One more table of an array. -/
  | repeated (path : List String)

/-- The form of a configuration file. -/
structure Document where
  /-- The entries before the first header. -/
  preamble : List (List String × Value)
  /-- The headers, each with its entries. -/
  sections : List (Header × List (List String × Value))

/-- Reads the entries up to a header or the end. -/
def body : Reader (List (List String × Value)) :=
  many (gap *> entry (value (depthLimit - 1)) <* lineEnd) <* gap

/-- Reads a header. -/
def header : Reader Header :=
  (.repeated <$> between '[' ']' (between '[' ']' key) <|> .single <$> between '[' ']' key)
    <* lineEnd

/-- Reads a whole file, which may begin with a byte order mark. -/
def document : Reader Document := do
  let _ ← maybe (mark '\uFEFF')
  let preamble ← body
  let sections ← many do return (← header, ← body)
  return ⟨preamble, sections⟩

namespace Document

/-- Adds a section to a table. -/
def addSection (entries : Entries) : Header × List (List String × Value) → Option Entries
  | (.single path, additions) =>
    entries.alterAt Opened.atHeader (Entries.insertAll additions) path
  | (.repeated path, additions) =>
    entries.alterAt Opened.atRepeatedHeader (Entries.insertAll additions) path

/-- The table that a document describes. -/
def build? (document : Document) : Option Entries := do
  document.sections.foldlM addSection (← Entries.insertAll document.preamble [])

end Document

/-- The table that the text of a file describes. -/
def parse? (text : List Char) : Option Entries := do
  (← readAll? document text).build?

end TokenScan.Toml
