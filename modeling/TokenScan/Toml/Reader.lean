/-!
# Readers

A reader takes a value from the front of a text and leaves the rest, or fails and takes nothing.
`do` reads one thing after another, and `<|>` tries its second reader where the first one fails.

`many` repeats a reader for as long as it succeeds and takes something. That the rest gets shorter
is tested at every turn, so `many` ends whatever the reader does.
-/

namespace TokenScan.Toml

/-- A way to take a value from the front of a text. -/
abbrev Reader := StateT (List Char) Option

/-- Reads nothing, and succeeds only at the end of the text. -/
def atEnd : Reader Unit := fun text => if text.isEmpty then some ((), []) else none

/-- Reads one character of a kind. -/
def oneOf (p : Char → Bool) : Reader Char
  | [] => none
  | c :: rest => if p c then some (c, rest) else none

/-- Reads a given character. -/
def mark (c : Char) : Reader Unit := do
  let _ ← oneOf (· == c)

/-- Reads a given text. -/
def word (text : String) : Reader Unit := text.toList.forM mark

/-- Reads all characters of a kind that come next, which may be none. -/
def run (p : Char → Bool) : Reader (List Char) := fun text =>
  some (text.takeWhile p, text.dropWhile p)

/-- Reads all characters of a kind that come next, of which there must be one. -/
def run1 (p : Char → Bool) : Reader (List Char) := do
  let taken ← run p
  guard !taken.isEmpty
  return taken

/-- The values that a reader takes one after the other, and the rest. -/
def collect (item : Reader α) (text : List Char) : List α × List Char :=
  match item text with
  | none => ([], text)
  | some (value, rest) =>
    if _shorter : rest.length < text.length then
      let (values, rest) := collect item rest
      (value :: values, rest)
    else ([], text)
termination_by text.length

/-- Reads as many times as possible, which may be not at all. -/
def many (item : Reader α) : Reader (List α) := fun text => some (collect item text)

/-- Reads once, and then as many times as possible behind a separator. -/
def separated (separator : Reader Unit) (item : Reader α) : Reader (List α) := do
  let first ← item
  let others ← many (separator *> item)
  return first :: others

/-- Reads once if possible. -/
def maybe (item : Reader α) : Reader (Option α) := some <$> item <|> pure none

/-- Reads an exact number of times. -/
def exactly (item : Reader α) : Nat → Reader (List α)
  | 0 => return []
  | n + 1 => do
    let first ← item
    let others ← exactly item n
    return first :: others

/-- Reads something and returns the text it takes. -/
def spelling (item : Reader α) : Reader String := fun text =>
  match item text with
  | none => none
  | some (_, rest) => some (String.ofList (text.take (text.length - rest.length)), rest)

/-- Reads a whole text. -/
def readAll? (item : Reader α) (text : List Char) : Option α :=
  ((item <* atEnd).run text).map Prod.fst

end TokenScan.Toml
