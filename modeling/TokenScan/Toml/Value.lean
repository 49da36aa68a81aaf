/-!
# Values and tables

What a configuration file says, as a tree. The leaves are scalars; the inner nodes are arrays,
tables, and the rows of tables that are written under repeated headers.

A table remembers how it came to be, because that decides what may be added to it later. One
that is written in braces is complete. One with a header of its own may get further tables by
headers, but not by dotted keys. One that was only mentioned on the way to another header may
still get its own header.

## Main definitions

* `Value`, `Origin`, `Entries` — the tree
* `Entries.alter` — changing what stands under a key
* `Entries.alterAt` — the same at the end of a path
-/

namespace TokenScan.Toml

/-- How a table came to be. -/
inductive Origin where
  /-- It is written in braces. -/
  | inline
  /-- It has a header. -/
  | header
  /-- It stands on the path of a header. -/
  | implied
  /-- It stands on the path of a dotted key. -/
  | dotted
deriving DecidableEq

/-- A value of a configuration file. -/
inductive Value where
  /-- A string. -/
  | string (text : String)
  /-- An integer. -/
  | integer (value : Int)
  /-- A floating-point number, as it is spelled. -/
  | float (spelling : String)
  /-- A truth value. -/
  | boolean (value : Bool)
  /-- A date, a time, or both, as it is spelled. -/
  | dateTime (spelling : String)
  /-- A list of values. -/
  | array (items : List Value)
  /-- Named values. -/
  | table (origin : Origin) (entries : List (String × Value))
  /-- The tables under repeated headers, with the last one by itself. -/
  | tables (earlier : List (List (String × Value))) (last : List (String × Value))

namespace Value

/-- The text of a string. -/
def string? : Value → Option String
  | .string text => some text
  | _ => none

/-- The truth value that a value is. -/
def boolean? : Value → Option Bool
  | .boolean value => some value
  | _ => none

/-- The texts of an array of strings. -/
def strings? : Value → Option (List String)
  | .array items => items.mapM string?
  | _ => none

end Value

/-- The named values of a table, in the order of their first mention. No name occurs twice. -/
abbrev Entries := List (String × Value)

namespace Entries

/-- Changes what stands under a key, which may be nothing, to something else. -/
def alter (key : String) (change : Option Value → Option Value) : Entries → Option Entries
  | [] => (change none).map fun value => [(key, value)]
  | (name, value) :: entries =>
    if name = key then (change (some value)).map fun value => (name, value) :: entries
    else (alter key change entries).map fun entries => (name, value) :: entries

/-- Adds an entry under a key that has none. -/
def insertNew (key : String) (value : Value) : Entries → Option Entries :=
  alter key fun
    | none => some value
    | some _ => none

end Entries

/-- A table that is open for changes, and what it makes of its new entries. -/
structure Opened where
  /-- The entries it has. -/
  entries : Entries
  /-- The value with other entries. -/
  close : Entries → Value

namespace Opened

/-- Opens what the path of a header leads through. A table in braces stays closed. -/
def onHeaderPath : Option Value → Option Opened
  | none => some ⟨[], .table .implied⟩
  | some (.table .inline _) => none
  | some (.table origin entries) => some ⟨entries, .table origin⟩
  | some (.tables earlier last) => some ⟨last, .tables earlier⟩
  | some _ => none

/-- Opens the table that a header is about. -/
def atHeader : Option Value → Option Opened
  | none => some ⟨[], .table .header⟩
  | some (.table .implied entries) => some ⟨entries, .table .header⟩
  | some _ => none

/-- Opens the table that a repeated header is about. -/
def atRepeatedHeader : Option Value → Option Opened
  | none => some ⟨[], .tables []⟩
  | some (.tables earlier last) => some ⟨[], .tables (earlier ++ [last])⟩
  | some _ => none

/-- Opens what a dotted key leads through. Its last part but one must name a table that dotted
keys made. -/
def onDottedKey (lastButOne : Bool) : Option Value → Option Opened
  | none => some ⟨[], .table .dotted⟩
  | some (.table .dotted entries) => some ⟨entries, .table .dotted⟩
  | some (.table .implied entries) =>
    if lastButOne then none else some ⟨entries, .table .implied⟩
  | some (.tables earlier last) => if lastButOne then none else some ⟨last, .tables earlier⟩
  | some _ => none

/-- Changes the entries of an opened table. -/
def change (opened : Opened) (f : Entries → Option Entries) : Option Value := do
  let entries ← f opened.entries
  return opened.close entries

end Opened

namespace Entries

/-- Adds an entry under a dotted key. -/
def insertDotted (value : Value) : List String → Entries → Option Entries
  | [], _ => none
  | [name], entries => insertNew name value entries
  | name :: next :: others, entries =>
    alter name (fun found => do
      let opened ← Opened.onDottedKey others.isEmpty found
      opened.change (insertDotted value (next :: others))) entries

/-- Adds entries under dotted keys. -/
def insertAll (additions : List (List String × Value)) (entries : Entries) : Option Entries :=
  additions.foldlM (fun entries (key, value) => insertDotted value key entries) entries

/-- Changes the entries of the table that a header is about, which `target` opens. -/
def alterAt (target : Option Value → Option Opened) (f : Entries → Option Entries) :
    List String → Entries → Option Entries
  | [], _ => none
  | [name], entries => alter name (fun found => do (← target found).change f) entries
  | name :: next :: others, entries =>
    alter name (fun found => do
      (← Opened.onHeaderPath found).change (alterAt target f (next :: others))) entries

end Entries

end TokenScan.Toml
