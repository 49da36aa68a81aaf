import TokenScan.Settings
import TokenScan.Toml.Document

/-!
# The text of a configuration

How a configuration is written down: its parts are tables of a TOML document, and its settings are
entries of them. What is not mentioned has its default, and entries with other names are ignored.

A part may also be a list, which gives its settings by position: what the list is too short for has
its default, and what is left over is ignored. A date has no settings in it, so in the place of a
part it leaves all of them at their defaults.

## Main definitions

* `Config.Group` — a part of a configuration, by name or by position
* `Config.ofText?` — the configuration that a text describes
-/

namespace TokenScan

open Toml (Entries Value)

namespace Config

/-- The settings in a part of a configuration. -/
inductive Group where
  /-- Settings by name. -/
  | named (entries : Entries)
  /-- Settings by position. -/
  | listed (items : List Value)

namespace Group

/-- The group that a value holds. -/
def ofValue? : Value → Option Group
  | .table _ entries => some (.named entries)
  | .array items => some (.listed items)
  | .tables earlier last => some (.listed ((earlier ++ [last]).map (.table .header)))
  | .dateTime _ => some (.named [])
  | _ => none

/-- The value at a name and a position, if there is one. -/
def find? (group : Group) (name : String) (position : Nat) : Option Value :=
  match group with
  | .named entries => entries.lookup name
  | .listed items => items[position]?

/-- The setting at a name and a position, or its default. A value of the wrong kind gives none. -/
def setting? (group : Group) (name : String) (position : Nat) (read? : Value → Option α)
    (default : α) : Option α :=
  match group.find? name position with
  | some value => read? value
  | none => some default

end Group

end Config

/-- The part about output that a value holds. -/
def OutputConfig.ofValue? (value : Value) : Option OutputConfig := do
  let default : OutputConfig := {}
  let group ← Config.Group.ofValue? value
  return {
    format := ← group.setting? "format" 0 Value.string? default.format
    showDiagnostics :=
      ← group.setting? "show_diagnostics" 1 Value.boolean? default.showDiagnostics }

/-- The part about scanning that a value holds. -/
def LexConfig.ofValue? (value : Value) : Option LexConfig := do
  let default : LexConfig := {}
  let group ← Config.Group.ofValue? value
  return {
    strict := ← group.setting? "strict" 0 Value.boolean? default.strict
    allow := ← group.setting? "allow" 1 Value.strings? default.allow }

namespace Config

/-- The configuration that a group of settings describes. -/
def ofGroup? (group : Group) : Option Config := do
  let default : Config := {}
  return {
    verbose := ← group.setting? "verbose" 0 Value.boolean? default.verbose
    output := ← group.setting? "output" 1 OutputConfig.ofValue? default.output
    lex := ← group.setting? "lex" 2 LexConfig.ofValue? default.lex }

/-- The configuration that a text describes. -/
def ofText? (text : String) : Option Config := do
  let entries ← Toml.parse? text.toList
  ofGroup? (.named entries)

end Config

end TokenScan
