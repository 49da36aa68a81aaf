import TokenScan.Failure

/-!
# Settings

What a run is asked to do comes from two places: a configuration file and the options of the
command line. `Settings.resolve` merges them into the settings that hold for the run. An option
wins over the configuration where only one value can hold, and the two allow lists are joined.

Names and codes are text until they are resolved, so resolving is where wrong ones are found: the
format first, then the entries of the allow lists, those of the configuration before those of the
command line.

## Main definitions

* `Config`, `OutputOptions` — what the two places say
* `Settings`, `Settings.resolve` — what holds for the run
-/

namespace TokenScan

/-- How tokens are written. -/
inductive OutputFormat where
  /-- One line of text for each token. -/
  | text
  /-- One JSON document for each input. -/
  | json
deriving DecidableEq

/-- The format with a name. The case of the name does not matter. -/
def OutputFormat.ofName? (name : String) : Option OutputFormat :=
  let lower := String.ofList (name.toList.map Char.toLower)
  if lower = "text" ∨ lower = "txt" then some .text
  else if lower = "json" then some .json
  else none

/-- The part of a configuration that is about output. -/
structure OutputConfig where
  /-- The name of the format. -/
  format : String := "text"
  /-- Whether diagnostics are printed. -/
  showDiagnostics : Bool := true
deriving DecidableEq

/-- The part of a configuration that is about scanning. -/
structure LexConfig where
  /-- Whether any diagnostic is an error. -/
  strict : Bool := false
  /-- The codes of diagnostics to drop. -/
  allow : List String := []
deriving DecidableEq

/-- A configuration. The defaults are those of an empty one. -/
structure Config where
  /-- Whether to log details. -/
  verbose : Bool := false
  /-- What it says about output. -/
  output : OutputConfig := {}
  /-- What it says about scanning. -/
  lex : LexConfig := {}
deriving DecidableEq

/-- The options of the command line that are about output. -/
structure OutputOptions where
  /-- The name of the format, if one is given. -/
  format? : Option String := none
  /-- Whether any diagnostic is an error. -/
  strict : Bool := false
  /-- Whether diagnostics are not to be printed. -/
  noDiagnostics : Bool := false
  /-- The codes of diagnostics to drop. -/
  allow : List String := []
deriving DecidableEq

/-- The settings of a run. -/
structure Settings where
  /-- How tokens are written. -/
  format : OutputFormat
  /-- Whether any diagnostic is an error. -/
  strict : Bool
  /-- Whether diagnostics are printed. -/
  showDiagnostics : Bool
  /-- The codes of diagnostics to drop. -/
  allow : List DiagnosticCode
deriving DecidableEq

namespace Settings

/-- The format that options and configuration ask for. -/
def resolveFormat (options : OutputOptions) (config : Config) : Except ConfigError OutputFormat :=
  match options.format? with
  | some name =>
    match OutputFormat.ofName? name with
    | some format => .ok format
    | none => .error (.unknownFormat name)
  | none =>
    match OutputFormat.ofName? config.output.format with
    | some format => .ok format
    | none => .error (.invalidFormat config.output.format)

/-- The codes that a list of entries spells, up to the first entry that spells none. -/
def parseCodes : List String → Except CodeError (List DiagnosticCode)
  | [] => .ok []
  | entry :: entries => do
    let code ← DiagnosticCode.parse entry
    let codes ← parseCodes entries
    return code :: codes

/-- The settings that options and configuration together ask for. -/
def resolve (options : OutputOptions) (config : Config) : Except ConfigError Settings := do
  let format ← resolveFormat options config
  let allow ← (parseCodes (config.lex.allow ++ options.allow)).mapError .invalidCode
  return {
    format := format
    strict := options.strict || config.lex.strict
    showDiagnostics := !options.noDiagnostics && config.output.showDiagnostics
    allow := allow }

end Settings

end TokenScan
