import TokenScan.CommandLine.Word
import TokenScan.Settings

/-!
# What the command line asks for

The words are taken in order, so the first of them that is wrong, or that asks for something else
than a run, decides. The one exception is a path that is an argument of its own, with nothing else
between it and the command: it is checked behind the words of the command.

Each flag and each parameter but one may be given once in a layer. The general options may be given
in both: a flag holds if either layer has it, and the inner value of a parameter wins.

The general options also have environment variables, which count where a layer is silent.

## Main definitions

* `Arguments.accept` — what a word adds to the arguments of a layer
* `Invocation.ofArguments` — what the arguments and the environment ask for
-/

namespace TokenScan.CommandLine

/-! ### The arguments of a layer -/

/-- Why a command line does not lead to a run. -/
inductive Interruption where
  /-- It makes no sense. -/
  | usage
  /-- It asks for the version, of the program or of a command. -/
  | version (layer : Option Command)
  /-- It asks for help. -/
  | help
deriving DecidableEq

/-- What the arguments of a layer say. -/
structure Arguments where
  /-- Whether details are to be logged. -/
  verbose : Bool := false
  /-- Whether the log has no colors. -/
  noColor : Bool := false
  /-- The path of the configuration file. -/
  config? : Option String := none
  /-- The options about output. -/
  options : OutputOptions := {}
  /-- The files to scan. -/
  files : List String := []
deriving DecidableEq

namespace Arguments

/-- Allows what is not yet the case. -/
def once (already : Bool) : Except Interruption Unit :=
  if already then .error .usage else .ok ()

/-- Adds a flag. -/
def acceptFlag (layer : Option Command) (a : Arguments) :
    Flag → Except Interruption Arguments
  | .verbose => do
    once a.verbose
    return { a with verbose := true }
  | .noColor => do
    once a.noColor
    return { a with noColor := true }
  | .strict => do
    once a.options.strict
    return { a with options.strict := true }
  | .noDiagnostics => do
    once a.options.noDiagnostics
    return { a with options.noDiagnostics := true }
  | .version => .error (.version layer)
  | .help => .error .help

/-- Adds a parameter with its value. -/
def acceptParameter (a : Arguments) : Parameter → String → Except Interruption Arguments
  | .config, path => do
    once (a.config?.isSome || path.isEmpty)
    return { a with config? := some path }
  | .format, name => do
    once a.options.format?.isSome
    return { a with options.format? := some name }
  | .allow, code => return { a with options.allow := a.options.allow ++ [code] }

/-- Adds a word to the arguments of a layer. -/
def accept (layer : Option Command) (a : Arguments) : Word → Except Interruption Arguments
  | .flag flag => a.acceptFlag layer flag
  | .parameter parameter value _ => a.acceptParameter parameter value
  | .operand text =>
    if layer = some .lex ∧ text ≠ "" then .ok { a with files := a.files ++ [text] }
    else .error .usage
  | .refused => .error .usage

/-- Adds words to the arguments of a layer. -/
def acceptAll (layer : Option Command) (a : Arguments) (words : List Word) :
    Except Interruption Arguments :=
  words.foldlM (accept layer) a

end Arguments

/-! ### Both layers, and the environment -/

/-- What the program is asked to do. -/
structure Invocation where
  /-- Whether details are to be logged. -/
  verbose : Bool
  /-- Whether the log has no colors. -/
  noColor : Bool
  /-- The path of the configuration file, if one is named. -/
  config? : Option String
  /-- What to do. -/
  command : Command
  /-- The options about output. -/
  options : OutputOptions
  /-- The files to scan. -/
  files : List String
deriving DecidableEq

namespace Invocation

/-- Whether a flag holds that may be given in either layer or by a variable. The variable is looked
at only if a layer is silent, and must then be `true` or `false`. -/
def mergeFlag (outer inner : Bool) (fallback : Option String) : Except Interruption Bool :=
  if outer && inner then .ok true
  else
    match fallback with
    | none => .ok (outer || inner)
    | some text =>
      if text = "true" then .ok true
      else if text = "false" then .ok (outer || inner)
      else .error .usage

/-- The path that holds of those given in either layer or by a variable: the inner layer wins over
the outer one, and both over the variable. It is looked at only if a layer is silent, and must then
not be empty. -/
def mergePath (outer inner : Option String) (fallback : Option String) :
    Except Interruption (Option String) :=
  if (outer.isNone || inner.isNone) && fallback = some "" then .error .usage
  else .ok (inner <|> outer <|> fallback)

/-- What the word `help` asks for with the arguments behind it, which name at most one topic: a
command or `help` itself. -/
def helpOn (topics : List String) : Interruption :=
  match topics with
  | [] => .help
  | [topic] => if topic = "help" ∨ (Command.ofName? topic).isSome then .help else .usage
  | _ => .usage

/-- What the arguments ask for, in an environment of variables. The outer words that are not settled
come behind those of the command, so that a command may ask for its version first. -/
def ofArguments (environment : String → Option String) (arguments : List String) :
    Except Interruption Invocation := do
  let (outerWords, left) := words none arguments
  let (early, late) := settled outerWords
  let outer ← Arguments.acceptAll none {} early
  match left with
  | [] => .error .usage
  | name :: others =>
    if name = "help" then .error (helpOn others)
    let some command := Command.ofName? name | .error .usage
    let inner ← Arguments.acceptAll (some command) {} (words (some command) others).1
    let outer ← outer.acceptAll none late
    return {
      verbose := ← mergeFlag outer.verbose inner.verbose (environment "CSCAN_VERBOSE")
      noColor := ← mergeFlag outer.noColor inner.noColor (environment "CSCAN_NO_COLOR")
      config? := ← mergePath outer.config? inner.config? (environment "CSCAN_CONFIG")
      command := command
      options := inner.options
      files := inner.files }

end Invocation

end TokenScan.CommandLine
