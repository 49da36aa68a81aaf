import TokenScan.CommandLine.Invocation
import TokenScan.Outcome
import TokenScan.Settings.ConfigFile

/-!
# The program

What a run does with its arguments, as an `Inquiry`: what it asks its surroundings for, and what it
writes in the end.

Everything is read before anything is written, and a wrong setting is found before any input is
asked for. So a run that fails for the settings or an input writes no report at all, not even on the
inputs that could be read.

## Main definitions

* `Program.scanAndPrint` — the reports about inputs that have been read
* `Program.lex`, `Program.demo` — the two commands
* `Program.start`, `Program.run` — a run of the program, and what comes of it
-/

namespace TokenScan.Program

open CommandLine

/-! ### Reading -/

/-- The name of the standard input in reports. -/
def standardInputLabel : String := "<stdin>"

/-- Reads the input that an argument names. A lone hyphen is the standard input. -/
def readInput (argument : String) : Inquiry (Except Failure Input) := do
  if argument = "-" then
    match ← Inquiry.standardInput with
    | .ok source => return .ok ⟨standardInputLabel, source⟩
    | .error cause => return .error (.io cause)
  else
    match ← Inquiry.file argument with
    | .ok source => return .ok ⟨argument, source⟩
    | .error cause => return .error (.read argument cause)

/-- Reads inputs in order, up to the first that cannot be read. -/
def readAll : List String → Inquiry (Except Failure (List Input))
  | [] => return .ok []
  | argument :: arguments => do
    match ← readInput argument with
    | .ok input =>
      let others ← readAll arguments
      return others.map (input :: ·)
    | .error failure => return .error failure

/-- The arguments that name the inputs. If there are none, there is the standard input. -/
def inputArguments (files : List String) : List String := if files = [] then ["-"] else files

/-! ### Scanning -/

/-- What the log says about scanning an input: what was found, and what is left of it without the
diagnostics that are allowed. -/
def scanEntries (found left : Scanned) : List LogEntry :=
  [⟨.debug, "scan finished", [
      ("tokens", Text.decimal found.scan.tokens.length),
      ("diagnostics", Text.decimal found.scan.diagnostics.length),
      ("bytes", Text.decimal found.input.source.utf8ByteSize)]⟩,
    ⟨.debug, "scanned input", [
      ("file", left.input.label),
      ("tokens", Text.decimal left.scan.tokens.length),
      ("diagnostics", Text.decimal left.scan.diagnostics.length)]⟩]

/-- The first input that strict mode rejects, and why. -/
def rejected? (items : List Scanned) : Option (Input × LexError) :=
  items.findSome? fun item =>
    match item.scan.strict with
    | .ok _ => none
    | .error cause => some (item.input, cause)

/-- Scans inputs and writes the reports about them. In strict mode the first input that still has
diagnostics is then an error. -/
def scanAndPrint (inputs : List Input) (settings : Settings) : Outcome :=
  let found := inputs.map Scanned.ofInput
  let items := found.map (Scanned.allow settings.allow)
  let entries := found.flatMap fun item => scanEntries item (item.allow settings.allow)
  let reports := .output (Report.tokens settings.format items) ::
    if settings.showDiagnostics then [.diagnostics (Report.diagnostics items)] else []
  match if settings.strict then rejected? items else none with
  | none => ⟨entries.map .log ++ reports, none⟩
  | some (input, cause) =>
    let entry : LogEntry := ⟨.debug, "strict mode rejected input", [("file", input.label)]⟩
    ⟨entries.map .log ++ reports ++ [.log entry], some (.lex cause)⟩

/-! ### Commands -/

/-- The command that scans files. -/
def lex (files : List String) (options : OutputOptions) (config : Config) : Inquiry Outcome := do
  match Settings.resolve options config with
  | .error cause => return .failed (.config cause)
  | .ok settings =>
    match ← readAll (inputArguments files) with
    | .error failure => return .failed failure
    | .ok inputs =>
      let entry : LogEntry := ⟨.info, "lexing", [("inputs", Text.decimal inputs.length)]⟩
      let outcome := scanAndPrint inputs settings
      return { outcome with emissions := .log entry :: outcome.emissions }

/-- The sample program. -/
def sample : Input where
  label := "demo.c"
  source := "int main() \x7b
    // Comment
    int x = 10;
    float y = 20.5;
    printf(\"Hello, World!\");
    return 0;
\x7d
"

/-- The command that scans the sample program. -/
def demo (options : OutputOptions) (config : Config) : Outcome :=
  match Settings.resolve options config with
  | .error cause => .failed (.config cause)
  | .ok settings => scanAndPrint [sample] settings

/-! ### Running -/

/-- What comes of a run, or why there is none. -/
inductive Answer where
  /-- The arguments do not lead to a run. -/
  | interrupted (cause : Interruption)
  /-- There is a run, which has colors in its log or not. -/
  | finished (colors : Bool) (outcome : Outcome)

/-- Does what is asked for. -/
def perform (environment : String → Option String) (invocation : Invocation) : Inquiry Outcome := do
  match ← Config.load environment invocation.config? with
  | .error cause => return .failed (.config cause)
  | .ok config =>
    let outcome ←
      match invocation.command with
      | .lex => lex invocation.files invocation.options config
      | .demo => pure (demo invocation.options config)
    return outcome.showing (invocation.verbose || config.verbose)

/-- A run of the program with arguments, before anything has been asked. -/
def start (environment : String → Option String) (arguments : List String) : Inquiry Answer := do
  match Invocation.ofArguments environment arguments with
  | .error cause => return .interrupted cause
  | .ok invocation =>
    let outcome ← perform environment invocation
    return .finished (!invocation.noColor) outcome

/-- A run of the program with arguments, in given surroundings. -/
def run (host : Host) (arguments : List String) : Answer :=
  ((start host.environment arguments).run host).1

/-- The line that names the version of the program, or of a command. -/
def versionLine (layer : Option Command) : String :=
  let command :=
    match layer with
    | some command => "-" ++ command.name
    | none => ""
  "cscan" ++ command ++ " 0.1.0\n"

/-- The line that reports a failure. -/
def errorLine (failure : Failure) : String := "error: " ++ failure.message ++ "\n"

end TokenScan.Program
