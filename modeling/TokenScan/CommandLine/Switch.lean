/-!
# Commands and options

The names that the command line knows: the commands, and the options of its two layers. The outer
layer, in front of a command, has the general options; a command has these and options of its own.
A layer is named by its command, and the outer one by `none`.

Every option has a long name, and some have a letter. A flag says something by being there, and a
parameter has a value.
-/

namespace TokenScan.CommandLine

/-- What the program can be told to do. -/
inductive Command where
  /-- To scan files. -/
  | lex
  /-- To scan the sample program. -/
  | demo
deriving DecidableEq

/-- The name of a command. -/
def Command.name : Command → String
  | .lex => "lex"
  | .demo => "demo"

/-- The command with a name. -/
def Command.ofName? (name : String) : Option Command :=
  [Command.lex, Command.demo].find? (·.name = name)

/-- An option without a value. -/
inductive Flag where
  /-- To log details. -/
  | verbose
  /-- To log without colors. -/
  | noColor
  /-- To name the version. -/
  | version
  /-- To explain the usage. -/
  | help
  /-- To make any diagnostic an error. -/
  | strict
  /-- Not to print diagnostics. -/
  | noDiagnostics
deriving DecidableEq

/-- An option with a value. -/
inductive Parameter where
  /-- The path of the configuration file. -/
  | config
  /-- The name of the output format. -/
  | format
  /-- The code of a diagnostic to drop. -/
  | allow
deriving DecidableEq

/-- An option. -/
inductive Switch where
  /-- One without a value. -/
  | flag (flag : Flag)
  /-- One with a value. -/
  | parameter (parameter : Parameter)
deriving DecidableEq

namespace Switch

/-- The long names of the options that every layer has. -/
def general : List (String × Switch) :=
  [("verbose", .flag .verbose), ("config", .parameter .config), ("no-color", .flag .noColor),
    ("version", .flag .version), ("help", .flag .help)]

/-- The long names of the options that only commands have. -/
def special : List (String × Switch) :=
  [("format", .parameter .format), ("strict", .flag .strict),
    ("no-diagnostics", .flag .noDiagnostics), ("allow", .parameter .allow)]

/-- The letters of options. -/
def letters : List (Char × Switch) :=
  [('v', .flag .verbose), ('c', .parameter .config), ('V', .flag .version), ('h', .flag .help),
    ('F', .parameter .format), ('A', .parameter .allow)]

/-- The options of a layer, by their long names: that of a command, or the outer one. -/
def available (layer : Option Command) : List (String × Switch) :=
  match layer with
  | some _ => general ++ special
  | none => general

/-- The option of a layer with a long name. -/
def ofName? (layer : Option Command) (name : String) : Option Switch :=
  (available layer).lookup name

/-- The option of a layer with a letter. -/
def ofLetter? (layer : Option Command) (letter : Char) : Option Switch := do
  let switch ← letters.lookup letter
  guard ((available layer).any fun (_, other) => other = switch)
  return switch

end Switch

end TokenScan.CommandLine
