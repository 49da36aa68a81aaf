import TokenScan.CommandLine.Switch

/-!
# The words of the command line

An argument with two hyphens in front is an option by its long name, one with a single hyphen is a
cluster of options by their letters. A parameter takes its value from its own argument, behind an
equals sign or directly behind the letter, or else from the next argument, which must not look like
an option. A lone hyphen is an operand, and behind a double hyphen all arguments are operands.

Cutting arguments into words never fails: what makes no sense becomes the word `Word.refused`.

A value that is an argument of its own is looked at when the next word of its layer comes, or when
the command line ends. So the last word of the outer layer may still be open while a command has its
turn, and `settled` tells such a word from those in front of it.

## Main definitions

* `Word` — a unit of the command line
* `words` — the words of a layer, and the arguments that are left for the next one
* `settled` — the words of a layer that are looked at before the next one
-/

namespace TokenScan.CommandLine

/-- A unit of the command line. -/
inductive Word where
  /-- An option without a value. -/
  | flag (flag : Flag)
  /-- An option and its value, which is part of the same argument or an argument apart. -/
  | parameter (parameter : Parameter) (value : String) (apart : Bool)
  /-- Anything else: the name of a command or of a file. -/
  | operand (text : String)
  /-- An argument that makes no sense. -/
  | refused
deriving DecidableEq

/-- The words of an argument behind two hyphens: a long name, and a value if an equals sign follows.
A parameter that still needs its value is returned by itself. -/
def longWords (layer : Option Command) (text : List Char) : List Word × Option Parameter :=
  let name := text.takeWhile (· != '=')
  match Switch.ofName? layer (String.ofList name), text.drop name.length with
  | some (.flag flag), [] => ([.flag flag], none)
  | some (.parameter parameter), [] => ([], some parameter)
  | some (.parameter parameter), _ :: value =>
    ([.parameter parameter (String.ofList value) false], none)
  | _, _ => ([.refused], none)

/-- The words of an argument behind one hyphen: letters, and the value of the last of them if text
follows. A parameter that still needs its value is returned by itself. -/
def clusterWords (layer : Option Command) : List Char → List Word × Option Parameter
  | [] => ([], none)
  | letter :: rest =>
    match Switch.ofLetter? layer letter with
    | some (.flag flag) =>
      let (later, pending) := clusterWords layer rest
      (.flag flag :: later, pending)
    | some (.parameter parameter) =>
      match rest with
      | [] => ([], some parameter)
      | '=' :: value => ([.parameter parameter (String.ofList value) false], none)
      | value => ([.parameter parameter (String.ofList value) false], none)
    | none => ([.refused], none)

/-- Whether an argument begins with a hyphen and does not consist of it. -/
def isOption (argument : String) : Bool :=
  match argument.toList with
  | '-' :: _ :: _ => true
  | _ => false

/-- The words of an argument that begins with a hyphen. -/
def optionWords (layer : Option Command) (argument : String) : List Word × Option Parameter :=
  match argument.toList with
  | '-' :: '-' :: name => longWords layer name
  | '-' :: letters => clusterWords layer letters
  | _ => ([.refused], none)

/-- The words of a layer, and the arguments that are left for the next one. The outer layer ends
before its first operand, and that of a command with the last argument. -/
def words (layer : Option Command) : List String → List Word × List String
  | [] => ([], [])
  | argument :: arguments =>
    if argument = "--" then
      match layer with
      | some _ => (arguments.map .operand, [])
      | none => ([.refused], [])
    else if isOption argument then
      match optionWords layer argument with
      | (found, none) =>
        let (later, left) := words layer arguments
        (found ++ later, left)
      | (found, some parameter) =>
        match arguments with
        | [] => (found ++ [.refused], [])
        | value :: others =>
          if isOption value then (found ++ [.refused], [])
          else
            let (later, left) := words layer others
            (found ++ .parameter parameter value true :: later, left)
    else
      match layer with
      | some _ =>
        let (later, left) := words layer arguments
        (.operand argument :: later, left)
      | none => ([], argument :: arguments)

/-- The words of a layer that are looked at before the next layer, and the last word if its value is
an argument apart: the next layer has its turn first. -/
def settled (words : List Word) : List Word × List Word :=
  match words.getLast? with
  | some (.parameter parameter value true) =>
    (words.dropLast, [.parameter parameter value true])
  | _ => (words, [])

end TokenScan.CommandLine
