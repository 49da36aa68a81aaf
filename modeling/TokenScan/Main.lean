import TokenScan.Program

/-!
# The executable

Performs what `Program.start` says: replies to its requests one after the other, and writes the
result. Nothing is read that it does not ask for, and not before it does.
-/

namespace TokenScan.Main

open CommandLine

/-- What an error of the system means here. -/
def systemError : IO.Error → SystemError
  | .noFileOrDirectory .. => .notFound
  | .inappropriateType none .. => .isADirectory
  | .inappropriateType (some _) .. => .notADirectory
  | error => .described (toString error)

/-- The text that some reading gives, or the error in it. -/
def textOf (reading : IO ByteArray) : IO (Except SystemError String) := do
  try
    return Host.decode (← reading)
  catch error => return .error (systemError error)

/-- The text of the file at a path. -/
def readFile (path : String) : IO (Except SystemError String) := textOf (IO.FS.readBinFile path)

/-- The reply of the system to a request. What cannot be read for other reasons is still there. -/
def reply : (request : Request) → IO request.Reply
  | .isThere path => do
    match ← readFile path with
    | .error .notFound | .error .notADirectory => return false
    | _ => return true
  | .file path => readFile path
  | .standardInput => textOf do (← IO.getStdin).readBinToEnd

/-- Performs a run: every request is made when the run comes to it. -/
def perform {α : Type} : Inquiry α → IO α
  | .done value => return value
  | .ask request next => do perform (next (← reply request))

/-- The variables that a run may look at. -/
def variableNames : List String :=
  ["CSCAN_VERBOSE", "CSCAN_NO_COLOR", "CSCAN_CONFIG", "HOME", "XDG_CONFIG_HOME"]

/-- The environment variables of the system. -/
def environment : IO (String → Option String) := do
  let bindings ← variableNames.mapM fun name => return (name, ← IO.getEnv name)
  return fun name => (bindings.lookup name).join

/-- Writes what a run writes. -/
def emit (colors : Bool) : Emission → IO Unit
  | .output report => IO.print (Chunk.join report)
  | .diagnostics report => IO.eprint (Chunk.join report)
  | .log entry => IO.eprintln (if colors then entry.coloredText else entry.text)

/-- How the program is used. -/
def usage : String := "Usage: cscan [OPTIONS] <lex [FILES] | demo> [OPTIONS]\n"

/-- Writes the result of a run and returns its exit status. -/
def conclude : Program.Answer → IO UInt32
  | .interrupted .usage => do
    IO.eprint usage
    return 2
  | .interrupted .help => do
    IO.print usage
    return 0
  | .interrupted (.version layer) => do
    IO.print (Program.versionLine layer)
    return 0
  | .finished colors outcome => do
    outcome.emissions.forM (emit colors)
    match outcome.failure? with
    | some failure => IO.eprint (Program.errorLine failure)
    | none => pure ()
    return outcome.status.toUInt32

end TokenScan.Main

/-- Runs the program. -/
def main (arguments : List String) : IO UInt32 := do
  let environment ← TokenScan.Main.environment
  TokenScan.Main.conclude (← TokenScan.Main.perform (TokenScan.Program.start environment arguments))
