/-!
# The log

What a run says about itself while it works: entries of two levels, each with a message and named
fields. Details are only shown to those who ask for them.
-/

namespace TokenScan

/-- How important an entry of the log is. -/
inductive LogLevel where
  /-- A detail. -/
  | debug
  /-- What a run is about to do. -/
  | info
deriving DecidableEq

namespace LogLevel

/-- The name of a level. -/
def name : LogLevel → String
  | .debug => "DEBUG"
  | .info => "INFO"

/-- The terminal sequence that begins the color of a level. -/
def color : LogLevel → String
  | .debug => "\x1b[34m"
  | .info => "\x1b[32m"

end LogLevel

/-- An entry of the log. -/
structure LogEntry where
  /-- Its level. -/
  level : LogLevel
  /-- What happened. -/
  message : String
  /-- The particulars, by name. -/
  fields : List (String × String)
deriving DecidableEq

namespace LogEntry

/-- The message and the fields of an entry. -/
def particulars (entry : LogEntry) : String :=
  " ".intercalate (entry.message :: entry.fields.map fun (name, value) => name ++ "=" ++ value)

/-- An entry as a line without its end. -/
def text (entry : LogEntry) : String := entry.level.name ++ " " ++ entry.particulars

/-- The same for a terminal, with the level in color. -/
def coloredText (entry : LogEntry) : String :=
  entry.level.color ++ entry.level.name ++ "\x1b[0m" ++ " " ++ entry.particulars

/-- Whether an entry is shown to those who ask for details, or do not. -/
def isShown (verbose : Bool) (entry : LogEntry) : Bool := verbose || entry.level = .info

end LogEntry

end TokenScan
