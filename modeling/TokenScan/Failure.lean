import TokenScan.Scan

/-!
# Why a run fails

Everything that can end a run before its work is done, as causes: the errors of the system, the
errors of the configuration, and over both of them `Failure`, which is what a run reports. Each
type has one function `message` that words its causes.

A failure that merely passes on another error has that error as its `Failure.source?`.
-/

namespace TokenScan

/-- An error of the system underneath: reading, writing, finding files. -/
inductive SystemError where
  /-- There is no such file. -/
  | notFound
  /-- A name in the middle of a path is not a directory. -/
  | notADirectory
  /-- A directory cannot be read as text. -/
  | isADirectory
  /-- A path, or a name in it, is too long. -/
  | nameTooLong
  /-- The bytes are not a text. -/
  | invalidUtf8
  /-- The receiver takes no more bytes. -/
  | writeZero
  /-- Any other error, in the words of the system. -/
  | described (text : String)
deriving DecidableEq

/-- The text of a system error. -/
def SystemError.message : SystemError → String
  | .notFound => "No such file or directory (os error 2)"
  | .notADirectory => "Not a directory (os error 20)"
  | .isADirectory => "Is a directory (os error 21)"
  | .nameTooLong => "File name too long (os error 36)"
  | .invalidUtf8 => "stream did not contain valid UTF-8"
  | .writeZero => "failed to write whole buffer"
  | .described text => text

/-- An error in what the user asked for, by options or by configuration file. -/
inductive ConfigError where
  /-- The options name a format that does not exist. -/
  | unknownFormat (name : String)
  /-- The configuration names a format that does not exist. -/
  | invalidFormat (name : String)
  /-- An entry of an allow list is not a diagnostic code. -/
  | invalidCode (cause : CodeError)
  /-- The configuration file that was asked for does not exist. -/
  | notFound (path : String)
  /-- The configuration file cannot be read. -/
  | unreadable (path : String) (cause : SystemError)
  /-- The configuration file is not well formed, or a setting in it has the wrong type. -/
  | malformed (path : String)
  /-- Any other error, in its own words. -/
  | described (text : String)
deriving DecidableEq

/-- The text of a configuration error. -/
def ConfigError.message : ConfigError → String
  | .unknownFormat name => "Unknown output format: " ++ name
  | .invalidFormat name => "Invalid format in configuration: " ++ name
  | .invalidCode cause => cause.message
  | .notFound path => "Configuration file not found: " ++ path
  | .unreadable path cause => "Failed to read " ++ path ++ ": " ++ cause.message
  | .malformed path => "Failed to parse " ++ path
  | .described text => text

/-- Why a run failed. -/
inductive Failure where
  /-- The configuration or the options are wrong. -/
  | config (cause : ConfigError)
  /-- An input file cannot be read. -/
  | read (path : String) (cause : SystemError)
  /-- A standard stream failed. -/
  | io (cause : SystemError)
  /-- A JSON document could not be written. -/
  | json (cause : SystemError)
  /-- Strict mode found diagnostics. -/
  | lex (cause : LexError)
  /-- The log could not be opened. -/
  | logging (text : String)
deriving DecidableEq

namespace Failure

/-- The text of a failure. -/
def message : Failure → String
  | .config cause => "Configuration error: " ++ cause.message
  | .read path cause => "Failed to read " ++ path ++ ": " ++ cause.message
  | .io cause => "IO error: " ++ cause.message
  | .json cause => "JSON error: " ++ cause.message
  | .lex cause => "Lexing failed: " ++ cause.message
  | .logging text => "Failed to initialize logging: " ++ text

/-- The text of the error that a failure passes on, if it does. -/
def source? : Failure → Option String
  | .read _ cause => some cause.message
  | .io cause => some cause.message
  | .json cause => some cause.message
  | .lex cause => some cause.message
  | .config _ => none
  | .logging _ => none

end Failure

end TokenScan
