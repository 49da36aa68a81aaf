import TokenScan.Host
import TokenScan.Settings.ConfigText

/-!
# The configuration file

Where the configuration of a run comes from: the file that the user names, or else the first that
exists of three places, the working directory, the home directory and the directory for settings.
A named file must exist, while a run without any file has the default configuration.
-/

namespace TokenScan

namespace Config

/-- The name of a configuration file. -/
def fileName : String := "cscan.toml"

/-- The path of something in a directory. -/
def inside (directory name : String) : String :=
  if directory.endsWith "/" then directory ++ name else directory ++ "/" ++ name

section

variable (environment : String → Option String)

/-- The home directory of the user. -/
def homeDirectory? : Option String := (environment "HOME").filter (· ≠ "")

/-- The directory for the settings of the user. -/
def settingsDirectory? : Option String :=
  (environment "XDG_CONFIG_HOME").filter (·.startsWith "/") <|>
    (homeDirectory? environment).map (inside · ".config")

/-- The paths at which a configuration file is looked for, in order. -/
def places : List String :=
  let home := (homeDirectory? environment).map (inside · ".config")
  let below := home.toList ++ (settingsDirectory? environment).toList
  fileName :: below.map fun directory => inside (inside directory "cscan") fileName

end

/-- The first of some paths at which there is something. -/
def firstThere : List String → Inquiry (Option String)
  | [] => return none
  | path :: paths => do
    if ← Inquiry.isThere path then return some path
    else firstThere paths

/-- The configuration in the file at a path. -/
def loadFrom (path : String) : Inquiry (Except ConfigError Config) := do
  if ← Inquiry.isThere path then
    match ← Inquiry.file path with
    | .ok text =>
      match ofText? text with
      | some config => return .ok config
      | none => return .error (.malformed path)
    | .error cause => return .error (.unreadable path cause)
  else return .error (.notFound path)

/-- The configuration of a run, from a named file or from the first place that has one. -/
def load (environment : String → Option String) (named : Option String) :
    Inquiry (Except ConfigError Config) := do
  let path? ←
    match named with
    | some path => pure (some path)
    | none => firstThere (places environment)
  match path? with
  | some path => loadFrom path
  | none => return .ok {}

end Config

end TokenScan
