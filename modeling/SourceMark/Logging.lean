import SourceMark.Text.Blank

/-!
# Settings of the diagnostic log
-/

namespace SourceMark

/-- How a log line is written. -/
inductive LogFormat where
  | text
  | json
deriving Repr, DecidableEq

namespace LogFormat

/-- The name of a format. -/
def name : LogFormat → String
  | text => "text"
  | json => "json"

/-- Read a format's name in any case; an unknown name is given back in lower
case. -/
def ofName? (value : String) : Except String LogFormat :=
  let lowered := Text.lowerString value
  if lowered = "text" then .ok text
  else if lowered = "json" then .ok json
  else .error lowered

/-- What is said of an unknown format. -/
def unknownMessage (lowered : String) : String :=
  "Unknown log format: " ++ lowered ++ ". Supported formats: text, json"

end LogFormat

/-- Where and how diagnostics are written. -/
structure LogSettings where
  level : String
  file : Option String
  console : Bool
  format : LogFormat
deriving Repr, DecidableEq

namespace LogSettings

/-- The plain level names. -/
def levels : List String := ["error", "warn", "info", "debug", "trace"]

/-- Whether a level is one of the plain level names, in any case. -/
def isKnownLevel (level : String) : Bool :=
  levels.contains (Text.lowerString level)

/-- Take over a level when one is given. -/
def withLevel (settings : LogSettings) : Option String → LogSettings
  | some level => { settings with level }
  | none => settings

/-- Take over a log file when one is given. -/
def withFile (settings : LogSettings) : Option String → LogSettings
  | some file => { settings with file := some file }
  | none => settings

/-- Take over a format. -/
def withFormat (settings : LogSettings) (format : LogFormat) : LogSettings :=
  { settings with format }

/-- Do not write to the console. -/
def withoutConsole (settings : LogSettings) : LogSettings :=
  { settings with console := false }

end LogSettings

end SourceMark
