import SourceMark.Files.Disk
import SourceMark.Logging
import SourceMark.Regex.Reach
import SourceMark.Regex.Reader
import SourceMark.Script.Selection
import SourceMark.Text.Blank
import SourceMark.Text.Search

/-!
# The configuration of a project

A configuration says in which environments files are marked, which files those
are, and how.  It is checked as a whole before it is used; the first thing that
is wrong with it is reported.
-/

namespace SourceMark

/-!
## Patterns for files

A pattern picks files by their names, either by a part that the name contains
or by a regular expression that is found somewhere in it.
-/

/-- A pattern as it is configured. -/
inductive Pattern where
  | part (text : String)
  | regex (source : String)
deriving Repr, DecidableEq

/-- A pattern whose expression has been read. -/
inductive Matcher where
  | part (text : String)
  | regex (expression : Regex)

namespace Matcher

/-- Whether a name is picked. -/
def accepts (name : String) : Matcher → Bool
  | part text => Text.contains name text
  | regex expression => expression.isMatch name.toList

/-- Whether any of the patterns picks a name. -/
def anyAccepts (matchers : List Matcher) (name : String) : Bool :=
  matchers.any (accepts name)

end Matcher

namespace Pattern

/-- The matcher of a pattern, unless its expression cannot be read. -/
def matcher? : Pattern → Option Matcher
  | part text => some (.part text)
  | regex source => (Regex.read? source.toList).map Matcher.regex

/-- What the pattern was written as. -/
def source : Pattern → String
  | part text => text
  | regex source => source

end Pattern

/-! ## Settings -/

/-- What is configured about scripts. -/
structure ScriptSection where
  mode : Script.Mode
  /-- The project below which file paths are written. -/
  project : Option String
  filter : Script.SplitFilter
deriving Repr, DecidableEq

/-- What is configured about the log. -/
structure LogSection where
  level : Option String
  file : Option String
  format : LogFormat
deriving Repr, DecidableEq

/-- The configuration of a project. -/
structure Configuration where
  /-- The environments in which files are marked. -/
  environments : List String
  /-- Tags and components that must not be marked. -/
  ignored : List String
  /-- A file is marked when one of these picks it, -/
  included : List Pattern
  /-- and none of these does. -/
  excluded : List Pattern
  vue : Bool
  angular : Bool
  script : ScriptSection
  /-- Where a marked tree is put when nothing else is said. -/
  output : Option String
  log : LogSection
deriving Repr, DecidableEq

namespace Configuration

/-- The configuration of a project that configures nothing. -/
def standard : Configuration where
  environments := ["development"]
  ignored := []
  included :=
    [.regex "\\.[jt]sx?$", .regex "\\.vue$", .regex "\\.component\\.html$"]
  excluded :=
    [.regex "node_modules", .regex "\\.next", .regex "\\.nuxt",
      .regex "\\.output"]
  vue := true
  angular := true
  script := { mode := .path, project := none, filter := .all }
  output := none
  log := { level := none, file := none, format := .text }

/-- The two lists of patterns. -/
inductive PatternList where
  | included
  | excluded
deriving Repr, DecidableEq

/-- The name of a list of patterns. -/
def PatternList.name : PatternList → String
  | included => "include"
  | excluded => "exclude"

/-- What is wrong with a configuration. -/
inductive Fault where
  | unreadable (path : String) (fault : Files.Fault)
  /-- The text is not of the form of a configuration. -/
  | malformed (path : String)
  | noEnvironments
  | namelessEnvironment
  | nothingIncluded
  | unreadablePattern (source : String)
  | unreadableEntry (patterns : PatternList) (position : Nat) (source : String)
  | noSuchProject (path : String)
  | unknownLevel (level : String)
deriving Repr, DecidableEq

namespace Fault

/-- What is said of a pattern whose expression cannot be read. -/
def patternMessage (source : String) : String :=
  "Invalid pattern regex: " ++ source

/-- What is said of a fault, from the outermost reason to the innermost. -/
def reasons : Fault → List String
  | unreadable path fault =>
      ["Failed to read config file: " ++ path, fault.message]
  | malformed path => ["Failed to parse config file: " ++ path]
  | noEnvironments => ["environments cannot be empty"]
  | namelessEnvironment => ["environments cannot contain empty names"]
  | nothingIncluded => ["At least one include pattern must be configured"]
  | unreadablePattern source => [patternMessage source]
  | unreadableEntry patterns position source =>
      [patterns.name ++ "[" ++ Text.numeral position ++ "] is invalid",
        patternMessage source]
  | noSuchProject path => ["jsx.cwd must be an existing directory: " ++ path]
  | unknownLevel level =>
      ["Unknown log level: " ++ level ++ ". Supported levels: " ++
        String.intercalate ", " LogSettings.levels]

end Fault

/-- The matchers of patterns, unless one of them cannot be read. -/
def matchers (patterns : List Pattern) : Except Fault (List Matcher) :=
  patterns.mapM fun pattern =>
    match pattern.matcher? with
    | some matcher => .ok matcher
    | none => .error (.unreadablePattern pattern.source)

/-- Find the first pattern that cannot be read. -/
def checkPatterns (list : PatternList) (patterns : List Pattern) :
    Except Fault Unit :=
  match patterns.findIdx? fun pattern => pattern.matcher?.isNone with
  | some position =>
      .error (.unreadableEntry list position
        ((patterns[position]?.map Pattern.source).getD ""))
  | none => .ok ()

/-- Check a configuration; `isDirectory` says which paths lead to
directories. -/
def check (isDirectory : String → Bool) (configuration : Configuration) :
    Except Fault Unit := do
  if configuration.environments.isEmpty then
    throw .noEnvironments
  if configuration.environments.any fun name => Text.isBlankText name.toList then
    throw .namelessEnvironment
  if configuration.included.isEmpty then
    throw .nothingIncluded
  checkPatterns .included configuration.included
  checkPatterns .excluded configuration.excluded
  if let some project := configuration.script.project then
    if !isDirectory project then
      throw (.noSuchProject project)
  if let some level := configuration.log.level then
    if !LogSettings.isKnownLevel level then
      throw (.unknownLevel level)

/-- The configuration with its paths below a base. -/
def below (base : String) (configuration : Configuration) : Configuration :=
  let place := Option.map (Files.Path.join base)
  { configuration with
    script := { configuration.script with
      project := place configuration.script.project }
    output := place configuration.output
    log := { configuration.log with file := place configuration.log.file } }

end Configuration

end SourceMark
