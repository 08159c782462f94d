import SourceMark.Configuration
import SourceMark.Metadata.Written
import SourceMark.Toml.Reader

/-!
# Reading a configuration

A configuration is written as a record of sections.  What is missing keeps its
standard value, and unknown fields are skipped.  JSON and TOML differ slightly
in what else stands for a section or a name.
-/

namespace SourceMark

/-- What two formats of records differ in. -/
structure RecordFormat where
  /-- Whether a list that stands for a record may have further items. -/
  skipsFurtherItems : Bool
  /-- A value that says no more than the name of its field. -/
  isVacant : Json → Bool

namespace RecordFormat

/-- Records of JSON. -/
def json : RecordFormat where
  skipsFurtherItems := false
  isVacant := Json.isNull

/-- Records of TOML. -/
def toml : RecordFormat where
  skipsFurtherItems := true
  isVacant := fun
    | .record [] => true
    | .list [] => true
    | _ => false

/-- The values of the fields of a section.  A list gives the first ones of them
in order. -/
def fields? (format : RecordFormat) (names : List String) (value : Json) :
    Option (List (Option Json)) :=
  match value with
  | .list items =>
      if items.length ≤ names.length || format.skipsFurtherItems then
        some (names.zipIdx.map fun field => items[field.2]?)
      else
        none
  | .record _ => value.members? names
  | _ => none

/-- Read one of several names: a text, or a record of one vacant field. -/
def choice? {α : Type} (format : RecordFormat) (ofName : String → Option α) :
    Json → Option α
  | .string name => ofName name
  | .record [(name, value)] =>
      if format.isVacant value then ofName name else none
  | _ => none

end RecordFormat

namespace Json

/-- A field that keeps a standard value when it is missing. -/
def withStandard {α : Type} (standard : α) (read : Json → Option α) :
    Option Json → Option α
  | some value => read value
  | none => some standard

end Json

/-- Read a pattern: a text, or a record with an expression. -/
def Pattern.ofJson? : Json → Option Pattern
  | .string text => some (.part text)
  | .record fields =>
      match (Json.record fields).members? ["regex"] with
      | some [some (.string source)] => some (.regex source)
      | _ => none
  | _ => none

/-- The format with exactly that name. -/
def LogFormat.named? (name : String) : Option LogFormat :=
  [LogFormat.text, LogFormat.json].find? fun format => format.name == name

namespace LogSection

/-- Read the section about the log. -/
def ofJson? (format : RecordFormat) (value : Json) : Option LogSection :=
  match format.fields? ["level", "file", "format"] value with
  | some [level, file, logFormat] => do
      some {
        level := ← Json.optional Json.text? level
        file := ← Json.optional Json.text? file
        format := ← Json.withStandard .text
          (format.choice? LogFormat.named?) logFormat }
  | _ => none

end LogSection

namespace ScriptSection

/-- The names of the fields of the section about scripts. -/
def fieldNames : List String :=
  ["mode", "cwd", "include_elements", "exclude_elements",
    "max_elements_per_file"]

/-- Read the section about scripts, which must be a record. -/
def ofJson? (format : RecordFormat) (value : Json) : Option ScriptSection :=
  match value.record?.bind fun _ => value.members? fieldNames with
  | some [mode, project, included, excluded, limit] => do
      some {
        mode := ← Json.withStandard .path
          (format.choice? Script.Mode.ofName?) mode
        project := ← Json.optional Json.text? project
        filter := {
          included := ← Json.optional (Json.listOf Json.text?) included
          excluded := ← Json.optional (Json.listOf Json.text?) excluded
          limit := ← Json.optional Json.natural? limit } }
  | _ => none

end ScriptSection

namespace Configuration

/-- The names of the fields of a configuration. -/
def fieldNames : List String :=
  ["environments", "ignore_component_names", "include", "exclude", "vue",
    "angular", "jsx", "output", "logging"]

/-- Read the section about the output. -/
def outputOfJson? (format : RecordFormat) (value : Json) :
    Option (Option String) :=
  match format.fields? ["dir"] value with
  | some [directory] => Json.optional Json.text? directory
  | _ => none

/-- Read a configuration from its record. -/
def ofJson? (format : RecordFormat) (value : Json) : Option Configuration :=
  match format.fields? fieldNames value with
  | some [environments, ignored, included, excluded, vue, angular, script,
      output, log] => do
      some {
        environments := ← Json.withStandard standard.environments
          (Json.listOf Json.text?) environments
        ignored := ← Json.withStandard standard.ignored
          (Json.listOf Json.text?) ignored
        included := ← Json.withStandard standard.included
          (Json.listOf Pattern.ofJson?) included
        excluded := ← Json.withStandard standard.excluded
          (Json.listOf Pattern.ofJson?) excluded
        vue := ← Json.withStandard standard.vue Json.boolean? vue
        angular := ← Json.withStandard standard.angular Json.boolean? angular
        script := ← Json.withStandard standard.script
          (ScriptSection.ofJson? format) script
        output := ← Json.withStandard standard.output
          (outputOfJson? format) output
        log := ← Json.withStandard standard.log (LogSection.ofJson? format) log }
  | _ => none

/-- Read a configuration from its text. -/
def ofText? (text : String) : Option Configuration :=
  (Toml.read? text).bind (ofJson? .toml)

/-- Load a configuration from a disk.  Its paths are taken to start at the base,
or else at the directory of its file. -/
def load (disk : Files.Disk) (path : String) (base : Option String) :
    Except Fault Configuration := do
  match disk.readText path with
  | .error fault => throw (.unreadable path fault)
  | .ok text =>
      match ofText? text with
      | none => throw (.malformed path)
      | some configuration =>
          let parent := (Files.Path.parent? path).getD "."
          let placed := configuration.below (base.getD parent)
          placed.check disk.hasDirectory
          return placed

/-- Load a configuration if its file is there; otherwise all is standard. -/
def loadOrStandard (disk : Files.Disk) (path : String) :
    Except Fault Configuration :=
  if disk.hasPath path then load disk path none else .ok standard

end Configuration

end SourceMark
