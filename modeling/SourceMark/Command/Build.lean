import SourceMark.Command
import SourceMark.Configuration.Reader
import SourceMark.Hook
import SourceMark.Json.Printer

/-!
# Marking a tree of files

A build takes every file below the source directory to the same place below the
output directory, marked where the hook marks it and unchanged otherwise, and
leaves a manifest there of what became of each file.  Files below the output
directory are not taken, as far as its path is spelled like theirs.
-/

namespace SourceMark

namespace Command

/-!
## Marking one file

The hook that a command works with, and the command that marks a single file.
-/

/-- The configuration and the hook of a command. -/
def prepare (setup : Setup) (environment : Environment) :
    Work (Configuration × Hook) := do
  let loaded ← require .configuration
    (Configuration.loadOrStandard (← get) setup.configuration)
  let configuration := { loaded with
    script := { loaded.script with
      mode := setup.mode.getD loaded.script.mode } }
  let current := setup.environment.getD environment.forHooks
  let hook ← require .configuration (Hook.ofConfiguration configuration current)
  return (configuration, hook)

/-- Mark one file, in place or on the standard output.  A file that stays as it
is comes out as it is. -/
def markFile (environment : Environment) (file : String) (setup : Setup)
    (inPlace : Bool) : Work Report := do
  let (_, hook) ← prepare setup environment
  let purpose := "Failed to read source file: " ++ file
  let source ← require (.disk (some purpose)) ((← get).readText file)
  match ← require .marking (hook.annotate source ((← get).canonical file)) with
  | some code =>
      if inPlace then
        change (some ("Failed to write file: " ++ file))
          fun disk => disk.writeText file code
        return { output := "", errors := "Annotated " ++ file ++ "\n" }
      else
        return { output := code, errors := "" }
  | none =>
      return {
        output := if inPlace then "" else source
        errors := "No changes: " ++ file ++ "\n" }

/-! ## Builds -/

/-- What became of a file. -/
inductive FileStatus where
  | annotated
  | unchanged
  | copied
deriving Repr, DecidableEq

/-- The name of a status. -/
def FileStatus.name : FileStatus → String
  | annotated => "annotated"
  | unchanged => "unchanged"
  | copied => "copied"

/-- A file of a manifest, by the names that lead to it. -/
structure BuiltFile where
  names : List String
  status : FileStatus
deriving Repr, DecidableEq

/-- What a build leaves in the output directory about itself. -/
structure Manifest where
  time : String
  source : String
  mode : Script.Mode
  files : List BuiltFile
deriving Repr, DecidableEq

namespace Manifest

/-- The name of the file that holds a manifest. -/
def fileName : String := "locator-manifest.json"

/-- The record of a file. -/
def ofBuiltFile (file : BuiltFile) : Json :=
  .record [("path", .string (Files.Path.ofNames file.names)),
    ("status", .string file.status.name)]

/-- The record of a manifest. -/
def toJson (manifest : Manifest) : Json :=
  .record [("generated_at", .string manifest.time),
    ("source_dir", .string manifest.source),
    ("mode", .string manifest.mode.name),
    ("files", .list (manifest.files.map ofBuiltFile))]

/-- How many files have a status. -/
def count (manifest : Manifest) (status : FileStatus) : Nat :=
  manifest.files.countP fun file => file.status = status

end Manifest

/-- Whether a file is passed over because its path, or the path of a directory
above it, is spelled like the output directory. -/
def isOutput (source output : String) (names : List String) : Bool :=
  (List.range (names.length + 1)).any fun count =>
    Files.Path.parts source ++ names.take count == Files.Path.parts output

/-- The files that a build takes, in order, each by the names that lead to it
from the source directory. -/
def sourceFiles (disk : Files.Disk) (source output : String) :
    List (List String) :=
  match disk.find source with
  | .error _ => []
  | .ok place =>
      let below := (disk.filesBelow place).map Prod.fst
      (below.filter fun names => !isOutput source output names).mergeSort
        Files.Path.precedes

/-- The path below a directory to which names lead. -/
def pathBelow (directory : String) (names : List String) : String :=
  names.foldl Files.Path.join directory

/-- Copy a file as it is. -/
def copyFile (purpose : Option String) (file target : String) :
    Work FileStatus := do
  change purpose fun disk => disk.copy file target
  return .copied

/-- Write what becomes of a file. -/
def buildFile (hook : Hook) (file target : String) : Work FileStatus := do
  let disk ← get
  let identity := disk.canonical file
  if !hook.wants identity then
    copyFile (some ("Failed to copy file: " ++ file)) file target
  else
    match disk.readText file with
    | .error _ => copyFile none file target
    | .ok source =>
        match ← require .marking (hook.annotate source identity) with
        | some code =>
            change none fun disk => disk.writeText target code
            return .annotated
        | none =>
            change none fun disk => disk.writeText target source
            return .unchanged

/-- Take one file to the output directory. -/
def buildNamed (hook : Hook) (source output : String) (names : List String) :
    Work BuiltFile := do
  let target := Files.Path.join output (Files.Path.ofNames names)
  if let some directory := Files.Path.parent? target then
    change (some ("Failed to create directory: " ++ directory))
      fun disk => disk.ensureDirectories directory
  return { names, status := ← buildFile hook (pathBelow source names) target }

/-- Mark a tree of files into another directory; `time` is written into the
manifest. -/
def buildTree (environment : Environment) (time source : String)
    (chosen : Option String) (setup : Setup) : Work Report := do
  let (configuration, hook) ← prepare setup environment
  let some output := chosen.orElse fun _ => configuration.output
    | throw .noOutput
  if !(← get).hasDirectory source then
    throw (.noSource source)
  let files ← (sourceFiles (← get) source output).mapM
    (buildNamed hook source output)
  let manifest : Manifest := {
    time
    source := (← get).canonical source
    mode := configuration.script.mode
    files }
  let path := Files.Path.join output Manifest.fileName
  change none fun disk => disk.ensureDirectories output
  change (some ("Failed to write manifest: " ++ path))
    fun disk => disk.writeText path manifest.toJson.pretty
  let counted := fun status => Text.numeral (manifest.count status)
  return {
    output := "Build completed: " ++ counted .annotated ++ " annotated, " ++
      counted .unchanged ++ " unchanged, " ++ counted .copied ++
      " copied -> " ++ output ++ "\n"
    errors := "" }

end Command

end SourceMark
