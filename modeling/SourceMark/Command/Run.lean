import SourceMark.Command
import SourceMark.Command.Arguments
import SourceMark.Command.Build

/-!
# Running a command

A run starts from a disk and ends with a disk, with what has been said, and with
the exit code of the process.
-/

namespace SourceMark

/-!
## The configuration to start from

A commented configuration in which everything has its standard value.
-/

namespace Command

/-- The text of the configuration to start from. -/
def starterText : String :=
  String.intercalate "\n" [
    "# Build environments in which files are annotated (compared with NODE_ENV)",
    "environments = [\"development\"]",
    "",
    "# Tag or component names that never receive a location attribute",
    "ignore_component_names = []",
    "",
    "# Patterns are plain substrings or \x7b regex = \"...\" \x7d; exclude is checked first",
    "include = [",
    "    \x7b regex = \"\\\\.[jt]sx?$\" \x7d,",
    "    \x7b regex = \"\\\\.vue$\" \x7d,",
    "    \x7b regex = \"\\\\.component\\\\.html$\" \x7d,",
    "]",
    "exclude = [",
    "    \x7b regex = \"node_modules\" \x7d,",
    "    \x7b regex = \"\\\\.next\" \x7d,",
    "    \x7b regex = \"\\\\.nuxt\" \x7d,",
    "    \x7b regex = \"\\\\.output\" \x7d,",
    "]",
    "",
    "# Single-file components and Angular templates",
    "vue = true",
    "angular = true",
    "",
    "[jsx]",
    "# \"path\" writes data-locatorjs=\"file:line:column\"",
    "# \"id\" writes data-locatorjs-id=\"file::id\" and registers a side table",
    "# \"split\" writes data-source-file, data-source-line and data-source-column",
    "mode = \"path\"",
    "# Project root stripped from stored paths in id mode",
    "# cwd = \".\"",
    "# Split mode only: tag filters and a per-file element limit",
    "# include_elements = [\"div\", \"button\"]",
    "# exclude_elements = [\"Fragment\", \"React.Fragment\"]",
    "# max_elements_per_file = 500",
    "",
    "[output]",
    "# Default destination of \x60locator build\x60",
    "# dir = \"dist-annotated\"",
    "",
    "[logging]",
    "# level = \"info\"",
    "# file = \"locator.log\"",
    "format = \"text\"",
    ""]

/-- Write the configuration to start from, where nothing is yet. -/
def writeStarter (path : String) : Work Report := do
  if (← get).hasPath path then
    throw (.alreadyConfigured path)
  change none fun disk => disk.writeText path starterText
  return { output := "Created config file: " ++ path ++ "\n", errors := "" }

end Command

/-! ## Runs -/

/-- What a run finds around itself, the disk apart. -/
structure Surroundings where
  environment : Environment
  /-- The log file that is used when no other is named. -/
  logFile : Option String
  /-- The time, as it is written into a manifest. -/
  time : String
deriving Repr, DecidableEq

/-- How a run ended. -/
structure Outcome where
  disk : Files.Disk
  output : String
  errors : String
  exitCode : Nat

namespace Command

/-- Give the address that opens a location. -/
def giveAddress (location : String) (editor : Overlay.Editor) : Work Report :=
  match editor.addressOf? location with
  | some found => return { output := found ++ "\n", errors := "" }
  | none => throw (.notALocation location)

/-- Carry out a command. -/
def execute (surroundings : Surroundings) : Command → Work Report
  | transform file setup inPlace =>
      markFile surroundings.environment file setup inPlace
  | build source output setup =>
      buildTree surroundings.environment surroundings.time source output setup
  | configure path => writeStarter path
  | address location editor => giveAddress location editor

end Command

namespace Invocation

/-- The configuration of a command, as far as it can be loaded. -/
def configurationOn? (invocation : Invocation) (disk : Files.Disk) :
    Option Configuration :=
  invocation.command.setup?.bind fun setup =>
    (Configuration.loadOrStandard disk setup.configuration).toOption

/-- The log file: the one named on the command line, the configured one, or the
one of the surroundings. -/
def logFileOn (invocation : Invocation) (surroundings : Surroundings)
    (disk : Files.Disk) : Option String :=
  let configured := (invocation.configurationOn? disk).bind
    fun configuration => configuration.log.file
  (invocation.logFile.orElse fun _ => configured).orElse
    fun _ => surroundings.logFile

/-- The disk with the directory of the log, as far as it can be made. -/
def prepareLog (invocation : Invocation) (surroundings : Surroundings)
    (disk : Files.Disk) : Files.Disk :=
  let directory? :=
    (invocation.logFileOn surroundings disk).bind Files.Path.parent?
  match directory?.map disk.ensureDirectories with
  | some (.ok prepared) => prepared
  | _ => disk

/-- The paths at which a run may look, as far as they are known from a disk. -/
def pathsOn (invocation : Invocation) (surroundings : Surroundings)
    (disk : Files.Disk) : List String :=
  let named :=
    match invocation.command with
    | .transform file setup _ => [file, setup.configuration]
    | .build source output setup =>
        source :: setup.configuration :: output.toList
    | .configure path => [path]
    | .address _ _ => []
  let configured :=
    match invocation.configurationOn? disk with
    | some configuration =>
        configuration.output.toList ++ configuration.script.project.toList
    | none => []
  named ++ configured ++ (invocation.logFileOn surroundings disk).toList

/-- The directories of which a run may look at everything below. -/
def treesOn (invocation : Invocation) (disk : Files.Disk) : List String :=
  match invocation.command with
  | .build source output _ =>
      source :: (output.orElse fun _ =>
        (invocation.configurationOn? disk).bind Configuration.output).toList
  | _ => []

/-- Run a command. -/
def run (invocation : Invocation) (surroundings : Surroundings)
    (disk : Files.Disk) : Outcome :=
  let prepared := invocation.prepareLog surroundings disk
  match invocation.command.execute surroundings prepared with
  | .ok report disk =>
      { disk, output := report.output, errors := report.errors, exitCode := 0 }
  | .error fault disk =>
      { disk, output := "", errors := fault.report, exitCode := fault.exitCode }

end Invocation

end SourceMark
