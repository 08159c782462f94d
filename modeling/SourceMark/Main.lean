import SourceMark.Command.Run
import Std.Time.Format

/-!
# The program

The outer layer of the command line: it takes down the part of the real disk at
which a command looks, runs the command on it, and carries out what changed.
-/

namespace SourceMark

namespace Program

/-- Take down what is at a place and, for a directory, what lies below it. -/
partial def takeDown (place : Files.Place) (disk : Files.Disk) :
    IO Files.Disk := do
  let path := (← IO.currentDir) / Files.Disk.absolutePath place
  match ← path.metadata.toBaseIO with
  | .error _ => return disk
  | .ok found =>
      match found.type with
      | .dir =>
          let entries := (← path.readDir.toBaseIO).toOption.getD #[]
          entries.foldlM
            (fun disk entry => takeDown (place ++ [entry.fileName]) disk)
            { disk with directories := disk.directories ++ [place] }
      | _ =>
          if (disk.file? place).isSome then
            return disk
          return disk.put place (← IO.FS.readBinFile path)

/-- The place to which a path would lead if everything on its way were a
directory. -/
def placeOf (disk : Files.Disk) (path : String) : Files.Place :=
  (Files.Path.segments path).foldl
    (fun place segment =>
      if Files.Path.isIdle segment then place
      else if segment = ".." then place.dropLast
      else place ++ [segment])
    (disk.origin path)

/-- Take down what is at a path, and which places on the way are
directories. -/
def takeDownPath (disk : Files.Disk) (path : String) : IO Files.Disk := do
  let place := placeOf disk path
  let mut known := disk
  for length in List.range (place.length + 1) do
    let above := place.take length
    let step := (← IO.currentDir) / Files.Disk.absolutePath above
    match ← step.metadata.toBaseIO with
    | .error _ => return known
    | .ok found =>
        match found.type with
        | .dir =>
            known := { known with directories := known.directories ++ [above] }
        | _ => known ← takeDown above known
  return known

/-- Carry out what changed between two disks. -/
def carryOut (before after : Files.Disk) : IO Unit := do
  let here ← IO.currentDir
  for place in after.directories do
    if !before.isDirectory place then
      IO.FS.createDirAll (here / Files.Disk.absolutePath place)
  for (place, bytes) in after.files do
    if before.file? place != some bytes then
      IO.FS.writeBinFile (here / Files.Disk.absolutePath place) bytes

/-- What the process finds around itself. -/
def surroundings : IO Surroundings := do
  let now ← Std.Time.Timestamp.now
  return {
    environment := {
      babel := ← IO.getEnv "BABEL_ENV", node := ← IO.getEnv "NODE_ENV" }
    logFile := ← IO.getEnv "LOCATOR_LOG_FILE"
    time := (Std.Time.DateTime.ofTimestamp now .UTC).toISO8601String }

/-- Run a command on the real disk. -/
def run (invocation : Invocation) : IO UInt32 := do
  let surroundings ← surroundings
  let current := (← IO.currentDir).toString
  let empty : Files.Disk := {
    files := []
    directories := []
    current := (Files.Path.segments current).filter fun name => !name.isEmpty }
  let paths := fun disk => "." :: invocation.pathsOn surroundings disk
  let start ← (paths empty).foldlM takeDownPath empty
  let known ← (paths start).foldlM takeDownPath start
  let disk ← (invocation.treesOn known).foldlM
    (fun disk path => takeDown (placeOf disk path) disk) known
  let outcome := invocation.run surroundings disk
  carryOut disk outcome.disk
  IO.print outcome.output
  IO.eprint outcome.errors
  return outcome.exitCode.toUInt32

end Program

end SourceMark

/-- Read the arguments and run what they ask for. -/
def main (arguments : List String) : IO UInt32 := do
  match SourceMark.Invocation.ofArguments arguments with
  | .error .help =>
      IO.print SourceMark.Command.usage
      return 0
  | .error .misuse =>
      IO.eprint SourceMark.Command.usage
      return 2
  | .ok invocation => SourceMark.Program.run invocation
