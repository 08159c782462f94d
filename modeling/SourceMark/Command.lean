import SourceMark.Configuration
import SourceMark.Annotator
import SourceMark.Overlay.Editor

/-!
# Commands

What can be asked for on the command line, and what can go wrong with it.
-/

namespace SourceMark

/-- What commands that mark files have in common. -/
structure Setup where
  /-- The path of the configuration. -/
  configuration : String
  /-- A mode that replaces the configured one. -/
  mode : Option Script.Mode
  /-- An environment that replaces the one of the process. -/
  environment : Option String
deriving Repr, DecidableEq

/-- A command. -/
inductive Command where
  /-- Mark one file, in place or on the standard output. -/
  | transform (file : String) (setup : Setup) (inPlace : Bool)
  /-- Mark a tree of files into another directory. -/
  | build (source : String) (output : Option String) (setup : Setup)
  /-- Write a configuration to start from. -/
  | configure (path : String)
  /-- Give the address that opens a location. -/
  | address (location : String) (editor : Overlay.Editor)
deriving Repr, DecidableEq

/-- A command together with what is asked for beside it. -/
structure Invocation where
  command : Command
  logFile : Option String
  logLevel : Option String
  isVerbose : Bool
deriving Repr, DecidableEq

namespace Command

/-- How the command marks files, if it does. -/
def setup? : Command → Option Setup
  | transform _ setup _ => some setup
  | build _ _ setup => some setup
  | configure _ => none
  | address _ _ => none

/-- Why a command failed. -/
inductive Fault where
  | configuration (fault : Configuration.Fault)
  | marking (failure : Failure)
  | noOutput
  | noSource (path : String)
  | alreadyConfigured (path : String)
  | notALocation (value : String)
  /-- A step on the disk failed; `purpose` says what it was for, if anything
  is to be said. -/
  | disk (purpose : Option String) (fault : Files.Fault)
deriving Repr, DecidableEq

namespace Fault

/-- What is said of a fault, from the outermost reason to the innermost. -/
def reasons : Fault → List String
  | configuration fault => fault.reasons
  | marking failure => [failure.message]
  | noOutput => ["No output directory: pass --out-dir or set output.dir"]
  | noSource path => ["Source directory does not exist: " ++ path]
  | alreadyConfigured path => ["Config file already exists: " ++ path]
  | notALocation value => [Overlay.Editor.notALocation value]
  | disk purpose fault => purpose.toList ++ [fault.message]

/-- The line that reports a fault. -/
def report (fault : Fault) : String :=
  "Error: " ++ String.intercalate ": " fault.reasons ++ "\n"

/-- The exit code of a process that ends with a fault. -/
def exitCode : Fault → Nat
  | marking .aborted => 101
  | _ => 1

end Fault

/-- What a command says. -/
structure Report where
  output : String
  errors : String
deriving Repr, DecidableEq

/-- Work on a disk.  What was done before a fault stays done. -/
abbrev Work : Type → Type := EStateM Fault Files.Disk

/-- One step on the disk; `purpose` is what it is for. -/
def change (purpose : Option String)
    (step : Files.Disk → Except Files.Fault Files.Disk) : Work Unit := do
  match step (← get) with
  | .ok disk => set disk
  | .error fault => throw (.disk purpose fault)

/-- Work that goes on with what a check gives. -/
def require {ε α : Type} (fault : ε → Fault) : Except ε α → Work α
  | .ok value => pure value
  | .error error => throw (fault error)

end Command

end SourceMark
