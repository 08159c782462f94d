import SourceMark.Text.Search

/-!
# What every annotator takes and gives

An annotator takes one source text and answers with the marked text, or with
nothing when the file needs no change.
-/

namespace SourceMark

/-!
## Failures of an annotation

A failure that is not fatal leaves its file as it is; the one fatal failure
says that the host did not name the file at all.
-/

/-- Why a file could not be annotated. -/
inductive Failure where
  | missingFilename
  | script (file message : String)
  | template (file message : String)
  | configuration (message : String)
  /-- Reading stopped for good; nothing recovers from this. -/
  | aborted
deriving Repr, DecidableEq

namespace Failure

/-- The text shown for a failure. -/
def message : Failure → String
  | missingFilename => "no filename available for the file being transformed"
  | script file message => "failed to parse " ++ file ++ ": " ++ message
  | template file message => "invalid template in " ++ file ++ ": " ++ message
  | configuration message => "configuration error: " ++ message
  | aborted => "aborted"

/-- Whether the failure stops the whole build instead of skipping one file. -/
def isFatal : Failure → Bool
  | missingFilename => true
  | aborted => true
  | _ => false

end Failure

/-! ## Annotators -/

/-- What is known about the file to be annotated. -/
structure FileOptions where
  /-- The name written into every location. -/
  filename : String
  /-- Tags and components that must not be marked. -/
  ignored : List String
deriving Repr, DecidableEq

namespace FileOptions

/-- Whether the caller asked to leave this name alone. -/
def ignores (options : FileOptions) (name : String) : Bool :=
  options.ignored.contains name

/-- The file name, which must not be empty. -/
def requireFilename (options : FileOptions) : Except Failure String :=
  if options.filename.isEmpty then
    .error .missingFilename
  else
    .ok options.filename

theorem requireFilename_of_named {options : FileOptions}
    (named : options.filename ≠ "") :
    options.requireFilename = .ok options.filename := by
  simp [requireFilename, named]

end FileOptions

/-- The marked text, or `none` when nothing had to change. -/
abbrev Annotation : Type := Except Failure (Option String)

/-- One kind of markup: its name, the files it is meant for and how to mark
them. -/
structure Annotator where
  dialect : String
  accepts : (filename source : String) → Bool
  annotate : (source : String) → FileOptions → Annotation

/-- The environment variables that name the current environment. -/
structure Environment where
  babel : Option String
  node : Option String
deriving Repr, DecidableEq

namespace Environment

/-- The environment that is assumed when no variable names one. -/
def fallback : String := "development"

/-- The environment against which script annotation is gated. -/
def forScripts (environment : Environment) : String :=
  (environment.babel.orElse fun _ => environment.node).getD fallback

/-- The environment against which a hook is gated. -/
def forHooks (environment : Environment) : String :=
  environment.node.getD fallback

/-- No variable is set. -/
def unset : Environment := { babel := none, node := none }

end Environment

/-- Whether a path points into vendored dependencies. -/
def isVendored (path : String) : Bool :=
  Text.contains path "node_modules"

end SourceMark
