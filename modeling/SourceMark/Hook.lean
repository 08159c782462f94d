import SourceMark.Configuration
import SourceMark.Markup.Annotation
import SourceMark.Script.Annotation
import SourceMark.Template.Annotation

/-!
# Hooks of a build

A hook is asked about every file of a build.  It leaves alone what is not
configured to be marked, and chooses by the name of a file how it is marked.  A
file that cannot be marked stays as it is; only a fatal failure stops the build.
-/

namespace SourceMark

/-- A hook that chooses among all kinds of markup. -/
structure Hook where
  environments : List String
  /-- The environment of this build. -/
  current : String
  ignored : List String
  included : List Matcher
  excluded : List Matcher
  vue : Bool
  angular : Bool
  script : Script.Options

/-- Keep a file as it is when it cannot be marked. -/
def recover : Annotation → Annotation
  | .ok outcome => .ok outcome
  | .error failure => if failure.isFatal then .error failure else .ok none

namespace Hook

/-- The hook of a configuration. -/
def ofConfiguration (configuration : Configuration) (current : String) :
    Except Configuration.Fault Hook := do
  let included ← Configuration.matchers configuration.included
  let excluded ← Configuration.matchers configuration.excluded
  return {
    environments := configuration.environments
    current
    ignored := configuration.ignored
    included
    excluded
    vue := configuration.vue
    angular := configuration.angular
    script := {
      mode := configuration.script.mode
      environment := none
      project := configuration.script.project
      current := Environment.fallback
      filter := configuration.script.filter } }

/-- Whether anything is marked in this build. -/
def isEnabled (hook : Hook) : Bool :=
  hook.environments.contains hook.current

/-- Whether a file is one of those to be marked. -/
def wants (hook : Hook) (filename : String) : Bool :=
  !Matcher.anyAccepts hook.excluded filename &&
    Matcher.anyAccepts hook.included filename

/-- How the hook has a file marked that contains angle brackets. -/
def dispatch (hook : Hook) (source filename : String) : Annotation :=
  let file : FileOptions := { filename, ignored := hook.ignored }
  if Text.endsWith filename ".vue" then
    if hook.vue then recover (Template.annotate source file) else .ok none
  else if hook.angular && Text.endsWith filename ".component.html" then
    recover (Markup.annotateTemplate source file)
  else if hook.angular && Text.endsWith filename ".component.ts" &&
      Text.contains source Markup.componentMarker then
    recover (Markup.annotateComponent source file)
  else
    recover (Script.annotate hook.script source file)

/-- Mark a file, or answer `none` when it stays as it is. -/
def annotate (hook : Hook) (source filename : String) : Annotation :=
  if !hook.isEnabled || !hook.wants filename then
    .ok none
  else if !Text.contains source "<" || !Text.contains source ">" then
    .ok none
  else
    hook.dispatch source filename

end Hook

/-- A hook for scripts alone, which always gives a text. -/
structure Loader where
  script : Script.Options
  ignored : List String

namespace Loader

/-- A loader writes whole locations, whatever mode it is given. -/
def ofOptions (script : Script.Options) (ignored : List String) : Loader where
  script := { script with mode := .path }
  ignored

/-- What the names of files contain that are run in front of all others. -/
def middlewareMarker : String := "middleware."

/-- The text of a script as it is to be run. -/
def load (loader : Loader) (source filename : String) :
    Except Failure String :=
  if isVendored filename || Text.contains filename middlewareMarker then
    .ok source
  else
    let file : FileOptions := { filename, ignored := loader.ignored }
    (recover (Script.annotate loader.script source file)).map
      fun outcome => outcome.getD source

end Loader

end SourceMark
