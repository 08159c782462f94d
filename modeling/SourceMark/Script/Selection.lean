import SourceMark.Annotator
import SourceMark.Marker
import SourceMark.Script.Tree

/-!
# Which elements of a script are marked

Some names stand for components that put no element of their own on the page;
these cannot carry a mark.  Split marks have filters of their own instead.
-/

namespace SourceMark

namespace Script

/-- What a mark carries. -/
inductive Mode where
  /-- The whole location in one attribute. -/
  | path
  /-- The key of an entry in the table of the file. -/
  | key
  /-- File, line and column in three attributes. -/
  | split
deriving Repr, DecidableEq

namespace Mode

/-- The name by which a mode is chosen. -/
def name : Mode → String
  | path => "path"
  | key => "id"
  | split => "split"

/-- The mode with that name. -/
def ofName? : String → Option Mode
  | "path" => some path
  | "id" => some key
  | "split" => some split
  | _ => none

end Mode

/-- The filters of split marks. -/
structure SplitFilter where
  /-- When given, only these names are marked. -/
  included : Option (List String)
  /-- When given, these names are left alone instead of the wrappers. -/
  excluded : Option (List String)
  /-- Elements counted past this limit are left alone. -/
  limit : Option Nat
deriving Repr, DecidableEq

/-- How the elements of a script are marked. -/
structure Options where
  mode : Mode
  /-- When given, files are marked only in this environment. -/
  environment : Option String
  /-- The project below which file paths are written. -/
  project : Option String
  /-- The environment of this run. -/
  current : String
  filter : SplitFilter
deriving Repr, DecidableEq

/-- Wrappers that put no element of their own on the page. -/
def wrapperNames : List String :=
  ["Fragment", "React.Fragment", "Suspense", "React.Suspense", "StrictMode",
    "React.StrictMode", "Profiler", "React.Profiler"]

/-- Names of objects in a three-dimensional scene, which take no attributes of
a page. -/
def sceneNames : List String :=
  ["mesh", "group", "fog", "color", "ambientLight", "directionalLight",
    "pointLight", "spotLight"]

/-- Endings of context providers and of further scene objects. -/
def wrapperEndings : List String :=
  ["Provider", "Geometry", "Material", "Helper", "Controls", "Camera"]

/-- Whether elements of that name cannot carry a mark. -/
def isDisallowed (name : String) : Bool :=
  wrapperNames.contains name || sceneNames.contains name ||
    wrapperEndings.any fun ending => Text.endsWith name ending

namespace SplitFilter

/-- No filter. -/
def all : SplitFilter := { included := none, excluded := none, limit := none }

/-- Whether elements of that name pass the filter. -/
def admits (filter : SplitFilter) (name : String) : Bool :=
  !(filter.excluded.getD wrapperNames).contains name &&
    match filter.included with
    | some names => names.contains name
    | none => true

end SplitFilter

/-- Whether a tag already has one of these attributes. -/
def hasAttribute (opening : Opening) (names : List String) : Bool :=
  opening.attributes.any fun given => names.contains given

end Script

end SourceMark
