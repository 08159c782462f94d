import SourceMark.Overlay.Controller

/-!
# What the overlay shows

While the overlay is active it shows a colour for what a click would do and,
with the highlight on, the pointer and a badge for the location found at the
hovered element.
-/

namespace SourceMark

namespace Overlay

open Page

/-- Three shades of a colour. -/
structure Accent where
  base : String
  dark : String
  light : String
deriving Repr, DecidableEq

/-- The colour for what a click would do. -/
def accent : Mode → TargetLevel → Accent
  | .copy, .parent =>
      { base := "#47B379", dark := "#2D7A52", light := "#E8F5ED" }
  | .copy, .element =>
      { base := "#E57A2E", dark := "#B35D1C", light := "#FEF3E8" }
  | .editor, .parent =>
      { base := "#4A8FD4", dark := "#3468A0", light := "#E8F0F8" }
  | .editor, .element =>
      { base := "#715CC7", dark := "#5244A3", light := "#EDE8F5" }

/-- The badge of a location. -/
structure Badge where
  element : NodeId
  location : Location
  /-- Tag, identifier and first class of the element. -/
  tagLabel : String
  /-- What a click would do. -/
  modeLabel : String
  /-- The last two parts of the path, and the line. -/
  fileLabel : String
deriving Repr, DecidableEq

/-- Everything that is shown. -/
structure Display where
  mode : Mode
  level : TargetLevel
  accent : Accent
  highlight : Bool
  crosshair : Option Point
  badge : Option Badge
deriving Repr, DecidableEq

/-- The first of the words that blanks separate. -/
def firstWord (text : List Char) : List Char :=
  (Text.trimStart text).takeWhile fun character => !Text.isBlank character

/-- A mark and a word, or nothing for an empty word. -/
def labelPart (mark word : String) : String :=
  if word.isEmpty then "" else mark ++ word

/-- The form `tag#identifier.class`; parts that are missing or empty are left
out. -/
def tagLabel (document : Document) (element : NodeId) : String :=
  let identifier := (document.attribute? element "id").getD ""
  let classes := (document.attribute? element "class").getD ""
  document.tagName element ++ labelPart "#" identifier ++
    labelPart "." (String.ofList (firstWord classes.toList))

/-- What a click would do, in words. -/
def modeLabel (mode : Mode) (level : TargetLevel) : String :=
  let base :=
    match level with
    | .parent => "Parent"
    | .element => "Element"
  match mode with
  | .copy => base ++ " + Copy"
  | .editor => base

/-- The last two parts of the path, and the line. -/
def fileLabel (location : Location) : String :=
  let parts := Text.splitOn '/' location.file.toList
  String.ofList (['/'].intercalate (parts.drop (parts.length - 2))) ++ ":" ++
    Text.numeral location.line

/-- The badge of an origin. -/
def badge (document : Document) (mode : Mode) (level : TargetLevel)
    (origin : Origin) : Badge where
  element := origin.element
  location := origin.location
  tagLabel := tagLabel document origin.element
  modeLabel := modeLabel mode level
  fileLabel := fileLabel origin.location

namespace Controller

/-- The origin that the overlay points out at a level. -/
def shownOrigin? (controller : Controller) (host : Host)
    (level : TargetLevel) : Option Origin :=
  if controller.preferences.highlight then
    controller.hovered.bind fun element =>
      target? (controller.resolver.origins host.document element) level
  else
    none

/-- What is shown, while the overlay is active. -/
def display? (controller : Controller) (host : Host) : Option Display :=
  match controller.state with
  | .inactive => none
  | .active mode level =>
      some {
        mode
        level
        accent := accent mode level
        highlight := controller.preferences.highlight
        crosshair :=
          if controller.preferences.highlight then some controller.pointer
          else none
        badge := (controller.shownOrigin? host level).map
          (badge host.document mode level) }

end Controller

end Overlay

end SourceMark
