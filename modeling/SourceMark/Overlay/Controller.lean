import SourceMark.Overlay.Preferences
import SourceMark.Page.Host
import SourceMark.Page.Resolver
import SourceMark.Page.Snippet

/-!
# The overlay's controller

Holding Control or Meta activates the overlay; Meta asks for a copy, Control for
the editor, and Alt means the parent component instead of the element.  A click
while one of the two keys is held acts on the location found at its target.
-/

namespace SourceMark

namespace Overlay

open Page

/-- What a click does. -/
inductive Mode where
  | editor
  | copy
deriving Repr, DecidableEq

/-- The name of what a click does. -/
def Mode.name : Mode → String
  | editor => "editor"
  | copy => "copy"

/-- Whether the overlay is shown, and what for. -/
inductive State where
  | inactive
  | active (mode : Mode) (level : TargetLevel)
deriving Repr, DecidableEq

/-- The name of a state: the mode and the level of an active overlay. -/
def State.name : State → String
  | inactive => "inactive"
  | active mode level => mode.name ++ "/" ++ level.name

/-- Which of the keys that count are held. -/
structure HeldKeys where
  metaKey : Bool
  controlKey : Bool
  altKey : Bool
deriving Repr, DecidableEq

namespace HeldKeys

/-- No key is held. -/
def released : HeldKeys :=
  { metaKey := false, controlKey := false, altKey := false }

/-- The keys after one was pressed or released; other keys do not count. -/
def after (keys : HeldKeys) (key : String) (down : Bool) : HeldKeys :=
  match key with
  | "Meta" => { keys with metaKey := down }
  | "Control" => { keys with controlKey := down }
  | "Alt" => { keys with altKey := down }
  | _ => keys

/-- Whether a key is held that activates the overlay. -/
def activate (keys : HeldKeys) : Bool :=
  keys.metaKey || keys.controlKey

/-- What a click does while these keys are held. -/
def mode (keys : HeldKeys) : Mode :=
  if keys.metaKey then .copy else .editor

/-- Whether the element or its parent component is meant. -/
def level (keys : HeldKeys) : TargetLevel :=
  if keys.altKey then .parent else .element

end HeldKeys

/-- What a controller is made with; given values win over stored ones. -/
structure Options where
  editor : Option Editor
  modifier : Option ModifierSide
  interceptsClicks : Bool
deriving Repr, DecidableEq

/-- The overlay of one page. -/
structure Controller where
  preferences : Preferences
  store : Store
  resolver : Resolver
  interceptsClicks : Bool
  state : State
  keys : HeldKeys
  /-- Where the pointer was last. -/
  pointer : Point
  /-- The element that the pointer was found on last. -/
  hovered : Option NodeId
  /-- How often the overlay became active. -/
  activations : Nat
  /-- How often the overlay became inactive again. -/
  deactivations : Nat
deriving Repr, DecidableEq

/-- What came of a click. -/
inductive ClickOutcome where
  /-- The click was left to the page. -/
  | passed
  | copied (location : Location) (text : String)
  | opened (location : Location) (address : String)
deriving Repr, DecidableEq

/-- Whether the click was kept from the page. -/
def ClickOutcome.isIntercepted : ClickOutcome → Bool
  | passed => false
  | _ => true

/-- Marks the overlay's own switch for the highlight. -/
def toggleAttribute : String := "data-cts-toggle"

namespace Options

/-- Nothing is given and clicks are intercepted. -/
def standard : Options :=
  { editor := none, modifier := none, interceptsClicks := true }

/-- The stored preferences with the given values put in. -/
def preferences (options : Options) (store : Store) : Preferences :=
  let stored := Preferences.load store
  { stored with
    editor := options.editor.getD stored.editor
    modifier := options.modifier.getD stored.modifier }

end Options

namespace Controller

/-- A new controller, inactive and without held keys. -/
def create (options : Options) (store : Store) : Controller where
  preferences := options.preferences store
  store := store
  resolver := Resolver.plain
  interceptsClicks := options.interceptsClicks
  state := .inactive
  keys := HeldKeys.released
  pointer := { x := 0, y := 0 }
  hovered := none
  activations := 0
  deactivations := 0

/-- Whether the overlay is shown. -/
def isActive (controller : Controller) : Bool :=
  controller.state != .inactive

/-! ## Preferences -/

/-- Choose an editor. -/
def setEditor (controller : Controller) (editor : Editor) : Controller :=
  { controller with
    preferences := { controller.preferences with editor }
    store := controller.store.write Preferences.editorKey editor.name }

/-- Choose which keys count. -/
def setModifier (controller : Controller) (modifier : ModifierSide) :
    Controller :=
  { controller with
    preferences := { controller.preferences with modifier }
    store := controller.store.write Preferences.modifierKey modifier.name }

/-- Switch the highlight on or off. -/
def toggleHighlight (controller : Controller) : Controller :=
  let highlight := !controller.preferences.highlight
  { controller with
    preferences := { controller.preferences with highlight }
    store := controller.store.write Preferences.highlightKey
      (Preferences.flagText highlight) }

/-! ## Keys and the pointer -/

/-- Become active.  With the highlight on, the element that the host finds where
the pointer was last is the hovered one, if it finds one. -/
def activate (controller : Controller) (host : Host) : Controller :=
  { controller with
    state := .active controller.keys.mode controller.keys.level
    hovered :=
      if controller.preferences.highlight then
        (host.pointedElement? controller.pointer).or controller.hovered
      else
        controller.hovered
    activations := controller.activations + 1 }

/-- Become inactive. -/
def deactivate (controller : Controller) : Controller :=
  { controller with
    state := .inactive
    deactivations := controller.deactivations + 1 }

/-- Bring the state in line with the held keys. -/
def follow (controller : Controller) (host : Host) : Controller :=
  match controller.state, controller.keys.activate with
  | .inactive, true => controller.activate host
  | .active _ _, false => controller.deactivate
  | .active _ _, true =>
      { controller with
        state := .active controller.keys.mode controller.keys.level }
  | .inactive, false => controller

/-- A key with a location code was pressed or released. -/
def key (controller : Controller) (host : Host) (name : String) (code : Nat)
    (down : Bool) : Controller :=
  if controller.preferences.modifier.honours code then
    ({ controller with keys := controller.keys.after name down }).follow host
  else
    controller

/-- The pointer moved over a node. -/
def move (controller : Controller) (host : Host) (pointer : Point)
    (target : Option NodeId) : Controller :=
  let controller := { controller with pointer }
  if controller.isActive && controller.preferences.highlight then
    { controller with hovered := target.bind host.document.nearestElement? }
  else
    controller

/-- The page lost the focus: no key counts as held any longer. -/
def blur (controller : Controller) : Controller :=
  let controller := { controller with keys := HeldKeys.released }
  if controller.isActive then controller.deactivate else controller

/-! ## Clicks -/

/-- The element that a click is meant for. -/
def clickTarget? (controller : Controller) (host : Host)
    (target : Option NodeId) : Option NodeId :=
  match target with
  | some node => host.document.nearestElement? node
  | none => controller.hovered

/-- The origin that a click at an element acts on.  The overlay's own switch is
never acted on. -/
def clickOrigin? (controller : Controller) (host : Host) (element : NodeId) :
    Option Origin :=
  match host.document.closestWith? element toggleAttribute with
  | some _ => none
  | none =>
      target? (controller.resolver.origins host.document element)
        controller.keys.level

/-- Act on an origin. -/
def actOn (controller : Controller) (host : Host) (origin : Origin) :
    ClickOutcome × Host :=
  match controller.keys.mode with
  | .copy =>
      let text := snippet host.document origin.element origin.location
      (.copied origin.location text, host.copy text)
  | .editor =>
      let address := controller.preferences.editor.address origin.location
      (.opened origin.location address, host.navigate address)

/-- A click, at a node or wherever the pointer is. -/
def click (controller : Controller) (host : Host) (target : Option NodeId) :
    ClickOutcome × Host :=
  if controller.interceptsClicks && controller.keys.activate then
    match (controller.clickTarget? host target).bind
        (controller.clickOrigin? host) with
    | some origin => controller.actOn host origin
    | none => (.passed, host)
  else
    (.passed, host)

end Controller

end Overlay

end SourceMark
