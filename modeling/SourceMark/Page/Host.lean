import SourceMark.Page.Document

/-!
# The host of a page

Besides the document, a host knows what the page shows at each place of the screen
and keeps what was put on the clipboard and which addresses were opened.
-/

namespace SourceMark

namespace Page

/-- A place on the screen. -/
structure Point where
  x : Float
  y : Float
deriving Repr, DecidableEq

/-- The node that a page shows at each place, if it shows one there. -/
abbrev Layout : Type := Point → Option NodeId

/-- A page with its clipboard and its navigations. -/
structure Host where
  document : Document
  /-- Texts put on the clipboard, in order. -/
  clipboard : List String
  /-- Addresses opened, in order. -/
  navigations : List String
  /-- The node that the host finds at a place when it is asked for it. -/
  pointed : Layout

namespace Host

/-- The host of a document that was not touched yet and shows nothing. -/
def ofDocument (document : Document) : Host :=
  { document, clipboard := [], navigations := [], pointed := fun _ => none }

/-- Put a text on the clipboard. -/
def copy (host : Host) (text : String) : Host :=
  { host with clipboard := host.clipboard ++ [text] }

/-- Open an address. -/
def navigate (host : Host) (address : String) : Host :=
  { host with navigations := host.navigations ++ [address] }

/-- The element at the node that is found at a place. -/
def pointedElement? (host : Host) (point : Point) : Option NodeId :=
  (host.pointed point).bind host.document.nearestElement?

end Host

end Page

end SourceMark
