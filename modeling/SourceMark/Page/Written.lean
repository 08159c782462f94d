import SourceMark.Marker
import SourceMark.Page.Document
import SourceMark.Text.Search

/-!
# The markup of an element

Markup is written for an element and all that is below it; shadow trees stand
beside the tree and are not written.
-/

namespace SourceMark

namespace Page

/-- Tags of elements that are written without content and without an end
tag. -/
def voidTags : List String :=
  ["area", "base", "br", "col", "embed", "hr", "img", "input", "link", "meta",
    "param", "source", "track", "wbr"]

/-- A character as it is written in text. -/
def escapedInText : Char → List Char
  | '&' => "&amp;".toList
  | '<' => "&lt;".toList
  | '>' => "&gt;".toList
  | character => [character]

/-- A character as it is written in an attribute value. -/
def escapedInValue : Char → List Char
  | '&' => "&amp;".toList
  | '"' => "&quot;".toList
  | character => [character]

/-- A text as markup. -/
def writtenText (value : String) : String :=
  String.ofList (value.toList.flatMap escapedInText)

/-- An attribute as markup, with a leading blank. -/
def writtenAttribute (given : String × String) : String :=
  " " ++ given.1 ++ "=\"" ++
    String.ofList (given.2.toList.flatMap escapedInValue) ++ "\""

/-- An opening tag without the attributes of the given names. -/
def writtenTag (tag : String) (attributes : List (String × String))
    (omitted : List String) : String :=
  let kept := attributes.filter fun given => !omitted.contains given.1
  "<" ++ tag ++ String.join (kept.map writtenAttribute) ++ ">"

/-- The markup of a node down to a depth. -/
def writtenNode (document : Document) (omitted : List String) :
    Nat → NodeId → String
  | 0, _ => ""
  | depth + 1, node =>
      let below := String.join
        ((document.children node).map (writtenNode document omitted depth))
      match document.kind? node with
      | some (.element tag attributes) =>
          let opening := writtenTag tag attributes omitted
          if voidTags.contains tag then
            opening
          else
            opening ++ below ++ "</" ++ tag ++ ">"
      | some (.text value) => writtenText value
      | _ => below

namespace Document

/-- The markup of a node, without the attributes of the given names.  No node
is deeper than the number of nodes. -/
def markup (document : Document) (node : NodeId) (omitted : List String) :
    String :=
  writtenNode document omitted document.nodes.length node

/-- The markup of a node without any attribute that carries a location. -/
def cleanMarkup (document : Document) (node : NodeId) : String :=
  document.markup node Marker.all

end Document

end Page

end SourceMark
