import SourceMark.Text.Blank

/-!
# Documents

A document is a growing list of nodes that link to their parents and children.
A shadow root is nobody's child: it links to its host instead, so that a walk
from inside a shadow tree outwards has to ask for the host at the top.
-/

namespace SourceMark

namespace Page

/-- A node, numbered in the order of creation. -/
structure NodeId where
  index : Nat
deriving Repr, DecidableEq

/-- What a node is. -/
inductive NodeKind where
  | document
  | element (tag : String) (attributes : List (String × String))
  | text (value : String)
  | shadowRoot (host : NodeId)
deriving Repr, DecidableEq

/-- A node with its links. -/
structure NodeRecord where
  kind : NodeKind
  parent : Option NodeId
  children : List NodeId
deriving Repr, DecidableEq

/-- All nodes of a page, those outside of the tree included. -/
structure Document where
  nodes : List NodeRecord
deriving Repr, DecidableEq

namespace Document

/-- Nothing but the document node, which has number zero. -/
def empty : Document :=
  { nodes := [{ kind := .document, parent := none, children := [] }] }

/-- The document node. -/
def root : NodeId := { index := 0 }

/-! ## Reading -/

/-- The record of a node. -/
def record? (document : Document) (node : NodeId) : Option NodeRecord :=
  document.nodes[node.index]?

/-- What a node is. -/
def kind? (document : Document) (node : NodeId) : Option NodeKind :=
  (document.record? node).map NodeRecord.kind

/-- The parent, be it an element, a shadow root or the document. -/
def parent? (document : Document) (node : NodeId) : Option NodeId :=
  (document.record? node).bind NodeRecord.parent

/-- The children in order. -/
def children (document : Document) (node : NodeId) : List NodeId :=
  ((document.record? node).map NodeRecord.children).getD []

/-- Whether a node is an element. -/
def isElement (document : Document) (node : NodeId) : Bool :=
  match document.kind? node with
  | some (.element _ _) => true
  | _ => false

/-- The host of a shadow root. -/
def shadowHost? (document : Document) (node : NodeId) : Option NodeId :=
  match document.kind? node with
  | some (.shadowRoot host) => some host
  | _ => none

/-- The tag of an element, and the empty text for any other node. -/
def tagName (document : Document) (node : NodeId) : String :=
  match document.kind? node with
  | some (.element tag _) => tag
  | _ => ""

/-- The value of an element's attribute. -/
def attribute? (document : Document) (node : NodeId) (name : String) :
    Option String :=
  match document.kind? node with
  | some (.element _ attributes) => attributes.lookup name
  | _ => none

/-! ## Growing and changing -/

/-- The document with one more node that has no parent yet, and that node. -/
def create (document : Document) (kind : NodeKind) : NodeId × Document :=
  ({ index := document.nodes.length },
    { nodes := document.nodes ++ [{ kind, parent := none, children := [] }] })

/-- A new element; tags are kept in lower case. -/
def createElement (document : Document) (tag : String) : NodeId × Document :=
  document.create (.element (Text.lowerString tag) [])

/-- A new text node. -/
def createText (document : Document) (value : String) : NodeId × Document :=
  document.create (.text value)

/-- A new shadow root of the host. -/
def attachShadow (document : Document) (host : NodeId) : NodeId × Document :=
  document.create (.shadowRoot host)

/-- The document with one record changed. -/
def modify (document : Document) (node : NodeId)
    (change : NodeRecord → NodeRecord) : Document :=
  { nodes := document.nodes.modify node.index change }

/-- The document without the link from a node's parent to the node. -/
def unlink (document : Document) (node : NodeId) : Document :=
  match document.parent? node with
  | some parent =>
      document.modify parent fun record =>
        { record with children := record.children.filter (· != node) }
  | none => document

/-- Make a node the last child of a parent; it leaves its former parent. -/
def append (document : Document) (parent node : NodeId) : Document :=
  ((document.unlink node).modify node fun record =>
      { record with parent := some parent }).modify parent fun record =>
    { record with children := record.children ++ [node] }

/-- The attributes with one of them set; a new one comes last. -/
def withAttribute (name value : String) :
    List (String × String) → List (String × String)
  | [] => [(name, value)]
  | given :: attributes =>
      if given.1 = name then
        (name, value) :: attributes
      else
        given :: withAttribute name value attributes

/-- Change the attributes of an element; other nodes have none. -/
def modifyAttributes (document : Document) (node : NodeId)
    (change : List (String × String) → List (String × String)) : Document :=
  document.modify node fun record =>
    match record.kind with
    | .element tag attributes =>
        { record with kind := .element tag (change attributes) }
    | _ => record

/-- Set an attribute. -/
def setAttribute (document : Document) (node : NodeId) (name value : String) :
    Document :=
  document.modifyAttributes node (withAttribute name value)

/-- Remove an attribute; the others keep their order. -/
def removeAttribute (document : Document) (node : NodeId) (name : String) :
    Document :=
  document.modifyAttributes node fun attributes =>
    attributes.filter fun given => given.1 != name

/-! ## Walking outwards -/

/-- The parent when it is an element. -/
def parentElement? (document : Document) (node : NodeId) : Option NodeId :=
  (document.parent? node).filter document.isElement

/-- The node itself when it is an element, its parent element otherwise. -/
def nearestElement? (document : Document) (node : NodeId) : Option NodeId :=
  if document.isElement node then some node else document.parentElement? node

/-- A node and all that is reached from it by a link, for at most so many
links. -/
def chain (link : NodeId → Option NodeId) : Nat → NodeId → List NodeId
  | 0, node => [node]
  | links + 1, node =>
      node :: match link node with
        | some next => chain link links next
        | none => []

/-- A node and all that is reached from it by a link.  No walk without
repetition is longer than the number of nodes. -/
def reached (document : Document) (link : NodeId → Option NodeId)
    (node : NodeId) : List NodeId :=
  chain link document.nodes.length node

/-- The outermost node on the way over parents. -/
def rootOf (document : Document) (node : NodeId) : NodeId :=
  ((document.reached document.parent? node).getLast?).getD node

/-- The element around an element: its parent element, and at the top of a
shadow tree the host. -/
def outerElement? (document : Document) (element : NodeId) : Option NodeId :=
  match document.parentElement? element with
  | some parent => some parent
  | none => document.shadowHost? (document.rootOf element)

/-- The elements around a node from the inside out, through shadow roots. -/
def elementsAround (document : Document) (node : NodeId) : List NodeId :=
  match document.nearestElement? node with
  | some element => document.reached document.outerElement? element
  | none => []

/-- The innermost element around a node, without leaving its tree, that has an
attribute of that name. -/
def closestWith? (document : Document) (node : NodeId) (name : String) :
    Option NodeId :=
  match document.nearestElement? node with
  | some element =>
      (document.reached document.parentElement? element).find? fun candidate =>
        (document.attribute? candidate name).isSome
  | none => none

end Document

end Page

end SourceMark
