import SourceMark.Template.Token
import SourceMark.Text.LineIndex

/-!
# The tree of a template

Repeated and conditional elements are folded into nodes of their own: a
repetition holds the element that it repeats, and a choice holds one element,
repeated or not, for each of its branches.
-/

namespace SourceMark

namespace Template

/-- Where an element starts in its file. -/
structure Place where
  offset : Nat
  position : Position
deriving Repr, DecidableEq

/-- A node of a template. -/
inductive Node where
  | element (tag : String) (attributes : List TagAttribute) (place : Place)
      (selfClosing : Bool) (children : List Node)
  /-- An element repeated for the items of `source`. -/
  | repeated (source : String) (child : Node)
  /-- Elements of which one is chosen; a branch without a condition is chosen
  when no other one is. -/
  | choice (branches : List (Option String × Node))
  | text (value : String)
  | interpolation (value : String)
  | comment (value : String)
deriving Repr, Inhabited

/-- The first attribute of that name. -/
def findAttribute? (attributes : List TagAttribute) (name : String) :
    Option TagAttribute :=
  attributes.find? fun given => given.name == name

/-- The value of a directive; one without a value counts as empty. -/
def directive? (attributes : List TagAttribute) (name : String) :
    Option String :=
  (findAttribute? attributes name).map fun given => given.value.getD ""

namespace Node

/-- Whether a node may stand between the branches of a choice. -/
def isGap : Node → Bool
  | text value => Text.isBlankText value.toList
  | comment _ => true
  | _ => false

/-- Add a text behind other nodes; it becomes one with a text before it. -/
def addText (value : String) : List Node → List Node
  | [] => [text value]
  | [text before] => [text (before ++ value)]
  | node :: nodes => node :: addText value nodes

/-- Add a branch to the choice that ends a list of nodes in reverse order.
Gaps may come in between, and the choice must not be complete. -/
def addBranch? (branch : Option String × Node) :
    List Node → Option (List Node)
  | [] => none
  | node :: nodes =>
      if node.isGap then
        (addBranch? branch nodes).map fun joined => node :: joined
      else
        match node with
        | choice branches =>
            match branches.getLast? with
            | some (some _, _) => some (choice (branches ++ [branch]) :: nodes)
            | _ => none
        | _ => none

/-- An element with the repetition that its attributes ask for. -/
def withRepetition (attributes : List TagAttribute) (node : Node) : Node :=
  match directive? attributes "v-for" with
  | some source => repeated source node
  | none => node

/-- Add a finished element behind other nodes.  Its attributes tell whether it
is repeated, whether it opens a choice and whether it belongs to one. -/
def addElement (tag : String) (attributes : List TagAttribute) (place : Place)
    (selfClosing : Bool) (children nodes : List Node) :
    Except Fault (List Node) :=
  let node := withRepetition attributes
    (element tag attributes place selfClosing children)
  match directive? attributes "v-if" with
  | some condition => .ok (nodes ++ [choice [(some condition, node)]])
  | none =>
      let otherwise := directive? attributes "v-else-if"
      if otherwise.isSome || (findAttribute? attributes "v-else").isSome then
        match addBranch? (otherwise, node) nodes.reverse with
        | some joined => .ok joined.reverse
        | none => .error (.looseElse tag)
      else
        .ok (nodes ++ [node])

end Node

/-- An element whose end tag has not been read yet. -/
structure OpenElement where
  tag : OpenTag
  place : Place
  children : List Node
deriving Repr

/-- What has been read of a template: the open elements, innermost first, and
the nodes outside of them. -/
structure Draft where
  opened : List OpenElement
  roots : List Node
deriving Repr

namespace Draft

/-- Nothing has been read. -/
def empty : Draft := { opened := [], roots := [] }

/-- Change the nodes at the innermost level. -/
def mapNodes (change : List Node → List Node) (draft : Draft) : Draft :=
  match draft.opened with
  | [] => { draft with roots := change draft.roots }
  | inner :: outer =>
      { draft with
        opened := { inner with children := change inner.children } :: outer }

/-- Add a finished element at the innermost level. -/
def addElement (tag : OpenTag) (place : Place) (children : List Node)
    (draft : Draft) : Except Fault Draft :=
  let add := Node.addElement tag.name tag.attributes place tag.selfClosing
    children
  match draft.opened with
  | [] =>
      match add draft.roots with
      | .ok roots => .ok { draft with roots }
      | .error fault => .error fault
  | inner :: outer =>
      match add inner.children with
      | .ok children =>
          .ok { draft with opened := { inner with children } :: outer }
      | .error fault => .error fault

/-- Whether an end tag of that name belongs to an open element. -/
def closes (name : List Char) (inner : OpenElement) : Bool :=
  Text.sameIgnoringCase inner.tag.name.toList name

/-- Close the innermost element by an end tag. -/
def close (name : List Char) (draft : Draft) : Except Fault Draft :=
  match draft.opened with
  | [] => .error (.strayEndTag (String.ofList name))
  | inner :: outer =>
      if closes name inner then
        addElement inner.tag inner.place inner.children
          { draft with opened := outer }
      else if outer.any (closes name) then
        .error (.missingEndTag inner.tag.name)
      else
        .error (.strayEndTag (String.ofList name))

/-- The children of an element whose body is text. -/
def rawChildren (body : List Char) : List Node :=
  if body.isEmpty then [] else [.text (String.ofList body)]

/-- Go on with one token. -/
def add (locate : Nat → Position) (draft : Draft) (offset : Nat) :
    Token → Except Fault Draft
  | .text value => .ok (draft.mapNodes (Node.addText (String.ofList value)))
  | .interpolation value =>
      .ok (draft.mapNodes (· ++ [.interpolation (String.ofList value)]))
  | .comment value =>
      .ok (draft.mapNodes (· ++ [.comment (String.ofList value)]))
  | .opening tag =>
      let place : Place := { offset, position := locate offset }
      if tag.selfClosing || isVoid tag.name then
        draft.addElement tag place []
      else
        .ok { draft with
          opened := { tag, place, children := [] } :: draft.opened }
  | .raw tag body =>
      draft.addElement tag { offset, position := locate offset }
        (rawChildren body)
  | .closing name => draft.close name
  | .fault fault => .error fault

/-- Go on with tokens in order. -/
def addAll (locate : Nat → Position) :
    Draft → List (Nat × Token) → Except Fault Draft
  | draft, [] => .ok draft
  | draft, (offset, token) :: tokens =>
      match draft.add locate offset token with
      | .ok draft => addAll locate draft tokens
      | .error fault => .error fault

/-- The tree, once every element is closed. -/
def finish (draft : Draft) : Except Fault (List Node) :=
  match draft.opened with
  | [] => .ok draft.roots
  | inner :: _ => .error (.missingEndTag inner.tag.name)

end Draft

/-- The tree of a template text that starts at a byte offset of its file. -/
def parse (locate : Nat → Position) (origin : Nat) (text : List Char) :
    Except Fault (List Node) :=
  match Draft.addAll locate Draft.empty (tokens origin text) with
  | .ok draft => draft.finish
  | .error fault => .error fault

/-- The tree of a range of a file.  A range that ends past the file ends with
it, and a range that ends before it starts is empty. -/
def parseRange (source : List Char) (start stop : Nat) :
    Except Fault (List Node) :=
  let stop := min stop (Text.byteLength source)
  if stop ≤ start then
    .ok []
  else
    match Text.slice? source start stop with
    | some text => parse (LineIndex.ofText source).location start text
    | none => .error .brokenRange

end Template

end SourceMark
