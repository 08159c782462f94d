import SourceMark.Marker
import SourceMark.Metadata.Registry
import SourceMark.Page.Document

/-!
# From an element to its source

An element may carry its location in several ways, which are tried in order.
The locations of a node are those of all elements around it, from the inside
out.
-/

namespace SourceMark

namespace Page

/-- A way in which an element carries its location. -/
inductive Strategy where
  | combined
  | split
  | expressionKey
  | styledKey
deriving Repr, DecidableEq

/-- The ways to be tried in order, and the tables for keys. -/
structure Resolver where
  strategies : List Strategy
  registry : Option Registry
deriving Repr, DecidableEq

/-- A location and the element that carries it. -/
structure Origin where
  location : Location
  element : NodeId
deriving Repr, DecidableEq

namespace Strategy

/-- The location in three attributes: the file must not be empty, the line must
be a number, and a column that is no number counts as zero. -/
def splitLocation? (document : Document) (element : NodeId) :
    Option Location := do
  let file ← document.attribute? element Marker.splitFile
  let lineText ← document.attribute? element Marker.splitLine
  let line ← Text.leadingNumber? lineText.toList
  let column := (document.attribute? element Marker.splitColumn).bind
    fun text => Text.leadingNumber? text.toList
  if file.isEmpty then
    none
  else
    some { file, line, column := column.getD 0 }

/-- The location that an element carries in this way. -/
def location? (document : Document) (registry : Option Registry)
    (element : NodeId) : Strategy → Option Location
  | combined =>
      (document.attribute? element Marker.combined).bind Location.decode?
  | split => splitLocation? document element
  | expressionKey => do
      let value ← document.attribute? element Marker.expressionKey
      (← registry).expressionLocation? value
  | styledKey => do
      let value ← document.attribute? element Marker.styledKey
      (← registry).styledLocation? value

end Strategy

namespace Resolver

/-- Reads locations that stand in the markup itself. -/
def plain : Resolver :=
  { strategies := [.combined, .split], registry := none }

/-- Try one more way last, unless it is tried already. -/
def withStrategy (resolver : Resolver) (strategy : Strategy) : Resolver :=
  if resolver.strategies.contains strategy then
    resolver
  else
    { resolver with strategies := resolver.strategies ++ [strategy] }

/-- Look up keys in these tables. -/
def withRegistry (resolver : Resolver) (registry : Registry) : Resolver :=
  (({ resolver with registry := some registry }).withStrategy
    .expressionKey).withStrategy .styledKey

/-- Register a table, if keys are looked up at all. -/
def register (resolver : Resolver) (table : FileTable) : Resolver :=
  { resolver with
    registry := resolver.registry.map fun registry => registry.register table }

/-- The location that an element carries. -/
def location? (resolver : Resolver) (document : Document)
    (element : NodeId) : Option Location :=
  resolver.strategies.findSome?
    (Strategy.location? document resolver.registry element)

/-- The location of an element, with the element. -/
def origin? (resolver : Resolver) (document : Document) (element : NodeId) :
    Option Origin :=
  (resolver.location? document element).map fun location =>
    { location, element }

/-- The locations of all elements around a node, from the inside out. -/
def origins (resolver : Resolver) (document : Document) (node : NodeId) :
    List Origin :=
  (document.elementsAround node).filterMap (resolver.origin? document)

end Resolver

/-- Whether the element itself is meant or the component that uses it. -/
inductive TargetLevel where
  | element
  | parent
deriving Repr, DecidableEq

/-- The name of a level. -/
def TargetLevel.name : TargetLevel → String
  | element => "element"
  | parent => "parent"

/-- The origin that is meant: the innermost one, or for the parent the first
one in another file, and the outermost one when all are in one file. -/
def target? (origins : List Origin) : TargetLevel → Option Origin
  | .element => origins.head?
  | .parent =>
      match origins.head? with
      | none => none
      | some first =>
          (origins.find? fun origin =>
            origin.location.file != first.location.file).or origins.getLast?

end Page

end SourceMark
