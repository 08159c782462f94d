/-!
# The tree of a script

The tree keeps apart the constructs that bear on marking: elements, functions,
variables and tagged templates.  Every other construct is a group of its parts.
Parts come in the order in which a traversal meets them; a class, for instance,
lists its members before the class that it extends.
-/

namespace SourceMark

namespace Script

/-- The bytes that a construct takes: the offset of the first one and the
offset after the last one. -/
structure Extent where
  start : Nat
  stop : Nat
deriving Repr, DecidableEq, Inhabited

/-- Where a function stands. -/
inductive FunctionRole where
  /-- A statement that declares the function's name. -/
  | declaration
  /-- The value that a module exports by default. -/
  | defaultExport
  /-- A function inside an expression. -/
  | expression
deriving Repr, DecidableEq

/-- The opening tag of an element. -/
structure Opening where
  /-- The name with its parts joined by dots. -/
  name : String
  extent : Extent
  /-- The offset after the name. -/
  nameStop : Nat
  /-- The offset after the type arguments, when there are any. -/
  typeArgumentsStop : Option Nat
  /-- The attribute names that have no namespace, in order. -/
  attributes : List String
deriving Repr, DecidableEq

/-- A construct of a script. -/
inductive Node where
  /-- A name used as a value. -/
  | name (text : String) (extent : Extent)
  /-- The property of an object, named after a dot. -/
  | member (object : Node) (property : String) (extent : Extent)
  | function (role : FunctionRole) (name : Option String) (extent : Extent)
      (parts : List Node)
  | arrow (extent : Extent) (parts : List Node)
  /-- One variable of a variable statement; `binding` is its name unless it
  takes its value apart. -/
  | declarator (binding : Option String) (extent : Extent)
      (target : List Node) (value : Option Node)
  | taggedTemplate (tag : Node) (extent : Extent) (parts : List Node)
  | element (opening : Opening) (parts : List Node)
  | group (extent : Extent) (parts : List Node)
deriving Repr, Inhabited

namespace Node

/-- The bytes that a node takes. -/
def extent : Node → Extent
  | name _ extent => extent
  | member _ _ extent => extent
  | function _ _ extent _ => extent
  | arrow extent _ => extent
  | declarator _ extent _ _ => extent
  | taggedTemplate _ extent _ => extent
  | element opening _ => opening.extent
  | group extent _ => extent

end Node

end Script

end SourceMark
