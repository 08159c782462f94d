import SourceMark.Metadata.Written

/-!
# The registry of tables

Tables are kept under the path that their entry keys name.  A table that is
registered again replaces the earlier one.
-/

namespace SourceMark

/-- The registered tables with their paths, in the order of registration. -/
structure Registry where
  tables : List (String × FileTable)
deriving Repr, DecidableEq

namespace Registry

/-- No table. -/
def empty : Registry := { tables := [] }

/-- The tables with one of them put in under its path. -/
def put (path : String) (table : FileTable) :
    List (String × FileTable) → List (String × FileTable)
  | [] => [(path, table)]
  | entry :: entries =>
      if entry.1 = path then
        (path, table) :: entries
      else
        entry :: put path table entries

/-- Register a table. -/
def register (registry : Registry) (table : FileTable) : Registry :=
  { tables := put table.fullPath table registry.tables }

/-- Register the table that a JSON text describes. -/
def registerText? (registry : Registry) (text : String) : Option Registry :=
  (FileTable.read? text).map registry.register

/-- Number of registered tables. -/
def size (registry : Registry) : Nat :=
  registry.tables.length

/-- Whether nothing is registered. -/
def isEmpty (registry : Registry) : Bool :=
  registry.tables.isEmpty

/-- Location of the expression that a written key names. -/
def expressionLocation? (registry : Registry) (value : String) :
    Option Location := do
  let key ← EntryKey.decode? value
  let table ← registry.tables.lookup key.file
  table.expressionLocation? key.entry

/-- Location of the styled definition that a written key names. -/
def styledLocation? (registry : Registry) (value : String) :
    Option Location := do
  let key ← EntryKey.decode? value
  let table ← registry.tables.lookup key.file
  table.styledLocation? key.entry

end Registry

end SourceMark
