import SourceMark.Json.Printer
import SourceMark.Json.Reader
import SourceMark.Metadata

/-!
# The written form of a table

A table is written as one JSON record with its fields in a fixed order.  When a
table is read, unknown fields are skipped whatever they hold, a repeated field
is refused, and a list with one item per field stands for the record itself.
-/

namespace SourceMark

namespace Json

/-- The values of the named fields.  A field may be missing from a record but
not repeated; a list gives all of them in order. -/
def members? (names : List String) : Json → Option (List (Option Json))
  | record fields =>
      names.mapM fun name =>
        match fieldsNamed (record fields) name with
        | [] => some none
        | [value] => some (some value)
        | _ => none
  | list items =>
      if items.length = names.length then some (items.map some) else none
  | _ => none

/-- A field that may be missing or `null`. -/
def optional {α : Type} (read : Json → Option α) :
    Option Json → Option (Option α)
  | none => some none
  | some null => some none
  | some value => (read value).map some

/-- A list whose items all read. -/
def listOf {α : Type} (read : Json → Option α) (value : Json) :
    Option (List α) :=
  match value with
  | list items => items.mapM read
  | _ => none

end Json

namespace Position

/-- The record of a position. -/
def toJson (position : Position) : Json :=
  .record [("line", .natural position.line),
    ("column", .natural position.column)]

/-- Read the record of a position. -/
def ofJson? (value : Json) : Option Position :=
  match value.members? ["line", "column"] with
  | some [some line, some column] => do
      some { line := ← line.natural?, column := ← column.natural? }
  | _ => none

end Position

namespace Span

/-- The record of a span. -/
def toJson (span : Span) : Json :=
  .record [("start", span.start.toJson), ("end", span.stop.toJson)]

/-- Read the record of a span. -/
def ofJson? (value : Json) : Option Span :=
  match value.members? ["start", "end"] with
  | some [some start, some stop] => do
      some {
        start := ← Position.ofJson? start
        stop := ← Position.ofJson? stop }
  | _ => none

end Span

namespace Expression

/-- The record of an expression. -/
def toJson (expression : Expression) : Json :=
  .record [("name", .string expression.name), ("loc", expression.span.toJson),
    ("wrappingComponentId", .ofNatural? expression.component)]

/-- Read the record of an expression. -/
def ofJson? (value : Json) : Option Expression :=
  match value.members? ["name", "loc", "wrappingComponentId"] with
  | some [some name, some span, component] => do
      some {
        name := ← name.text?
        span := ← Span.ofJson? span
        component := ← Json.optional Json.natural? component }
  | _ => none

end Expression

namespace StyledDefinition

/-- The record of a styled definition. -/
def toJson (definition : StyledDefinition) : Json :=
  .record [("name", .ofText? definition.name), ("loc", definition.span.toJson),
    ("htmlTag", .string definition.tag)]

/-- Read the record of a styled definition. -/
def ofJson? (value : Json) : Option StyledDefinition :=
  match value.members? ["name", "loc", "htmlTag"] with
  | some [name, some span, some tag] => do
      some {
        name := ← Json.optional Json.text? name
        span := ← Span.ofJson? span
        tag := ← tag.text? }
  | _ => none

end StyledDefinition

namespace Component

/-- The record of a component. -/
def toJson (component : Component) : Json :=
  .record [("name", .string component.name),
    ("locString", .string component.place), ("loc", component.span.toJson)]

/-- Read the record of a component. -/
def ofJson? (value : Json) : Option Component :=
  match value.members? ["name", "locString", "loc"] with
  | some [some name, some place, some span] => do
      some {
        name := ← name.text?
        place := ← place.text?
        span := ← Span.ofJson? span }
  | _ => none

end Component

namespace FileTable

/-- The names of the fields, in the order in which they are written. -/
def fieldNames : List String :=
  ["filePath", "projectPath", "expressions", "styledDefinitions", "components"]

/-- The record of a table. -/
def toJson (table : FileTable) : Json :=
  .record [("filePath", .string table.filePath),
    ("projectPath", .string table.projectPath),
    ("expressions", .list (table.expressions.map Expression.toJson)),
    ("styledDefinitions", .list (table.styled.map StyledDefinition.toJson)),
    ("components", .list (table.components.map Component.toJson))]

/-- Read the record of a table. -/
def ofJson? (value : Json) : Option FileTable :=
  match value.members? fieldNames with
  | some [some filePath, some projectPath, some expressions, some styled,
      some components] => do
      some {
        filePath := ← filePath.text?
        projectPath := ← projectPath.text?
        expressions := ← Json.listOf Expression.ofJson? expressions
        styled := ← Json.listOf StyledDefinition.ofJson? styled
        components := ← Json.listOf Component.ofJson? components }
  | _ => none

/-- The table as one line of JSON. -/
def written (table : FileTable) : String :=
  table.toJson.compact

/-- Read a table from its JSON text. -/
def read? (text : String) : Option FileTable :=
  (Json.skim? text).bind ofJson?

end FileTable

end SourceMark
