import SourceMark.Json
import SourceMark.Location

/-!
# The table of a file

A table records the marked expressions, the styled definitions and the
components of one file.  Entries are numbered from zero in each of the three
lists, and an entry key names the file and one of these numbers.
-/

namespace SourceMark

/-- Start and end of a construct. -/
structure Span where
  start : Position
  stop : Position
deriving Repr, DecidableEq

/-- An element written in a script. -/
structure Expression where
  name : String
  span : Span
  /-- The component whose body contains the element. -/
  component : Option Nat
deriving Repr, DecidableEq

/-- A definition made by a styled template. -/
structure StyledDefinition where
  /-- The variable that the definition initializes. -/
  name : Option String
  span : Span
  tag : String
deriving Repr, DecidableEq

/-- A named function, or a function bound to a variable. -/
structure Component where
  name : String
  /-- The form `line:column` of the start. -/
  place : String
  span : Span
deriving Repr, DecidableEq

/-- All entries of one file. -/
structure FileTable where
  /-- The path below the project, or the whole path outside of it. -/
  filePath : String
  /-- The project, or nothing for a file outside of it. -/
  projectPath : String
  expressions : List Expression
  styled : List StyledDefinition
  components : List Component
deriving Repr, DecidableEq

namespace FileTable

/-- A table without entries.  The project path is split off a file name that
begins with it. -/
def forFile (filename : String) (project : Option String) : FileTable :=
  let (projectPath, filePath) :=
    match project with
    | some path =>
        if !path.isEmpty && Text.startsWith filename path then
          (path, String.ofList (filename.toList.drop path.toList.length))
        else
          ("", filename)
    | none => ("", filename)
  { filePath, projectPath, expressions := [], styled := [], components := [] }

/-- The file part of every entry key of this table. -/
def fullPath (table : FileTable) : String :=
  table.projectPath ++ table.filePath

/-- Record an expression; its number is the count so far. -/
def addExpression (table : FileTable) (expression : Expression) :
    Nat × FileTable :=
  (table.expressions.length,
    { table with expressions := table.expressions ++ [expression] })

/-- Record a styled definition; its number is the count so far. -/
def addStyled (table : FileTable) (definition : StyledDefinition) :
    Nat × FileTable :=
  (table.styled.length, { table with styled := table.styled ++ [definition] })

/-- Record a component; its number is the count so far. -/
def addComponent (table : FileTable) (component : Component) :
    Nat × FileTable :=
  (table.components.length,
    { table with components := table.components ++ [component] })

/-- Whether there is no entry that a key could name. -/
def isEmpty (table : FileTable) : Bool :=
  table.expressions.isEmpty && table.styled.isEmpty

/-- The location at which a construct of this file starts. -/
def locationOf (table : FileTable) (span : Span) : Location :=
  Location.ofPosition table.fullPath span.start

/-- Location of the expression with that number. -/
def expressionLocation? (table : FileTable) (entry : Nat) : Option Location :=
  (table.expressions[entry]?).map fun expression =>
    table.locationOf expression.span

/-- Location of the styled definition with that number. -/
def styledLocation? (table : FileTable) (entry : Nat) : Option Location :=
  (table.styled[entry]?).map fun definition =>
    table.locationOf definition.span

end FileTable

end SourceMark
