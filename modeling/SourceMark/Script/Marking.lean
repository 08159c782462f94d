import SourceMark.Script.Selection
import SourceMark.Json.Printer
import SourceMark.Metadata
import SourceMark.Text.Insertion

/-!
# Marking the tree of a script

One traversal of the tree fills the table of the file and collects the
insertions.  Functions with a name are components; an element records the
component around it, and a styled template the variable that it initializes.
-/

namespace SourceMark

namespace Script

/-- What stays the same while a file is traversed. -/
structure Setting where
  index : LineIndex
  file : FileOptions
  options : Options

namespace Setting

/-- The places at which a construct starts and ends. -/
def span (setting : Setting) (extent : Extent) : Span where
  start := setting.index.location extent.start
  stop := setting.index.location extent.stop

end Setting

/-- What a traversal has gathered so far. -/
structure Marking where
  table : FileTable
  insertions : List Insertion
  /-- The components around this place, innermost first. -/
  enclosing : List Nat
  /-- The variable that the next styled template initializes. -/
  styledName : Option String
  /-- How many elements have passed the split filter. -/
  counted : Nat
deriving Repr

namespace Marking

/-- The start of a traversal. -/
def start (table : FileTable) : Marking where
  table := table
  insertions := []
  enclosing := []
  styledName := none
  counted := 0

/-- Record a component and go inside it. -/
def enter (setting : Setting) (name : String) (extent : Extent)
    (marking : Marking) : Marking :=
  let span := setting.span extent
  let (entry, table) := marking.table.addComponent {
    name
    place := Text.numeral span.start.line ++ ":" ++
      Text.numeral span.start.column
    span }
  { marking with table, enclosing := entry :: marking.enclosing }

/-- Go out of the innermost component. -/
def leave (marking : Marking) : Marking :=
  { marking with enclosing := marking.enclosing.tail }

/-- Record an insertion. -/
def insert (offset : Nat) (text : String) (marking : Marking) : Marking :=
  { marking with insertions := marking.insertions ++ [{ offset, text }] }

/-- Whether an element is to be marked, and the count of the elements that
passed the split filter.  Elements that are marked already count as well. -/
def select (setting : Setting) (opening : Opening) (counted : Nat) :
    Bool × Nat :=
  if setting.file.ignores opening.name then
    (false, counted)
  else
    match setting.options.mode with
    | .path | .key =>
        (!isDisallowed opening.name &&
          !hasAttribute opening [Marker.combined, Marker.expressionKey],
          counted)
    | .split =>
        let filter := setting.options.filter
        let full :=
          match filter.limit with
          | some limit => limit ≤ counted
          | none => false
        if filter.admits opening.name && !full then
          (!hasAttribute opening [Marker.splitFile], counted + 1)
        else
          (false, counted)

/-- The attributes that carry the place of an element. -/
def markText (mode : Mode) (file : String) (start : Position) (entry : Nat) :
    String :=
  match mode with
  | .path =>
      " " ++ Marker.combined ++ "=\x7b" ++
        Json.quoted (Location.ofPosition file start).encode ++ "\x7d"
  | .key =>
      " " ++ Marker.expressionKey ++ "=\x7b" ++
        Json.quoted (EntryKey.encode { file, entry }) ++ "\x7d"
  | .split =>
      " " ++ Marker.splitFile ++ "=\x7b" ++ Json.quoted file ++ "\x7d " ++
        Marker.splitLine ++ "=\"" ++ Text.numeral start.line ++ "\" " ++
        Marker.splitColumn ++ "=\"" ++ Text.numeral start.column ++ "\""

/-- The offset at which the attributes of an element are put in: behind its
name, or behind its type arguments. -/
def markOffset (opening : Opening) : Nat :=
  opening.typeArgumentsStop.getD opening.nameStop

/-- Mark an element when it is selected. -/
def markElement (setting : Setting) (opening : Opening) (marking : Marking) :
    Marking :=
  let (selected, counted) := select setting opening marking.counted
  let marking := { marking with counted }
  if selected then
    let span := setting.span opening.extent
    let (entry, table) := marking.table.addExpression {
      name := opening.name
      span
      component := marking.enclosing.head? }
    let text := markText setting.options.mode table.fullPath span.start entry
    insert (markOffset opening) text { marking with table }
  else
    marking

/-- The tag of a styled template: the property that it names on `styled`. -/
def styledTag? : Node → Option String
  | .member (.name object _) property _ =>
      if object = "styled" then some property else none
  | _ => none

/-- The call that puts the key of a styled definition into its attributes. -/
def styledText (file : String) (entry : Nat) : String :=
  ".attrs(() => (\x7b" ++ Json.quoted Marker.styledKey ++ ": " ++
    Json.quoted (EntryKey.encode { file, entry }) ++ "\x7d))"

/-- Mark a template when it is a styled one.  The variable is taken by the
first template, styled or not. -/
def markTemplate (setting : Setting) (tag : Node) (extent : Extent)
    (marking : Marking) : Marking :=
  let name := marking.styledName
  let marking := { marking with styledName := none }
  match styledTag? tag with
  | some property =>
      if setting.options.mode = .split then
        marking
      else
        let (entry, table) := marking.table.addStyled {
          name, span := setting.span extent, tag := property }
        insert tag.extent.stop (styledText table.fullPath entry)
          { marking with table }
  | none => marking

/-- The variable for a template that is its whole value. -/
def initializedName (binding : Option String) : Option Node → Option String
  | some (.taggedTemplate _ _ _) => binding
  | _ => none

/-- The name of a component that a variable declares: its value is a
function. -/
def componentName? (binding : Option String) : Option Node → Option String
  | some (.arrow _ _) => binding
  | some (.function .expression _ _ _) => binding
  | _ => none

mutual

/-- Traverse a construct. -/
def visit (setting : Setting) : Node → Marking → Marking
  | .name _ _, marking => marking
  | .member object _ _, marking => visit setting object marking
  | .function .declaration (some name) extent parts, marking =>
      leave (visitAll setting parts (enter setting name extent marking))
  | .function _ _ _ parts, marking => visitAll setting parts marking
  | .arrow _ parts, marking => visitAll setting parts marking
  | .declarator binding extent target value, marking =>
      let outer := marking.styledName
      let marking :=
        { marking with styledName := initializedName binding value }
      let marking :=
        match componentName? binding value with
        | some name =>
            leave (visitValue setting value
              (visitAll setting target (enter setting name extent marking)))
        | none =>
            visitValue setting value (visitAll setting target marking)
      { marking with styledName := outer }
  | .taggedTemplate tag extent parts, marking =>
      visitAll setting parts
        (visit setting tag (markTemplate setting tag extent marking))
  | .element opening parts, marking =>
      visitAll setting parts (markElement setting opening marking)
  | .group _ parts, marking => visitAll setting parts marking

/-- Traverse constructs in order. -/
def visitAll (setting : Setting) : List Node → Marking → Marking
  | [], marking => marking
  | node :: nodes, marking =>
      visitAll setting nodes (visit setting node marking)

/-- Traverse the value of a variable. -/
def visitValue (setting : Setting) : Option Node → Marking → Marking
  | none, marking => marking
  | some node, marking => visit setting node marking

end

end Marking

end Script

end SourceMark
