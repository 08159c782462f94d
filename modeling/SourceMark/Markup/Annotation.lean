import SourceMark.Markup.Literal
import SourceMark.Markup.Marking

/-!
# Annotating templates of plain markup

A template stands in a file of its own or in a literal of the script that
declares its component.  Both are marked tag by tag; a file without an eligible
tag needs no change.
-/

namespace SourceMark

namespace Markup

/-- Marks the script of a component. -/
def componentMarker : String := "@Component"

/-- The text with the insertions carried out, or nothing when there are
none. -/
def insertAll (source : List Char) : List Insertion → Option String
  | [] => none
  | insertions => some (String.ofList (splice 0 source insertions))

/-- The insertions for a template in a file of its own. -/
def templateInsertions (source : List Char) (options : FileOptions) :
    List Insertion :=
  (markedTags (LineIndex.ofText source) options 0 source).map
    (MarkedTag.insertion .file)

/-- Mark a template in a file of its own. -/
def annotateTemplate (source : String) (options : FileOptions) :
    Annotation := do
  let _ ← options.requireFilename
  return insertAll source.toList (templateInsertions source.toList options)

/-- The insertions for one inline template of the indexed script. -/
def literalInsertions (index : LineIndex) (options : FileOptions)
    (literal : Literal) : List Insertion :=
  (markedTags index options literal.start literal.body).map
    (MarkedTag.insertion (.literal literal.quote))

/-- The insertions for all inline templates of a script. -/
def componentInsertions (source : List Char) (options : FileOptions) :
    List Insertion :=
  (Literal.scan 0 source).flatMap
    (literalInsertions (LineIndex.ofText source) options)

/-- Mark the inline templates of a script. -/
def annotateComponent (source : String) (options : FileOptions) :
    Annotation := do
  let _ ← options.requireFilename
  return insertAll source.toList (componentInsertions source.toList options)

/-- A template in a file of its own. -/
def isTemplateFile (filename : String) : Bool :=
  Text.endsWith filename ".html"

/-- A script that declares a component. -/
def isComponentFile (filename source : String) : Bool :=
  Text.endsWith filename ".ts" && Text.contains source componentMarker

/-- Mark a template or the script of a component; any other file is left
alone. -/
def annotate (source : String) (options : FileOptions) : Annotation := do
  let filename ← options.requireFilename
  if isTemplateFile filename then
    annotateTemplate source options
  else if isComponentFile filename source then
    annotateComponent source options
  else
    return none

/-- The annotator of templates and components. -/
def annotator : Annotator where
  dialect := "angular"
  accepts := fun filename source =>
    isTemplateFile filename || isComponentFile filename source
  annotate := annotate

end Markup

end SourceMark
