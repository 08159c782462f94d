import SourceMark.Script.Marking
import SourceMark.Metadata.Written
import SourceMark.Script.Module

/-!
# Annotating a script

A script is read, its tree is marked, and the insertions are carried out in the
text.  Keys are of use only with the table of the file, so the table is
registered at the end of the script when keys were written.
-/

namespace SourceMark

namespace Script

/-- The statement that registers a table on the page. -/
def registryStatement (table : FileTable) : String :=
  "\n;(() => \x7b if (typeof window !== \"undefined\") \x7b " ++
    "window.__LOCATOR_DATA__ = window.__LOCATOR_DATA__ || \x7b\x7d; " ++
    "window.__LOCATOR_DATA__[" ++ Json.quoted table.fullPath ++ "] = " ++
    table.written ++ "; \x7d \x7d)();\n"

/-- Whether the file is left alone whatever it contains. -/
def passesThrough (filename : String) (options : Options) : Bool :=
  isVendored filename ||
    (options.mode = .split && Text.contains filename ".next") ||
    match options.environment with
    | some environment => environment != options.current
    | none => false

/-- The tree that a script is read as.  A byte order mark is dropped first, so
that the offsets in the tree do not count it. -/
def readScript (filename : String) (source : List Char) :
    Except Failure (List Node) :=
  let text :=
    match source with
    | '\ufeff' :: rest => rest
    | other => other
  match readModule (Dialect.ofFilename filename) text with
  | .ok nodes => .ok nodes
  | .error .aborted => .error .aborted
  | .error (.unexpected place) =>
      .error (.script filename
        ("unexpected token at " ++ Text.numeral place.lexeme.start))

/-- The table and the insertions for the tree of a script. -/
def markTree (source : List Char) (file : FileOptions) (options : Options)
    (nodes : List Node) : FileTable × List Insertion :=
  let setting : Setting := { index := LineIndex.ofText source, file, options }
  let marking := Marking.visitAll setting nodes
    (Marking.start (FileTable.forFile file.filename options.project))
  (marking.table, marking.insertions)

/-- The marked text of a script whose tree is known, or `none` when nothing is
put in. -/
def annotateTree (source : List Char) (file : FileOptions) (options : Options)
    (nodes : List Node) : Option (List Char) :=
  let (table, insertions) := markTree source file options nodes
  if insertions.isEmpty then
    none
  else
    let registered :=
      if options.mode = .key || !table.styled.isEmpty then
        insertions ++
          [{ offset := Text.byteLength source
             text := registryStatement table }]
      else
        insertions
    some (Insertion.applyAll source registered)

/-- Mark the elements and the styled templates of a script. -/
def annotate (options : Options) (source : String) (file : FileOptions) :
    Annotation := do
  let filename ← file.requireFilename
  if passesThrough filename options then
    return none
  let nodes ← readScript filename source.toList
  return (annotateTree source.toList file options nodes).map String.ofList

/-- The endings of script files. -/
def scriptEndings : List String := [".js", ".jsx", ".ts", ".tsx"]

/-- The annotator of scripts. -/
def annotator (options : Options) : Annotator where
  dialect := "jsx"
  accepts := fun filename _ =>
    scriptEndings.any fun ending => Text.endsWith filename ending
  annotate := annotate options

end Script

end SourceMark
