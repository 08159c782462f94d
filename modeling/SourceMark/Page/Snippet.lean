import SourceMark.Location
import SourceMark.Page.Written

/-!
# Snippets

A snippet is what is put on the clipboard for an element: its location, and its
clean markup with one tag on a line.  Indentation follows the tags as they come
and does not look for matching pairs.
-/

namespace SourceMark

namespace Page

/-- The text with a line feed between every `>` and a directly following
`<`. -/
def breakTags : List Char → List Char
  | '>' :: '<' :: rest => '>' :: '\n' :: breakTags ('<' :: rest)
  | character :: rest => character :: breakTags rest
  | [] => []

/-- Whether a line begins with an end tag. -/
def isEndTag (line : List Char) : Bool :=
  "</".toList.isPrefixOf line

/-- Whether the lines behind this one are nested deeper: it begins with a tag
that is closed neither by a slash nor on the same line. -/
def opensLevel (line : List Char) : Bool :=
  line.head? == some '<' && !"/>".toList.isSuffixOf line &&
    !Text.occursIn "</".toList line

/-- The lines, each indented by its level. -/
def indentLines (indent : Nat) : (level : Nat) → List (List Char) →
    List (List Char)
  | _, [] => []
  | level, line :: lines =>
      let level := if isEndTag line then level - 1 else level
      (List.replicate (level * indent) ' ' ++ line) ::
        indentLines indent (if opensLevel line then level + 1 else level) lines

/-- The lines of the text without the blanks around them; blank lines are left
out. -/
def tagLines (markup : List Char) : List (List Char) :=
  ((Text.splitOn '\n' (breakTags markup)).map Text.trim).filter
    fun line => !line.isEmpty

/-- The lines one behind the other, with a line feed at the end of each. -/
def endLines (lines : List (List Char)) : List Char :=
  lines.flatMap fun line => line ++ ['\n']

/-- The markup with one tag on a line, each level of nesting indented further
by so many blanks, and no blanks around the whole. -/
def indentMarkup (markup : String) (indent : Nat) : String :=
  String.ofList
    (Text.trim (endLines (indentLines indent 0 (tagLines markup.toList))))

/-- Blanks for each level of a snippet. -/
def snippetIndent : Nat := 2

/-- The text for the clipboard. -/
def snippet (document : Document) (element : NodeId) (location : Location) :
    String :=
  location.encode ++ "\n" ++
    indentMarkup (document.cleanMarkup element) snippetIndent

end Page

end SourceMark
