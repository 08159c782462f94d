import SourceMark.Annotator
import SourceMark.Marker
import SourceMark.Markup.Tag
import SourceMark.Text.Insertion

/-!
# Marking the tags of plain markup

Eligible tags get the combined attribute as their last one.  Locations count
from the start of the whole file, also when the markup is only a part of it.
-/

namespace SourceMark

namespace Markup

/-- Tags that put no element of their own on the page. -/
def structuralTags : List String :=
  ["ng-container", "ng-template", "ng-content", "router-outlet"]

/-- A tag that gets an attribute. -/
structure MarkedTag where
  name : String
  location : Location
  /-- Byte offset at which the attribute is put in. -/
  insertAt : Nat
deriving Repr, DecidableEq

/-- Whether a tag gets an attribute. -/
def isEligible (options : FileOptions) (tag : OpeningTag) : Bool :=
  tag.name.head? != some '!' &&
    !structuralTags.contains (String.ofList (Text.lowerAscii tag.name)) &&
    !options.ignores (String.ofList tag.name) &&
    !Text.occursIn Marker.combined.toList tag.inside

/-- A tag with its place in the file. -/
def markedTag (index : LineIndex) (filename : String) (tag : OpeningTag) :
    MarkedTag where
  name := String.ofList tag.name
  location := Location.ofPosition filename (index.location tag.start)
  insertAt := tag.attributeOffset

/-- The eligible tags of a region that starts at the given byte offset of the
indexed file. -/
def markedTags (index : LineIndex) (options : FileOptions) (start : Nat)
    (region : List Char) : List MarkedTag :=
  ((OpeningTag.scan start region).filter (isEligible options)).map
    (markedTag index options.filename)

/-- What the markup is written in. -/
inductive Enclosing where
  /-- A file of its own. -/
  | file
  /-- A script literal between two such quotes. -/
  | literal (quote : Char)
deriving Repr, DecidableEq

/-- The text as it has to be written between two such quotes in a script. -/
def escapeWithin (quote : Char) : List Char → List Char
  | [] => []
  | character :: rest =>
      if character = '\\' then
        '\\' :: '\\' :: escapeWithin quote rest
      else if character = quote then
        '\\' :: character :: escapeWithin quote rest
      else if character = '$' && quote = '\x60' && rest.head? == some '{' then
        '\\' :: character :: escapeWithin quote rest
      else
        character :: escapeWithin quote rest

/-- The text with every escaping backslash left out. -/
def withoutEscapes : List Char → List Char
  | '\\' :: character :: rest => character :: withoutEscapes rest
  | character :: rest => character :: withoutEscapes rest
  | [] => []

/-- The text as it has to be written into its surroundings. -/
def Enclosing.write (text : String) : Enclosing → String
  | .file => text
  | .literal quote => String.ofList (escapeWithin quote text.toList)

/-- The insertion that marks a tag. -/
def MarkedTag.insertion (enclosing : Enclosing) (tag : MarkedTag) :
    Insertion where
  offset := tag.insertAt
  text := enclosing.write (Marker.attributeText Marker.combined tag.location)

/-- The text from a byte offset on, with insertions carried out that come in
the order of their offsets. -/
def splice (offset : Nat) (text : List Char) : List Insertion → List Char
  | [] => text
  | insertion :: later =>
      match Text.cutAt? text (insertion.offset - offset) with
      | some (before, after) =>
          before ++ insertion.text.toList ++
            splice insertion.offset after later
      | none => text

end Markup

end SourceMark
