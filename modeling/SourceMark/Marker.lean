import SourceMark.Location

/-!
# Marker attributes

The attributes that carry locations in markup, and the text that writes one of
them into a tag.
-/

namespace SourceMark

namespace Marker

/-- Carries `file:line:column`. -/
def combined : String := "data-locatorjs"

/-- Carries the key of an expression entry. -/
def expressionKey : String := "data-locatorjs-id"

/-- Carries the key of a styled definition entry. -/
def styledKey : String := "data-locatorjs-styled"

/-- Carries the file of a location that is split over three attributes. -/
def splitFile : String := "data-source-file"

/-- Carries the line of a split location. -/
def splitLine : String := "data-source-line"

/-- Carries the column of a split location. -/
def splitColumn : String := "data-source-column"

/-- All attributes that carry location data. -/
def all : List String :=
  [combined, expressionKey, styledKey, splitFile, splitLine, splitColumn]

/-- A value as it stands between double quotes: ampersands first, so that the
ampersands of the escapes stay. -/
def escape (value : List Char) : List Char :=
  Text.replaceChar '"' "&quot;".toList
    (Text.replaceChar '&' "&amp;".toList value)

/-- Put back the characters that `escape` replaced, in one pass from the left. -/
def unescape : List Char → List Char
  | '&' :: 'a' :: 'm' :: 'p' :: ';' :: rest => '&' :: unescape rest
  | '&' :: 'q' :: 'u' :: 'o' :: 't' :: ';' :: rest => '"' :: unescape rest
  | character :: rest => character :: unescape rest
  | [] => []

/-- An attribute with a leading blank, ready to be put into a tag. -/
def attributeText (name : String) (location : Location) : String :=
  " " ++ name ++ "=\"" ++
    String.ofList (escape location.encode.toList) ++ "\""

end Marker

end SourceMark
