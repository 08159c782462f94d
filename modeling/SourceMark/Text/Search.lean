/-!
# Searching in a text

A search answers with the part before the hit and the part that follows it, so
that no index has to be trusted afterwards.
-/

namespace SourceMark

namespace Text

/-- The part before the first occurrence of `needle`, and the part after it. -/
def splitFirst? (needle : List Char) :
    List Char → Option (List Char × List Char)
  | [] => if needle.isEmpty then some ([], []) else none
  | character :: rest =>
      if needle.isPrefixOf (character :: rest) then
        some ([], (character :: rest).drop needle.length)
      else
        match splitFirst? needle rest with
        | some (before, after) => some (character :: before, after)
        | none => none

/-- The part before the last occurrence of `needle`, and the part after it. -/
def splitLast? (needle : List Char) :
    List Char → Option (List Char × List Char)
  | [] => if needle.isEmpty then some ([], []) else none
  | character :: rest =>
      match splitLast? needle rest with
      | some (before, after) => some (character :: before, after)
      | none =>
          if needle.isPrefixOf (character :: rest) then
            some ([], (character :: rest).drop needle.length)
          else
            none

/-- Whether `needle` occurs in the text. -/
def occursIn (needle : List Char) : List Char → Bool
  | [] => needle.isEmpty
  | character :: rest =>
      needle.isPrefixOf (character :: rest) || occursIn needle rest

/-- The pieces of the text between the occurrences of a separator. -/
def splitOn (separator : Char) : List Char → List (List Char)
  | [] => [[]]
  | character :: rest =>
      if character = separator then
        [] :: splitOn separator rest
      else
        match splitOn separator rest with
        | [] => [[character]]
        | piece :: pieces => (character :: piece) :: pieces

/-- The text with every occurrence of one character spelled out as another
text. -/
def replaceChar (target : Char) (replacement : List Char) :
    List Char → List Char
  | [] => []
  | character :: rest =>
      if character = target then
        replacement ++ replaceChar target replacement rest
      else
        character :: replaceChar target replacement rest

end Text

/-- Whether one string occurs in another. -/
def Text.contains (text needle : String) : Bool :=
  Text.occursIn needle.toList text.toList

/-- Whether the text ends with the given ending. -/
def Text.endsWith (text ending : String) : Bool :=
  ending.toList.isSuffixOf text.toList

/-- Whether the text begins with the given beginning. -/
def Text.startsWith (text beginning : String) : Bool :=
  beginning.toList.isPrefixOf text.toList

end SourceMark
