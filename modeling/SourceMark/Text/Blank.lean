/-!
# Blank characters

Two notions of white space are used side by side: the Unicode property
`White_Space`, by which values and lines are trimmed, and the five ASCII blanks
that separate the parts of a tag.
-/

namespace SourceMark

namespace Text

/-- The inclusive code point ranges of the Unicode property `White_Space`. -/
def blankRanges : List (Nat × Nat) :=
  [(0x09, 0x0D), (0x20, 0x20), (0x85, 0x85), (0xA0, 0xA0), (0x1680, 0x1680),
    (0x2000, 0x200A), (0x2028, 0x2029), (0x202F, 0x202F), (0x205F, 0x205F),
    (0x3000, 0x3000)]

/-- A character with the Unicode property `White_Space`. -/
def isBlank (character : Char) : Bool :=
  blankRanges.any fun range =>
    range.1 ≤ character.toNat && character.toNat ≤ range.2

/-- Space, tabulator, line feed, form feed or carriage return. -/
def isAsciiBlank (character : Char) : Bool :=
  character = ' ' || character = '\t' || character = '\n' ||
    character = '\x0c' || character = '\r'

/-- The text without its leading blanks. -/
def trimStart (text : List Char) : List Char :=
  text.dropWhile isBlank

/-- The text without its trailing blanks. -/
def trimEnd : List Char → List Char
  | [] => []
  | character :: rest =>
      match trimEnd rest with
      | [] => if isBlank character then [] else [character]
      | kept => character :: kept

/-- The text without blanks at either end. -/
def trim (text : List Char) : List Char :=
  trimEnd (trimStart text)

/-- Nothing but blanks. -/
def isBlankText (text : List Char) : Bool :=
  text.all isBlank

/-- An ASCII letter. -/
def isAsciiLetter (character : Char) : Bool :=
  ('a' ≤ character && character ≤ 'z') || ('A' ≤ character && character ≤ 'Z')

/-- An ASCII digit. -/
def isAsciiDigit (character : Char) : Bool :=
  '0' ≤ character && character ≤ '9'

/-- Upper-case ASCII letters become lower-case ones; all else stays. -/
def lowerAscii (text : List Char) : List Char :=
  text.map Char.toLower

/-- Equality up to the case of ASCII letters. -/
def sameIgnoringCase (first second : List Char) : Bool :=
  lowerAscii first == lowerAscii second

end Text

/-- The string without blanks at either end. -/
def Text.trimString (value : String) : String :=
  String.ofList (Text.trim value.toList)

/-- The string with its ASCII letters in lower case. -/
def Text.lowerString (value : String) : String :=
  String.ofList (Text.lowerAscii value.toList)

end SourceMark
