import SourceMark.Regex.Sets

/-!
# Escapes in a regular expression

A backslash makes an ordinary character of a special one and something special
of many an ordinary one.  Escapes that mean nothing are refused.
-/

namespace SourceMark

namespace Regex

/-- The smallest parts of an expression. -/
inductive Atom where
  | character (value : Char)
  | set (members : CharSet)
  | anchor (condition : Anchor)

/-- Whether a code point is a character. -/
def charOf? (value : Nat) : Option Char :=
  if value < 0xD800 || (0xE000 ≤ value && value < 0x110000) then
    some (Char.ofNat value)
  else
    none

/-- Read exactly so many hexadecimal digits. -/
def fixedHex? (flags : Flags) (value : Nat) :
    Nat → List Char → Option (Nat × List Char)
  | 0, text => some (value, text)
  | count + 1, text =>
      match flags.skip text with
      | [] => none
      | digit :: rest =>
          match Text.hexValue? digit with
          | some number => fixedHex? flags (value * 16 + number) count rest
          | none => none

/-- Read hexadecimal digits up to a closing brace.  Counts the digits. -/
def bracedHex? (flags : Flags) : Nat → Nat → List Char →
    Option (Nat × Nat × List Char)
  | _, _, [] => none
  | value, count, digit :: rest =>
      if digit = '\x7d' then
        some (value, count, rest)
      else if flags.has .extended && Text.isBlank digit then
        bracedHex? flags value count rest
      else
        match Text.hexValue? digit with
        | some number => bracedHex? flags (value * 16 + number) (count + 1) rest
        | none => none

/-- Read a character given by its code point, which takes so many digits unless
braces are put around it. -/
def hexCharacter? (flags : Flags) (digits : Nat) (text : List Char) :
    Option (Char × List Char) :=
  match flags.skip text with
  | '\x7b' :: rest =>
      match bracedHex? flags 0 0 rest with
      | some (value, count, later) =>
          if count = 0 then none else (charOf? value).map fun found => (found, later)
      | none => none
  | other =>
      match fixedHex? flags 0 digits other with
      | some (value, later) => (charOf? value).map fun found => (found, later)
      | none => none

/-- The characters that have a meaning of their own somewhere. -/
def specialCharacters : List Char :=
  ['\\', '.', '+', '*', '?', '(', ')', '|', '[', ']', '\x7b', '\x7d', '^', '$',
    '#', '&', '-', '~']

/-- Whether a backslash in front of the character may be left out or makes it an
ordinary one. -/
def isPlainEscape (character : Char) : Bool :=
  specialCharacters.contains character ||
    (character.toNat < 0x80 && !Text.isAsciiLetter character &&
      !Text.isAsciiDigit character && character != '<' && character != '>')

/-- The characters behind a backslash that stand for a control character. -/
def controlCharacter? : Char → Option Char
  | 'a' => some '\x07'
  | 'f' => some '\x0c'
  | 't' => some '\t'
  | 'n' => some '\n'
  | 'r' => some '\r'
  | 'v' => some '\x0b'
  | _ => none

/-- The edges of words that are written as a name in braces. -/
def edgeOf? : String → Option WordEdge
  | "start" => some .start
  | "end" => some .stop
  | "start-half" => some .halfStart
  | "end-half" => some .halfStop
  | _ => none

/-- Whether the character may stand in the name of an edge. -/
def isEdgeCharacter (character : Char) : Bool :=
  Text.isAsciiLetter character || character = '-'

/-- Read what may follow the sign of a word boundary: the name of an edge in
braces.  Braces around anything else are left for a repetition. -/
def edge? (flags : Flags) (text : List Char) :
    Option (WordEdge × List Char) :=
  match text with
  | '\x7b' :: rest =>
      let inner := flags.skip rest
      match inner with
      | [] => none
      | first :: _ =>
          if isEdgeCharacter first then
            let name := inner.takeWhile isEdgeCharacter
            match flags.skip (inner.dropWhile isEdgeCharacter) with
            | '\x7d' :: later =>
                (edgeOf? (String.ofList name)).map fun edge => (edge, later)
            | _ => none
          else
            some (.boundary, text)
  | other => some (.boundary, other)

/-- Read a character given by two digits.  Without Unicode these stand for a
byte, which must not be a part of a character. -/
def shortCharacter? (flags : Flags) (text : List Char) :
    Option (Char × List Char) :=
  match hexCharacter? flags 2 text with
  | some (found, later) =>
      let isByte := !flags.has .unicode && (flags.skip text).head? != some '\x7b'
      if isByte && 0x7F < found.toNat then none else some (found, later)
  | none => none

/-- Read an escape of which the backslash has been read.  Properties belong to
Unicode. -/
def escape? (flags : Flags) : List Char → Option (Atom × List Char)
  | [] => none
  | letter :: rest =>
      let character := fun (found : Char × List Char) =>
        (Atom.character found.1, found.2)
      let wordEdge := fun edge => Atom.anchor (.word edge (words flags))
      let isOther := letter.isUpper
      if letter = 'x' then (shortCharacter? flags rest).map character
      else if letter = 'u' then (hexCharacter? flags 4 rest).map character
      else if letter = 'U' then (hexCharacter? flags 8 rest).map character
      else if letter = 'p' || letter = 'P' then
        if flags.has .unicode then
          match property? flags rest with
          | some ((set, isTurned), later) =>
              (signed? flags (isOther != isTurned) (folded flags set)).map
                fun set => (.set set, later)
          | none => none
        else
          none
      else if isPlainEscape letter then some (.character letter, rest)
      else if letter = 'A' then some (.anchor .textStart, rest)
      else if letter = 'z' then some (.anchor .textStop, rest)
      else if letter = 'B' then some (wordEdge .inner, rest)
      else if letter = '<' then some (wordEdge .start, rest)
      else if letter = '>' then some (wordEdge .stop, rest)
      else if letter = 'b' then
        (edge? flags rest).map fun (edge, later) => (wordEdge edge, later)
      else
        match controlCharacter? letter, letterSet? flags letter.toLower with
        | some control, _ => some (.character control, rest)
        | none, some set =>
            (signed? flags isOther set).map fun set => (.set set, rest)
        | none, none => none

end Regex

end SourceMark
