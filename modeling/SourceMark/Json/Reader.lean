import SourceMark.Json
import SourceMark.Text.Numeral

/-!
# Reading JSON

The strict grammar: no comments, no trailing commas, no leading zeros and no
control characters inside a text.  A surrogate without its partner spoils the
text that it stands in.  `read?` refuses spoiled values and values that nest
more than `depthLimit` deep; `skim?` is for readers that skip what they do not
know, in which neither does harm.
-/

namespace SourceMark

namespace Json

/-- The four characters that may stand between the parts of a value. -/
def isGap (character : Char) : Bool :=
  character = ' ' || character = '\n' || character = '\t' || character = '\r'

/-- The text without its leading gap. -/
def skipGap (text : List Char) : List Char :=
  text.dropWhile isGap

/-- What a single letter after a backslash stands for. -/
def shortEscape? : Char → Option Char
  | '"' => some '"'
  | '\\' => some '\\'
  | '/' => some '/'
  | 'b' => some '\x08'
  | 'f' => some '\x0c'
  | 'n' => some '\n'
  | 'r' => some '\r'
  | 't' => some '\t'
  | _ => none

/-- Whether a number is the first half of a surrogate pair. -/
def isLeadingHalf (value : Nat) : Bool :=
  0xD800 ≤ value && value < 0xDC00

/-- Whether a number is the second half of a surrogate pair. -/
def isTrailingHalf (value : Nat) : Bool :=
  0xDC00 ≤ value && value < 0xE000

/-- Put a character before the text read after it. -/
def prepend (character : Char) :
    Option (Option (List Char) × List Char) →
      Option (Option (List Char) × List Char)
  | some (content, rest) => some (content.map (character :: ·), rest)
  | none => none

/-- Spoil the text read when the condition holds. -/
def spoilIf (condition : Bool) :
    Option (Option (List Char) × List Char) →
      Option (Option (List Char) × List Char)
  | some (content, rest) => some (if condition then none else content, rest)
  | none => none

/-- The character of a surrogate pair. -/
def pairChar (leading trailing : Nat) : Char :=
  Char.ofNat (0x10000 + (leading - 0xD800) * 0x400 + (trailing - 0xDC00))

/-- The text up to its closing quote, and what follows the quote, where `half`
is the leading half of a surrogate pair just passed.  A text with a half that
has no partner has no content. -/
def readTextAfter (half : Option Nat) :
    List Char → Option (Option (List Char) × List Char)
  | [] => none
  | '"' :: rest => spoilIf half.isSome (some (some [], rest))
  | '\\' :: 'u' :: first :: second :: third :: fourth :: rest =>
      match Text.hexNumber? [first, second, third, fourth] with
      | none => none
      | some value =>
          if isTrailingHalf value then
            match half with
            | some leading =>
                prepend (pairChar leading value) (readTextAfter none rest)
            | none => spoilIf true (readTextAfter none rest)
          else if isLeadingHalf value then
            spoilIf half.isSome (readTextAfter (some value) rest)
          else
            spoilIf half.isSome
              (prepend (Char.ofNat value) (readTextAfter none rest))
  | '\\' :: letter :: rest =>
      match shortEscape? letter with
      | some character =>
          spoilIf half.isSome (prepend character (readTextAfter none rest))
      | none => none
  | character :: rest =>
      if character = '\\' ∨ character.toNat < 0x20 then
        none
      else
        spoilIf half.isSome (prepend character (readTextAfter none rest))

/-- The text up to its closing quote, and what follows the quote. -/
def readText (text : List Char) :
    Option (Option (List Char) × List Char) :=
  readTextAfter none text

/-- The longest leading run of digits, and what follows it. -/
def readDigits (text : List Char) : List Char × List Char :=
  (text.takeWhile Text.isAsciiDigit, text.dropWhile Text.isAsciiDigit)

/-- The optional fraction of a number. -/
def readFraction : List Char → Option (List Char × List Char)
  | '.' :: rest =>
      match readDigits rest with
      | ([], _) => none
      | (digits, later) => some ('.' :: digits, later)
  | text => some ([], text)

/-- The optional exponent of a number. -/
def readExponent : List Char → Option (List Char × List Char)
  | letter :: rest =>
      if letter = 'e' ∨ letter = 'E' then
        let (sign, unsigned) :=
          match rest with
          | '+' :: later => (['+'], later)
          | '-' :: later => (['-'], later)
          | later => ([], later)
        match readDigits unsigned with
        | ([], _) => none
        | (digits, later) => some (letter :: sign ++ digits, later)
      else
        some ([], letter :: rest)
  | [] => some ([], [])

/-- A number without its sign: digits, fraction and exponent. -/
def readUnsigned (text : List Char) :
    Option ((List Char × List Char × List Char) × List Char) :=
  match readDigits text with
  | ([], _) => none
  | (digit :: digits, rest) =>
      if digit = '0' ∧ digits ≠ [] then
        none
      else
        match readFraction rest with
        | none => none
        | some (fraction, rest) =>
            match readExponent rest with
            | none => none
            | some (exponent, rest) =>
                some ((digit :: digits, fraction, exponent), rest)

/-- A number; only a plain digit run below the word bound is a whole number. -/
def readNumber (text : List Char) : Option (Json × List Char) :=
  let (sign, unsigned) :=
    match text with
    | '-' :: rest => (['-'], rest)
    | other => ([], other)
  match readUnsigned unsigned with
  | none => none
  | some ((digits, fraction, exponent), rest) =>
      let plain := sign.isEmpty && fraction.isEmpty && exponent.isEmpty
      if plain && Text.digitsValue digits < Text.wordBound then
        some (natural (Text.digitsValue digits), rest)
      else
        some (decimal (String.ofList (sign ++ digits ++ fraction ++ exponent)),
          rest)

/-- Items up to the closing bracket; at least one is expected. -/
def readItems (readItem : List Char → Option (Json × List Char)) :
    Nat → List Char → Option (List Json × List Char)
  | 0, _ => none
  | fuel + 1, text =>
      match readItem text with
      | none => none
      | some (item, rest) =>
          match skipGap rest with
          | ',' :: later =>
              match readItems readItem fuel later with
              | some (items, rest) => some (item :: items, rest)
              | none => none
          | ']' :: later => some ([item], later)
          | _ => none

/-- One field: its name, unless that is spoiled, a colon and its value. -/
def readField (readItem : List Char → Option (Json × List Char))
    (text : List Char) : Option ((Option String × Json) × List Char) :=
  match skipGap text with
  | '"' :: rest =>
      match readText rest with
      | none => none
      | some (name, rest) =>
          match skipGap rest with
          | ':' :: rest =>
              match readItem rest with
              | some (value, rest) =>
                  some ((name.map String.ofList, value), rest)
              | none => none
          | _ => none
  | _ => none

/-- Fields up to the closing brace; at least one is expected. -/
def readFields (readItem : List Char → Option (Json × List Char)) :
    Nat → List Char → Option (List (Option String × Json) × List Char)
  | 0, _ => none
  | fuel + 1, text =>
      match readField readItem text with
      | none => none
      | some (field, rest) =>
          match skipGap rest with
          | ',' :: later =>
              match readFields readItem fuel later with
              | some (fields, rest) => some (field :: fields, rest)
              | none => none
          | '}' :: later => some ([field], later)
          | _ => none

/-- The record of these fields, all of whose names must be sound. -/
def ofFields (fields : List (Option String × Json)) : Json :=
  match fields.mapM fun field => field.1.map fun name => (name, field.2) with
  | some named => record named
  | none => spoiled

/-- One value after an optional gap, with at most `depth` nested brackets. -/
def readValue : Nat → List Char → Option (Json × List Char)
  | depth, text =>
      match skipGap text with
      | 'n' :: 'u' :: 'l' :: 'l' :: rest => some (null, rest)
      | 't' :: 'r' :: 'u' :: 'e' :: rest => some (boolean true, rest)
      | 'f' :: 'a' :: 'l' :: 's' :: 'e' :: rest => some (boolean false, rest)
      | '"' :: rest =>
          (readText rest).map fun found =>
            match found.1 with
            | some content => (string (String.ofList content), found.2)
            | none => (spoiled, found.2)
      | '[' :: rest =>
          match depth with
          | 0 => none
          | depth + 1 =>
              match skipGap rest with
              | ']' :: later => some (list [], later)
              | _ =>
                  (readItems (readValue depth) (rest.length + 1) rest).map
                    fun found => (list found.1, found.2)
      | '{' :: rest =>
          match depth with
          | 0 => none
          | depth + 1 =>
              match skipGap rest with
              | '}' :: later => some (record [], later)
              | _ =>
                  (readFields (readValue depth) (rest.length + 1) rest).map
                    fun found => (ofFields found.1, found.2)
      | other => readNumber other

/-- The value that the whole text spells, spoiled parts and all. -/
def skim? (text : String) : Option Json :=
  let characters := text.toList
  match readValue characters.length characters with
  | some (value, rest) => if (skipGap rest).isEmpty then some value else none
  | none => none

/-- How many lists and records may enclose one another. -/
def depthLimit : Nat := 127

/-- The value that the whole text spells. -/
def read? (text : String) : Option Json :=
  (skim? text).filter fun value => value.isSoundWithin depthLimit

end Json

end SourceMark
