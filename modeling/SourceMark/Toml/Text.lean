import SourceMark.Text.Numeral

/-!
# Texts and keys of a TOML document

Texts stand between quotes, single or threefold; a backslash means something
between double quotes only.  Threefold quotes may go over several lines, whose
ends count as line feeds.
-/

namespace SourceMark

namespace Toml

/-- The text without leading blanks and tabulators. -/
def skipBlanks (text : List Char) : List Char :=
  text.dropWhile fun character => character = ' ' || character = '\t'

/-- Read the end of a line. -/
def lineEnd? : List Char → Option (List Char)
  | '\n' :: rest => some rest
  | '\r' :: '\n' :: rest => some rest
  | _ => none

/-- A character that may stand for itself in a text or a comment. -/
def isPlain (character : Char) : Bool :=
  character = '\t' || (0x20 ≤ character.toNat && character.toNat != 0x7F)

/-- What a single letter behind a backslash stands for. -/
def shortEscape? : Char → Option Char
  | 'b' => some '\x08'
  | 't' => some '\t'
  | 'n' => some '\n'
  | 'f' => some '\x0c'
  | 'r' => some '\r'
  | '"' => some '"'
  | '\\' => some '\\'
  | _ => none

/-- The character with the code point that so many hexadecimal digits spell. -/
def codePoint? (digits : Nat) (text : List Char) : Option (Char × List Char) :=
  if text.length < digits then
    none
  else
    match Text.hexNumber? (text.take digits) with
    | some value =>
        if value < 0xD800 || (0xE000 ≤ value && value < 0x110000) then
          some (Char.ofNat value, text.drop digits)
        else
          none
    | none => none

/-- Read an escape of which the backslash has been read. -/
def escape? : List Char → Option (Char × List Char)
  | 'u' :: rest => codePoint? 4 rest
  | 'U' :: rest => codePoint? 8 rest
  | letter :: rest => (shortEscape? letter).map fun found => (found, rest)
  | [] => none

/-- The text without leading blanks, tabulators and line ends. -/
def skipLines : List Char → List Char
  | '\r' :: '\n' :: rest => skipLines rest
  | character :: rest =>
      if character = ' ' || character = '\t' || character = '\n' then
        skipLines rest
      else
        character :: rest
  | [] => []

/-- Read what a backslash leaves out at the end of a line: blanks, the end of
the line, and the blank start of what follows. -/
def continuation? (text : List Char) : Option (List Char) :=
  (lineEnd? (skipBlanks text)).map skipLines

/-- How a text is quoted. -/
structure Quoting where
  quote : Char
  /-- A backslash means something. -/
  escapes : Bool
  /-- The quotes are threefold. -/
  isLong : Bool
deriving Repr, DecidableEq

/-- Whether three such quotes stand here. -/
def closesLong (quote : Char) (text : List Char) : Bool :=
  [quote, quote, quote].isPrefixOf text

/-- Read up to the closing quote.  Behind a long text up to two quotes more
belong to the text. -/
def body? (quoting : Quoting) : Nat → List Char → Option (List Char × List Char)
  | 0, _ => none
  | _ + 1, [] => none
  | fuel + 1, character :: rest =>
      let keep := fun (found : Char) (later : List Char) =>
        (body? quoting fuel later).map fun (body, after) =>
          (found :: body, after)
      if character = quoting.quote then
        if quoting.isLong then
          if closesLong quoting.quote (character :: rest) then
            let behind := rest.drop 2
            let extra := (behind.take 2).takeWhile (· == quoting.quote)
            some (extra, behind.drop extra.length)
          else
            keep character rest
        else
          some ([], rest)
      else if character = '\\' && quoting.escapes then
        match quoting.isLong, continuation? rest with
        | true, some later => body? quoting fuel later
        | _, _ =>
            match escape? rest with
            | some (found, later) => keep found later
            | none => none
      else if isPlain character then
        keep character rest
      else if quoting.isLong then
        match lineEnd? (character :: rest) with
        | some later => keep '\n' later
        | none => none
      else
        none

/-- How a text beginning here is quoted. -/
def quoting? : List Char → Option Quoting
  | [] => none
  | quote :: rest =>
      if quote = '"' || quote = '\x27' then
        some { quote, escapes := quote = '"', isLong := closesLong quote (quote :: rest) }
      else
        none

/-- Read a text that may be long. -/
def text? (text : List Char) : Option (String × List Char) :=
  match quoting? text with
  | none => none
  | some quoting =>
      let inner :=
        if quoting.isLong then
          let behind := text.drop 3
          (lineEnd? behind).getD behind
        else
          text.drop 1
      (body? quoting (text.length + 1) inner).map fun (body, later) =>
        (String.ofList body, later)

/-- A character of a key without quotes. -/
def isKeyCharacter (character : Char) : Bool :=
  Text.isAsciiLetter character || Text.isAsciiDigit character ||
    character = '-' || character = '_'

/-- Read one part of a key, which may be quoted but not long. -/
def keyPart? (text : List Char) : Option (String × List Char) :=
  match quoting? text with
  | some quoting =>
      (body? { quoting with isLong := false } (text.length + 1)
        (text.drop 1)).map fun (body, later) => (String.ofList body, later)
  | none =>
      let part := text.takeWhile isKeyCharacter
      if part.isEmpty then none
      else some (String.ofList part, text.drop part.length)

/-- Read the parts of a dotted key with blanks around them. -/
def keyParts? : Nat → List Char → Option (List String × List Char)
  | 0, _ => none
  | fuel + 1, text =>
      match keyPart? (skipBlanks text) with
      | none => none
      | some (part, behind) =>
          match skipBlanks behind with
          | '.' :: rest =>
              (keyParts? fuel rest).map fun (parts, later) =>
                (part :: parts, later)
          | later => some ([part], later)

/-- How deep values may nest, and one more than the parts of a key. -/
def depthLimit : Nat := 80

/-- Read a dotted key: the path and the last part. -/
def key? (text : List Char) : Option ((List String × String) × List Char) :=
  match keyParts? (depthLimit - 1) text with
  | some (parts, later) =>
      match parts.getLast? with
      | some last => some ((parts.dropLast, last), later)
      | none => none
  | none => none

end Toml

end SourceMark
