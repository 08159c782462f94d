import SourceMark.Json

/-!
# Writing JSON

`compact` writes without any blanks, `pretty` one item or field a line with two
blanks of indentation per level.  Characters outside ASCII are written as they
are; only quotes, backslashes and control characters are escaped.  A spoiled
value has no spelling and is written as `null`.
-/

namespace SourceMark

namespace Json

/-- The digits of sixteen, in lower case. -/
def hexDigit (value : Nat) : Char :=
  if value < 10 then Char.ofNat (48 + value) else Char.ofNat (87 + value)

/-- A character as it stands between the quotes of a JSON text. -/
def escapeChar (character : Char) : List Char :=
  if character = '"' then ['\\', '"']
  else if character = '\\' then ['\\', '\\']
  else if character = '\n' then ['\\', 'n']
  else if character = '\r' then ['\\', 'r']
  else if character = '\t' then ['\\', 't']
  else if character = '\x08' then ['\\', 'b']
  else if character = '\x0c' then ['\\', 'f']
  else if character.toNat < 0x20 then
    ['\\', 'u', '0', '0', hexDigit (character.toNat / 16),
      hexDigit (character.toNat % 16)]
  else [character]

/-- A text with its quotes. -/
def quotedChars (value : List Char) : List Char :=
  '"' :: (value.flatMap escapeChar ++ ['"'])

/-- A string with its quotes. -/
def quoted (value : String) : String :=
  String.ofList (quotedChars value.toList)

mutual

/-- The value without any blanks. -/
def compact : Json → String
  | null => "null"
  | boolean true => "true"
  | boolean false => "false"
  | natural value => Text.numeral value
  | decimal literal => literal
  | string value => quoted value
  | list items => "[" ++ compactItems items ++ "]"
  | record fields => "\x7b" ++ compactFields fields ++ "\x7d"
  | spoiled => "null"

/-- Items separated by commas. -/
def compactItems : List Json → String
  | [] => ""
  | [item] => compact item
  | item :: items => compact item ++ "," ++ compactItems items

/-- Fields separated by commas. -/
def compactFields : List (String × Json) → String
  | [] => ""
  | [(name, value)] => quoted name ++ ":" ++ compact value
  | (name, value) :: fields =>
      quoted name ++ ":" ++ compact value ++ "," ++ compactFields fields

end

/-- The blanks at the start of a line. -/
def indentation (level : Nat) : String :=
  String.ofList (List.replicate (2 * level) ' ')

mutual

/-- The value with one item or field a line, inside `level` brackets. -/
def prettyAt (level : Nat) : Json → String
  | list [] => "[]"
  | list (item :: items) =>
      "[\n" ++ prettyItems (level + 1) (item :: items) ++ "\n" ++
        indentation level ++ "]"
  | record [] => "\x7b\x7d"
  | record (field :: fields) =>
      "\x7b\n" ++ prettyFields (level + 1) (field :: fields) ++ "\n" ++
        indentation level ++ "\x7d"
  | null => "null"
  | boolean true => "true"
  | boolean false => "false"
  | natural value => Text.numeral value
  | decimal literal => literal
  | string value => quoted value
  | spoiled => "null"

/-- Items on lines of their own. -/
def prettyItems (level : Nat) : List Json → String
  | [] => ""
  | [item] => indentation level ++ prettyAt level item
  | item :: items =>
      indentation level ++ prettyAt level item ++ ",\n" ++
        prettyItems level items

/-- Fields on lines of their own. -/
def prettyFields (level : Nat) : List (String × Json) → String
  | [] => ""
  | [(name, value)] =>
      indentation level ++ quoted name ++ ": " ++ prettyAt level value
  | (name, value) :: fields =>
      indentation level ++ quoted name ++ ": " ++ prettyAt level value ++
        ",\n" ++ prettyFields level fields

end

/-- The value with one item or field a line. -/
def pretty (value : Json) : String :=
  prettyAt 0 value

end Json

end SourceMark
