import SourceMark.Script.Literal

/-!
# Tokens of a script

The token at a cursor is read on demand.  What a slash, an angle bracket or a
closing brace stands for depends on the construct that is being read, so
patterns, template pieces and the inside of tags have readers of their own.
-/

namespace SourceMark

namespace Script

/-- A token. -/
inductive Token where
  /-- A name or a word of the language. -/
  | word (text : String)
  /-- A name behind a number sign. -/
  | privateWord (text : String)
  /-- The longest operator or bracket at this place. -/
  | mark (text : String)
  | number
  | text
  /-- The end of the script. -/
  | finish
  /-- No token starts here. -/
  | invalid
deriving Repr, DecidableEq

/-- A token with its place and what follows it. -/
structure Lexeme where
  token : Token
  /-- The offset at which the token counts as starting. -/
  start : Nat
  /-- Whether a line ends in front of the token. -/
  afterLineEnd : Bool
  /-- The place of its first character. -/
  place : Cursor
  behind : Cursor
deriving Repr

/-- The longest operator or bracket at the start of a text. -/
def markAt? : List Char → Option String
  | '>' :: '>' :: '>' :: '=' :: _ => some ">>>="
  | '>' :: '>' :: '>' :: _ => some ">>>"
  | '>' :: '>' :: '=' :: _ => some ">>="
  | '>' :: '>' :: _ => some ">>"
  | '>' :: '=' :: _ => some ">="
  | '>' :: _ => some ">"
  | '<' :: '<' :: '=' :: _ => some "<<="
  | '<' :: '<' :: _ => some "<<"
  | '<' :: '=' :: _ => some "<="
  | '<' :: _ => some "<"
  | '=' :: '=' :: '=' :: _ => some "==="
  | '=' :: '=' :: _ => some "=="
  | '=' :: '>' :: _ => some "=>"
  | '=' :: _ => some "="
  | '!' :: '=' :: '=' :: _ => some "!=="
  | '!' :: '=' :: _ => some "!="
  | '!' :: _ => some "!"
  | '&' :: '&' :: '=' :: _ => some "&&="
  | '&' :: '&' :: _ => some "&&"
  | '&' :: '=' :: _ => some "&="
  | '&' :: _ => some "&"
  | '|' :: '|' :: '=' :: _ => some "||="
  | '|' :: '|' :: _ => some "||"
  | '|' :: '=' :: _ => some "|="
  | '|' :: _ => some "|"
  | '?' :: '?' :: '=' :: _ => some "??="
  | '?' :: '?' :: _ => some "??"
  | '?' :: '.' :: digit :: _ =>
      -- a digit behind the dot belongs to a number
      if Text.isAsciiDigit digit then some "?" else some "?."
  | '?' :: '.' :: _ => some "?."
  | '?' :: _ => some "?"
  | '*' :: '*' :: '=' :: _ => some "**="
  | '*' :: '*' :: _ => some "**"
  | '*' :: '=' :: _ => some "*="
  | '*' :: _ => some "*"
  | '+' :: '+' :: _ => some "++"
  | '+' :: '=' :: _ => some "+="
  | '+' :: _ => some "+"
  | '-' :: '-' :: _ => some "--"
  | '-' :: '=' :: _ => some "-="
  | '-' :: _ => some "-"
  | '/' :: '=' :: _ => some "/="
  | '/' :: _ => some "/"
  | '%' :: '=' :: _ => some "%="
  | '%' :: _ => some "%"
  | '^' :: '=' :: _ => some "^="
  | '^' :: _ => some "^"
  | '.' :: '.' :: '.' :: _ => some "..."
  | '.' :: _ => some "."
  | '\x7b' :: _ => some "\x7b"
  | '\x7d' :: _ => some "\x7d"
  | '(' :: _ => some "("
  | ')' :: _ => some ")"
  | '[' :: _ => some "["
  | ']' :: _ => some "]"
  | ';' :: _ => some ";"
  | ',' :: _ => some ","
  | '~' :: _ => some "~"
  | ':' :: _ => some ":"
  | '@' :: _ => some "@"
  | '\x60' :: _ => some "\x60"
  | _ => none

/-- The word at a cursor, unless it is one of the language that is spelled with
an escape. -/
def plainWord? (cursor : Cursor) : Option (String × Cursor) :=
  match Spelling.at? cursor with
  | some spelling =>
      let word := String.ofList spelling.word
      if spelling.word.isEmpty || (spelling.escaped && isReserved word) then
        none
      else
        some (word, spelling.behind)
  | none => none

/-- The token at a cursor that stands behind its gap. -/
def tokenAt (cursor : Cursor) : Token × Cursor :=
  match cursor.rest with
  | [] => (.finish, cursor)
  | character :: rest =>
      if startsWord character then
        match plainWord? cursor with
        | some (word, behind) => (.word word, behind)
        | none => (.invalid, cursor)
      else if startsNumber cursor.rest then
        match closeNumber? cursor with
        | some behind => (.number, behind)
        | none => (.invalid, cursor)
      else if character = '"' || character = '\x27' then
        match closeText? character { rest, offset := cursor.offset + 1 } with
        | some behind => (.text, behind)
        | none => (.invalid, cursor)
      else if character = '#' then
        match plainWord? { rest, offset := cursor.offset + 1 } with
        | some (word, behind) =>
            if rest.head?.any startsWord then (.privateWord word, behind)
            else (.invalid, cursor)
        | none => (.invalid, cursor)
      else
        match markAt? cursor.rest with
        | some mark => (.mark mark, cursor.skip mark.toList.length)
        | none => (.invalid, cursor)

end Script

/-- The next token behind a cursor. -/
def Cursor.lexeme (cursor : Cursor) : Script.Lexeme :=
  let gap := cursor.gap
  let (token, behind) := Script.tokenAt gap.next
  { token
    start := gap.start
    afterLineEnd := gap.hasLineEnd
    place := gap.next
    behind }

end SourceMark
