import SourceMark.Text.Blank
import SourceMark.Text.Cursor

/-!
# Gaps between tokens

Blanks and comments between two tokens are skipped by a small machine that
walks the rest of the text once.  Beside the two kinds of comments proper, a
comment in the manner of markup and a line that marks a conflict between two
versions of a file are skipped up to the end of their line.
-/

namespace SourceMark

namespace Script

/-- A character that ends a line. -/
def isLineEnd (character : Char) : Bool :=
  character = '\n' || character = '\r' || character = '\u2028' ||
    character = '\u2029'

/-- A blank that may stand between two tokens of a line. -/
def isScriptBlank (character : Char) : Bool :=
  character = ' ' || character = '\u200b' || character = '\ufeff' ||
    (Text.isBlank character && !isLineEnd character)

/-- Where the walk over blanks and comments stands. -/
inductive GapMode where
  | blanks
  | lineComment
  | blockComment
deriving Repr, DecidableEq

/-- What lies between two tokens. -/
structure Gap where
  /-- Whether a line ends between the tokens. -/
  hasLineEnd : Bool
  /-- The offset at which the next token counts as starting: its own, or that
  of the first skipped line that begins with a mark. -/
  start : Nat
  /-- The place of the next token. -/
  next : Cursor
deriving Repr

/-- What opens a comment in the manner of markup. -/
def markupComment : List Char := "<!--".toList

/-- What begins a line that is skipped. -/
def lineOpenings : List (List Char) :=
  ["-->", "<<<<<<< ", "=======", ">>>>>>> "].map String.toList

/-- Whether the rest of a line is skipped although no comment begins there. -/
def skipsLine (hasLineEnd : Bool) (text : List Char) : Bool :=
  match text with
  | '<' :: _ | '-' :: _ | '=' :: _ | '>' :: _ =>
      markupComment.isPrefixOf text ||
        (hasLineEnd && lineOpenings.any fun opening => opening.isPrefixOf text)
  | _ => false

/-- Skip blanks and comments.  `start` is the offset of the first skipped line
that begins with a mark. -/
def skipGap (mode : GapMode) (hasLineEnd : Bool) (start : Option Nat)
    (offset : Nat) : List Char → Gap
  | [] =>
      { hasLineEnd, start := start.getD offset, next := { rest := [], offset } }
  | '/' :: '/' :: rest =>
      match mode with
      | .blanks => skipGap .lineComment hasLineEnd start (offset + 2) rest
      | _ => skipGap mode hasLineEnd start (offset + 2) rest
  | '/' :: '*' :: rest =>
      match mode with
      | .blanks => skipGap .blockComment hasLineEnd start (offset + 2) rest
      | .lineComment => skipGap .lineComment hasLineEnd start (offset + 2) rest
      | .blockComment =>
          skipGap .blockComment hasLineEnd start (offset + 1) ('*' :: rest)
  | '*' :: '/' :: rest =>
      match mode with
      | .blanks =>
          { hasLineEnd, start := start.getD offset
            next := { rest := '*' :: '/' :: rest, offset } }
      | .lineComment => skipGap .lineComment hasLineEnd start (offset + 2) rest
      | .blockComment => skipGap .blanks hasLineEnd start (offset + 2) rest
  | character :: rest =>
      match mode with
      | .blanks =>
          if isLineEnd character then
            skipGap .blanks true start (offset + character.utf8Size) rest
          else if isScriptBlank character then
            skipGap .blanks hasLineEnd start (offset + character.utf8Size) rest
          else if skipsLine hasLineEnd (character :: rest) then
            skipGap .lineComment hasLineEnd (some (start.getD offset))
              (offset + 1) rest
          else
            { hasLineEnd, start := start.getD offset
              next := { rest := character :: rest, offset } }
      | .lineComment =>
          if isLineEnd character then
            skipGap .blanks true start (offset + character.utf8Size) rest
          else
            skipGap .lineComment hasLineEnd start
              (offset + character.utf8Size) rest
      | .blockComment =>
          skipGap .blockComment (hasLineEnd || isLineEnd character) start
            (offset + character.utf8Size) rest

end Script

/-- The gap behind a cursor.  The start of the text counts as a line end. -/
def Cursor.gap (cursor : Cursor) : Script.Gap :=
  Script.skipGap .blanks (cursor.offset = 0) none cursor.offset cursor.rest

end SourceMark
