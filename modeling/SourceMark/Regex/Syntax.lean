import SourceMark.Text.CharSet

/-!
# Regular expressions

The tree of a regular expression.  Flags that were set in its text are already
resolved: a set of characters holds all that may stand at a place, and an anchor
says what must stand around one.  Flags change how the text behind them is read,
and hold up to the end of the group in which they are set.
-/

namespace SourceMark

namespace Regex

/-- Where a word may begin or end. -/
inductive WordEdge where
  /-- A word begins or ends here. -/
  | boundary
  /-- No word begins or ends here. -/
  | inner
  /-- A word begins here. -/
  | start
  /-- A word ends here. -/
  | stop
  /-- No word goes on to the left. -/
  | halfStart
  /-- No word goes on to the right. -/
  | halfStop
deriving Repr, DecidableEq

/-- What must stand around a place. -/
inductive Anchor where
  | textStart
  | textStop
  /-- The start of a line; with `crlf` both ends of a line end count. -/
  | lineStart (crlf : Bool)
  /-- The end of a line; with `crlf` both ends of a line end count. -/
  | lineStop (crlf : Bool)
  /-- An edge of a word made up of these characters. -/
  | word (edge : WordEdge) (characters : CharSet)
deriving Repr, DecidableEq

end Regex

/-- A regular expression. -/
inductive Regex where
  | empty
  | one (set : CharSet)
  | anchor (anchor : Regex.Anchor)
  | sequence (first second : Regex)
  | choice (first second : Regex)
  /-- At least so many times, and at most so many when there is a bound. -/
  | repeated (body : Regex) (least : Nat) (most : Option Nat)
  /-- A part whose place in the text could be asked for. -/
  | group (body : Regex)
deriving Repr, DecidableEq

namespace Regex

/-- All parts one after the other. -/
def sequenceOf : List Regex → Regex
  | [] => empty
  | [part] => part
  | part :: parts => sequence part (sequenceOf parts)

/-- Any one of the branches. -/
def choiceOf : List Regex → Regex
  | [] => empty
  | [branch] => branch
  | branch :: branches => choice branch (choiceOf branches)

/-! ## Flags -/

/-- The flags that matter for finding a match. -/
inductive Flag where
  | ignoreCase
  | multiLine
  | dotAll
  | swapGreed
  | unicode
  | crlf
  | extended
deriving Repr, DecidableEq

/-- The flag with that letter. -/
def Flag.ofLetter? : Char → Option Flag
  | 'i' => some ignoreCase
  | 'm' => some multiLine
  | 's' => some dotAll
  | 'U' => some swapGreed
  | 'u' => some unicode
  | 'R' => some crlf
  | 'x' => some extended
  | _ => none

/-- The flags that are set. -/
abbrev Flags : Type := List Flag

namespace Flags

/-- Only Unicode is switched on at the start. -/
def standard : Flags := [.unicode]

/-- Whether a flag is set. -/
def has (flags : Flags) (flag : Flag) : Bool :=
  flags.contains flag

/-- The text without leading blanks and comments; inside a comment all is
dropped up to the end of the line. -/
def skipGap (isComment : Bool) : List Char → List Char
  | [] => []
  | character :: rest =>
      if isComment then skipGap (character != '\n') rest
      else if Text.isBlank character then skipGap false rest
      else if character = '#' then skipGap true rest
      else character :: rest

/-- The text without leading blanks and comments, where these do not count. -/
def skip (flags : Flags) (text : List Char) : List Char :=
  if flags.has .extended then skipGap false text else text

/-- Read the letters in front of a colon or a closing parenthesis.  Answers
with the changed flags, whether there was anything at all, the closing
character and what follows it.  A flag may be named once, and a minus sign,
behind which flags are cleared, must be followed by one. -/
def read? (flags : Flags) (seen : List Flag) (isCleared afterMinus : Bool) :
    List Char → Option (Flags × Bool × Char × List Char)
  | [] => none
  | letter :: rest =>
      if letter = ':' || letter = ')' then
        if afterMinus then none
        else some (flags, isCleared || !seen.isEmpty, letter, rest)
      else if letter = '-' then
        if isCleared then none else read? flags seen true true rest
      else
        match Flag.ofLetter? letter with
        | none => none
        | some flag =>
            if seen.contains flag then
              none
            else
              let others := flags.filter (· != flag)
              read? (if isCleared then others else flag :: others)
                (flag :: seen) isCleared false rest

end Flags

end Regex

end SourceMark
