import SourceMark.Text.Cut

/-!
# Lines and columns

Lines count from one and columns from zero; a column is the number of
characters since the start of the line.  Only the line feed ends a line.
-/

namespace SourceMark

/-- A place in a file: its line, counted from one, and its column, counted in
characters from zero. -/
structure Position where
  line : Nat
  column : Nat
deriving Repr, DecidableEq, Inhabited

/-- The line starts of a text, each with the text from there on. -/
structure LineIndex where
  lines : List (Nat × List Char)
  length : Nat
deriving Repr

namespace LineIndex

/-- The starts of the lines after the first one. -/
def laterLines (offset : Nat) : List Char → List (Nat × List Char)
  | [] => []
  | character :: rest =>
      let next := offset + character.utf8Size
      if character = '\n' then
        (next, rest) :: laterLines next rest
      else
        laterLines next rest

/-- Index a text. -/
def ofText (source : List Char) : LineIndex where
  lines := (0, source) :: laterLines 0 source
  length := Text.byteLength source

/-- Number of lines; a text without a line feed has one. -/
def lineCount (index : LineIndex) : Nat :=
  index.lines.length

/-- Byte offset at which a line starts; lines count from one. -/
def lineStart? (index : LineIndex) : Nat → Option Nat
  | 0 => none
  | line + 1 => (index.lines[line]?).map Prod.fst

/-- The last line that starts at or before the offset, with its number. -/
def lineAt (offset : Nat) :
    Nat → List (Nat × List Char) → Nat × Nat × List Char
  | number, [] => (number, 0, [])
  | number, [(start, text)] => (number, start, text)
  | number, (start, text) :: (next, later) :: lines =>
      if next ≤ offset then
        lineAt offset (number + 1) ((next, later) :: lines)
      else
        (number, start, text)

/-- The place of a byte offset.  An offset past the end stands for the end, and
inside a character the column falls back to counting bytes. -/
def location (index : LineIndex) (offset : Nat) : Position :=
  let offset := min offset index.length
  let (line, start, text) := lineAt offset 1 index.lines
  match Text.cutAt? text (offset - start) with
  | some (before, _) => { line, column := before.length }
  | none => { line, column := offset - start }

end LineIndex

end SourceMark
