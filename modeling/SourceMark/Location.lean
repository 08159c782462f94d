import SourceMark.Text.LineIndex
import SourceMark.Text.Numeral
import SourceMark.Text.Search

/-!
# Source locations and their written forms

An element carries either its location, written `file:line:column`, or the key
of an entry in the table of its file, written `file::entry`.  File names may
themselves contain colons, so both forms are read from the right.
-/

namespace SourceMark

/-- A place in a named source file. -/
structure Location where
  file : String
  line : Nat
  column : Nat
deriving Repr, DecidableEq

namespace Location

/-- The location of a position in a file. -/
def ofPosition (file : String) (position : Position) : Location :=
  { file, line := position.line, column := position.column }

/-- The form `file:line:column`. -/
def encode (location : Location) : String :=
  location.file ++ ":" ++ Text.numeral location.line ++ ":" ++
    Text.numeral location.column

/-- Read the form `file:line:column`.  A column without digits counts as zero;
a line without digits and an empty file are refused. -/
def decode? (value : String) : Option Location :=
  match Text.splitLast? [':'] value.toList with
  | none => none
  | some (before, columnText) =>
      match Text.splitLast? [':'] before with
      | none => none
      | some (file, lineText) =>
          match Text.leadingNumber? lineText with
          | none => none
          | some line =>
              if file.isEmpty then
                none
              else
                some {
                  file := String.ofList file
                  line
                  column := (Text.leadingNumber? columnText).getD 0 }

end Location

/-- The key of one entry in the table of a file. -/
structure EntryKey where
  file : String
  entry : Nat
deriving Repr, DecidableEq

namespace EntryKey

/-- The form `file::entry`. -/
def encode (key : EntryKey) : String :=
  key.file ++ "::" ++ Text.numeral key.entry

/-- Read the form `file::entry`; blanks around the number are allowed. -/
def decode? (value : String) : Option EntryKey :=
  match Text.splitLast? [':', ':'] value.toList with
  | none => none
  | some (file, entryText) =>
      if file.isEmpty then
        none
      else
        (Text.wholeNumber? (Text.trim entryText)).map fun entry =>
          { file := String.ofList file, entry }

end EntryKey

end SourceMark
