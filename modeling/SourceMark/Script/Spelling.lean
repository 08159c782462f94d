import SourceMark.Text.Cursor
import SourceMark.Text.Identifier
import SourceMark.Text.Numeral

/-!
# The spelling of words

A word may be spelled with escapes, each of which stands for one character.
Words of the language itself may not be: an escape is refused in all of them.
-/

namespace SourceMark

namespace Script

/-- Words that never name a variable. -/
def keywords : List String :=
  ["break", "case", "catch", "class", "const", "continue", "debugger",
    "default", "delete", "do", "else", "export", "extends", "false",
    "finally", "for", "function", "if", "import", "in", "instanceof", "new",
    "null", "return", "super", "switch", "this", "throw", "true", "try",
    "typeof", "var", "void", "while", "with"]

/-- Words that name no variable in a module, although most of them are read as
names where a name is required. -/
def moduleWords : List String :=
  ["await", "enum", "implements", "interface", "let", "package", "private",
    "protected", "public", "yield"]

/-- Whether a word is one of the language. -/
def isReserved (word : String) : Bool :=
  keywords.contains word || moduleWords.contains word

/-- The number that so many hexadecimal digits spell, and what follows them.
Underscores between the digits do not count. -/
def fixedHex? (value : Nat) : (count offset : Nat) → List Char →
    Option (Nat × Cursor)
  | 0, offset, rest => some (value, { rest, offset })
  | _ + 1, _, [] => none
  | count + 1, offset, '_' :: rest => fixedHex? value (count + 1) (offset + 1) rest
  | count + 1, offset, digit :: rest =>
      match Text.hexValue? digit with
      | some low => fixedHex? (value * 16 + low) count (offset + 1) rest
      | none => none

/-- The number of an escape behind its letter `u`: four digits, or digits
between braces that spell a code point. -/
def unicodeEscape? (cursor : Cursor) : Option (Nat × Cursor) :=
  match cursor.rest with
  | '{' :: rest =>
      let (spelled, behind) :=
        Cursor.takeWhile
          (fun digit => digit = '_' || (Text.hexValue? digit).isSome)
          (cursor.offset + 1) rest
      let digits := spelled.filter (· ≠ '_')
      match behind.rest, Text.hexNumber? digits with
      | '}' :: _, some value =>
          if digits.isEmpty || 0x110000 ≤ value then none
          else some (value, behind.skip 1)
      | _, _ => none
  | rest => fixedHex? 0 4 cursor.offset rest

theorem length_fixedHex? {value count offset number : Nat} {text : List Char}
    {behind : Cursor}
    (found : fixedHex? value count offset text = some (number, behind)) :
    behind.rest.length ≤ text.length := by
  fun_induction fixedHex? value count offset text <;> simp_all <;> grind

theorem length_unicodeEscape? {cursor behind : Cursor} {number : Nat}
    (found : unicodeEscape? cursor = some (number, behind)) :
    behind.rest.length ≤ cursor.rest.length := by
  unfold unicodeEscape? at found
  split at found
  · next rest equality =>
      have taken := Cursor.length_takeWhile
        (fun digit => digit = '_' || (Text.hexValue? digit).isSome)
        (cursor.offset + 1) rest
      simp only at found
      split at found
      · split at found
        · simp at found
        · obtain ⟨_, rfl⟩ := by simpa using found
          simp only [Cursor.length_skip, equality, List.length_cons]
          omega
      · simp at found
  · exact length_fixedHex? found

/-- Whether a code point is half of a surrogate pair. -/
def isSurrogate (value : Nat) : Bool :=
  0xD800 ≤ value && value < 0xE000

/-- The characters for an escape in a word, and the cursor behind it.  Half of
a surrogate pair has no character, so that its escape stays as it is. -/
def wordEscape? (cursor : Cursor) : Option (List Char × Cursor) :=
  match cursor.rest with
  | '\\' :: 'u' :: _ =>
      (unicodeEscape? (cursor.skip 2)).map fun (value, behind) =>
        if isSurrogate value then (cursor.upTo behind, behind)
        else ([Char.ofNat value], behind)
  | _ => none

/-- A word as it was read. -/
structure Spelling where
  word : List Char
  /-- Whether it was spelled with an escape. -/
  escaped : Bool
  behind : Cursor
deriving Repr

/-- The word at a cursor with its escapes, of which there are at most
`fuel`. -/
def escapedWord? : Nat → Cursor → Option Spelling
  | 0, _ => none
  | fuel + 1, cursor =>
      let (plain, behind) :=
        Cursor.takeWhile Text.isWordPart cursor.offset cursor.rest
      match behind.rest with
      | '\\' :: _ =>
          match wordEscape? behind with
          | some (characters, next) =>
              (escapedWord? fuel next).map fun rest =>
                { rest with
                  word := plain ++ characters ++ rest.word, escaped := true }
          | none => none
      | _ => some { word := plain, escaped := false, behind }

/-- The word at a cursor, unless one of its escapes is broken. -/
def Spelling.at? (cursor : Cursor) : Option Spelling :=
  let (word, behind) :=
    Cursor.takeWhile Text.isWordPart cursor.offset cursor.rest
  match behind.rest with
  | '\\' :: _ => escapedWord? (cursor.rest.length + 1) cursor
  | _ => some { word, escaped := false, behind }

/-- Whether a word starts at a character. -/
def startsWord (character : Char) : Bool :=
  character = '\\' || Text.isWordStart character

end Script

end SourceMark
