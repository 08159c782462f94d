import SourceMark.Script.Gap
import SourceMark.Script.Spelling

/-!
# Literals of a script

Where the literals end: numbers, texts, pieces of templates, patterns, and the
texts between and inside tags.  What a literal stands for is of no interest,
only whether it is one at all.
-/

namespace SourceMark

namespace Script

/-! ## Numbers -/

/-- The cursor behind a run of digits and underscores. -/
def closeDigits (isDigit : Char → Bool) (cursor : Cursor) : Cursor :=
  (Cursor.takeWhile (fun character => isDigit character || character = '_')
    cursor.offset cursor.rest).2

/-- The cursor behind a run of decimal digits. -/
def closeDecimals (cursor : Cursor) : Cursor :=
  closeDigits Text.isAsciiDigit cursor

/-- The cursor behind the mark of a big number, where there is one. -/
def closeBigNumber (cursor : Cursor) : Cursor :=
  match cursor.rest with
  | 'n' :: _ => cursor.skip 1
  | _ => cursor

/-- The cursor behind an exponent, where there is one; it needs a digit. -/
def closeExponent? (cursor : Cursor) : Option Cursor :=
  match cursor.rest with
  | letter :: rest =>
      if letter = 'e' || letter = 'E' then
        let digits :=
          match rest with
          | '+' :: _ | '-' :: _ => cursor.skip 2
          | _ => cursor.skip 1
        if digits.rest.head?.any Text.isAsciiDigit then
          some (closeDecimals digits)
        else
          none
      else
        some cursor
  | [] => some cursor

/-- The cursor behind the fraction and the exponent of a number. -/
def closeFraction? (cursor : Cursor) : Option Cursor :=
  match cursor.rest with
  | '.' :: _ => closeExponent? (closeDecimals (cursor.skip 1))
  | _ => closeExponent? cursor

/-- The cursor behind digits of a base, of which there must be one. -/
def closeBased? (base : Nat) (cursor : Cursor) : Option Cursor :=
  let isDigit := fun character => (Text.hexValue? character).any (· < base)
  let behind := closeDigits isDigit cursor
  if (cursor.upTo behind).any isDigit then some (closeBigNumber behind)
  else none

/-- The base that a letter behind a leading zero stands for. -/
def baseOf? (letter : Char) : Option Nat :=
  if letter = 'x' || letter = 'X' then some 16
  else if letter = 'o' || letter = 'O' then some 8
  else if letter = 'b' || letter = 'B' then some 2
  else none

/-- The cursor behind a decimal number. -/
def closeDecimal? (cursor : Cursor) : Option Cursor :=
  let whole := closeDecimals cursor
  match whole.rest with
  | 'n' :: _ => some (whole.skip 1)
  | _ => closeFraction? whole

/-- The cursor behind a number that starts with two digits, the first of them a
zero: an octal number, unless a digit is too large for one. -/
def closeLegacy? (cursor : Cursor) : Option Cursor :=
  let whole := closeDecimals cursor
  if (cursor.upTo whole).any fun digit => digit = '8' || digit = '9' then
    closeFraction? whole
  else
    some whole

/-- The cursor behind a number; no word may follow it directly. -/
def closeNumber? (cursor : Cursor) : Option Cursor :=
  let behind? :=
    match cursor.rest with
    | '0' :: letter :: _ =>
        match baseOf? letter with
        | some base => closeBased? base (cursor.skip 2)
        | none =>
            if letter = '_' || Text.isAsciiDigit letter then
              closeLegacy? cursor
            else
              closeDecimal? cursor
    | _ => closeDecimal? cursor
  behind?.filter fun behind =>
    !behind.rest.head?.any Text.isWordStart

/-- Whether a number starts at a text. -/
def startsNumber : List Char → Bool
  | '.' :: digit :: _ => Text.isAsciiDigit digit
  | character :: _ => Text.isAsciiDigit character
  | [] => false

/-! ## Texts and templates -/

/-- The cursor behind an escape whose backslash was passed, and whether the
escape means something.  In a template, digits may not be escaped, except for
a zero that no digit follows. -/
def closeEscape? (inTemplate : Bool) (cursor : Cursor) :
    Option (Bool × Cursor) :=
  match cursor.rest with
  | [] => none
  | '\r' :: '\n' :: _ => some (true, cursor.skip 2)
  | 'x' :: rest =>
      match fixedHex? 0 2 (cursor.offset + 1) rest with
      | some (_, behind) => some (true, behind)
      | none => some (false, cursor.skip 1)
  | 'u' :: _ =>
      match unicodeEscape? (cursor.skip 1) with
      | some (_, behind) => some (true, behind)
      | none => some (false, cursor.skip 1)
  | '0' :: rest =>
      some (!inTemplate || !rest.head?.any Text.isAsciiDigit, cursor.skip 1)
  | digit :: _ =>
      some (!inTemplate || !('1' ≤ digit && digit ≤ '7'), cursor.skip 1)

theorem length_closeEscape? {inTemplate isSound : Bool}
    {cursor behind : Cursor}
    (found : closeEscape? inTemplate cursor = some (isSound, behind)) :
    behind.rest.length ≤ cursor.rest.length := by
  unfold closeEscape? at found
  split at found
  · simp at found
  · obtain ⟨_, rfl⟩ := by simpa using found
    simp [Cursor.length_skip]
  · next rest equality =>
      split at found
      · next closed =>
          obtain ⟨_, rfl⟩ := by simpa using found
          have := length_fixedHex? closed
          simp only [equality, List.length_cons]
          omega
      · obtain ⟨_, rfl⟩ := by simpa using found
        simp [Cursor.length_skip]
  · split at found
    · next closed =>
        obtain ⟨_, rfl⟩ := by simpa using found
        have := length_unicodeEscape? closed
        simp only [Cursor.length_skip] at this
        omega
    · obtain ⟨_, rfl⟩ := by simpa using found
      simp [Cursor.length_skip]
  · obtain ⟨_, rfl⟩ := by simpa using found
    simp [Cursor.length_skip]
  · obtain ⟨_, rfl⟩ := by simpa using found
    simp [Cursor.length_skip]

/-- The cursor in front of the next character of a text that is its quote, a
backslash or the end of its line. -/
def skipPlainText (quote : Char) (cursor : Cursor) : Cursor :=
  (Cursor.takeWhile
    (fun character => character ≠ quote && character ≠ '\n' &&
      character ≠ '\r' && character ≠ '\\')
    cursor.offset cursor.rest).2

theorem length_skipPlainText (quote : Char) (cursor : Cursor) :
    (skipPlainText quote cursor).rest.length ≤ cursor.rest.length := by
  have taken := Cursor.length_takeWhile
    (fun character => character ≠ quote && character ≠ '\n' &&
      character ≠ '\r' && character ≠ '\\')
    cursor.offset cursor.rest
  unfold skipPlainText
  omega

/-- The cursor behind a text literal whose opening quote was passed.  A literal
without its closing quote goes to the end of its line. -/
def closeText? (quote : Char) (cursor : Cursor) : Option Cursor :=
  let behind := skipPlainText quote cursor
  match equality : behind.rest with
  | '\\' :: rest =>
      match found : closeEscape? false { rest, offset := behind.offset + 1 } with
      | some (true, next) =>
          have : next.rest.length < cursor.rest.length := by
            have plain := length_skipPlainText quote cursor
            have shorter := length_closeEscape? found
            simp only [behind] at equality
            simp only [equality, List.length_cons] at plain shorter
            omega
          closeText? quote next
      | _ => none
  | character :: _ =>
      some (if character = quote then behind.skip 1 else behind)
  | [] => some behind
termination_by cursor.rest.length

/-- How a piece of a template literal ends. -/
inductive TemplateStop where
  /-- At the mark that closes the literal. -/
  | closed
  /-- At the brace that opens a substitution. -/
  | substitution
deriving Repr, DecidableEq

/-- A piece of a template literal. -/
structure TemplatePiece where
  stop : TemplateStop
  /-- Whether all its escapes mean something, as they must unless the literal
  is handed to a tag. -/
  isSound : Bool
  behind : Cursor
deriving Repr

/-- The cursor in front of the next character of a template that is a dollar
sign, a backslash or the closing mark. -/
def skipPlainTemplate (cursor : Cursor) : Cursor :=
  (Cursor.takeWhile
    (fun character => character ≠ '\x60' && character ≠ '$' &&
      character ≠ '\\')
    cursor.offset cursor.rest).2

theorem length_skipPlainTemplate (cursor : Cursor) :
    (skipPlainTemplate cursor).rest.length ≤ cursor.rest.length := by
  have taken := Cursor.length_takeWhile
    (fun character => character ≠ '\x60' && character ≠ '$' &&
      character ≠ '\\')
    cursor.offset cursor.rest
  unfold skipPlainTemplate
  omega

/-- The piece of a template literal at a cursor. -/
def templatePiece? (cursor : Cursor) : Option TemplatePiece :=
  let behind := skipPlainTemplate cursor
  match equality : behind.rest with
  | '\\' :: rest =>
      match found : closeEscape? true { rest, offset := behind.offset + 1 } with
      | some (isSound, next) =>
          have : next.rest.length < cursor.rest.length := by
            have plain := length_skipPlainTemplate cursor
            have shorter := length_closeEscape? found
            simp only [behind] at equality
            simp only [equality, List.length_cons] at plain shorter
            omega
          (templatePiece? next).map fun piece =>
            { piece with isSound := isSound && piece.isSound }
      | none => none
  | '$' :: '{' :: _ =>
      some { stop := .substitution, isSound := true, behind := behind.skip 2 }
  | '$' :: rest =>
      have : rest.length < cursor.rest.length := by
        have plain := length_skipPlainTemplate cursor
        simp only [behind] at equality
        simp only [equality, List.length_cons] at plain
        omega
      templatePiece? { rest, offset := behind.offset + 1 }
  | _ :: _ =>
      some { stop := .closed, isSound := true, behind := behind.skip 1 }
  | [] => none
termination_by cursor.rest.length

/-! ## Patterns -/

/-- The cursor behind the closing slash of a pattern literal. -/
def closePattern? (inClass : Bool) (offset : Nat) : List Char → Option Cursor
  | [] => none
  | '\\' :: escaped :: rest =>
      if isLineEnd escaped then none
      else closePattern? inClass (offset + 1 + escaped.utf8Size) rest
  | character :: rest =>
      if isLineEnd character then none
      else if character = '/' && !inClass then
        some { rest, offset := offset + 1 }
      else
        closePattern?
          (if character = '[' then true
            else if character = ']' then false else inClass)
          (offset + character.utf8Size) rest

/-! ## Tags -/

/-- A name inside a tag: a word, behind which there may also be hyphens. -/
def tagWord? (cursor : Cursor) : Option (String × Cursor) :=
  match cursor.rest with
  | character :: _ =>
      if startsWord character then
        match Spelling.at? cursor with
        | some spelling =>
            let word := String.ofList spelling.word
            if spelling.escaped && isReserved word then
              none
            else
              let (more, behind) :=
                Cursor.takeWhile
                  (fun character =>
                    Text.isWordPart character || character = '-')
                  spelling.behind.offset spelling.behind.rest
              some (word ++ String.ofList more, behind)
        | none => none
      else
        none
  | [] => none

/-- The cursor behind the closing quote of an attribute value, in which a
backslash has no meaning. -/
def closeAttribute? (quote : Char) (offset : Nat) : List Char → Option Cursor
  | [] => none
  | character :: rest =>
      if character = quote then some { rest, offset := offset + 1 }
      else closeAttribute? quote (offset + character.utf8Size) rest

/-- The cursor in front of the brace or angle bracket that ends a text between
tags. -/
def closeTagText (cursor : Cursor) : Cursor :=
  (Cursor.takeWhile (fun character => character ≠ '{' && character ≠ '<')
    cursor.offset cursor.rest).2

end Script

end SourceMark
