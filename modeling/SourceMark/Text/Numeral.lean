import SourceMark.Text.Blank

/-!
# Decimal numbers in attribute values

Line numbers, columns and entry numbers are unsigned 64-bit words.  A digit run
that does not fit is not a number.
-/

namespace SourceMark

namespace Text

/-- One more than the largest line, column or entry number. -/
def wordBound : Nat := Nat.pow 2 64

/-- The value of a run of decimal digits. -/
def digitsValue (digits : List Char) : Nat :=
  digits.foldl (fun value digit => value * 10 + (digit.toNat - '0'.toNat)) 0

/-- The value of a digit run, when there is a digit and the value fits. -/
def boundedDigits? (digits : List Char) : Option Nat :=
  if digits.isEmpty then
    none
  else if digitsValue digits < wordBound then
    some (digitsValue digits)
  else
    none

/-- The number at the start of a text: leading blanks are skipped and whatever
follows the digits is ignored. -/
def leadingNumber? (text : List Char) : Option Nat :=
  boundedDigits? ((trimStart text).takeWhile isAsciiDigit)

/-- The number that the whole text spells, with an optional plus sign. -/
def wholeNumber? (text : List Char) : Option Nat :=
  let digits :=
    match text with
    | '+' :: rest => rest
    | other => other
  if digits.all isAsciiDigit then boundedDigits? digits else none

/-- The value of one hexadecimal digit in either case. -/
def hexValue? (character : Char) : Option Nat :=
  if '0' ≤ character ∧ character ≤ '9' then some (character.toNat - 48)
  else if 'a' ≤ character ∧ character ≤ 'f' then some (character.toNat - 87)
  else if 'A' ≤ character ∧ character ≤ 'F' then some (character.toNat - 55)
  else none

/-- The value of hexadecimal digits, most significant first. -/
def hexNumber? (digits : List Char) : Option Nat :=
  digits.foldlM
    (fun value digit => (hexValue? digit).map fun low => value * 16 + low) 0

/-- The decimal digits of a number. -/
def numeral (value : Nat) : String :=
  Nat.repr value

end Text

end SourceMark
