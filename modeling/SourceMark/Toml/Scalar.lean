import SourceMark.Json
import SourceMark.Toml.Text

/-!
# Numbers and times of a TOML document

Whole numbers are signed 64-bit words.  Times are checked and kept as they are
written, under a key of their own.
-/

namespace SourceMark

namespace Toml

/-- Read digits, between which there may be single underscores. -/
def digits? (isDigit : Char → Bool) : List Char →
    Option (List Char × List Char)
  | [] => none
  | first :: rest =>
      if isDigit first then
        match rest with
        | '_' :: more =>
            (digits? isDigit more).map fun (digits, later) =>
              (first :: digits, later)
        | more =>
            match digits? isDigit more with
            | some (digits, later) => some (first :: digits, later)
            | none =>
                if more.head?.any isDigit then none else some ([first], more)
      else
        none

/-- Read an unsigned decimal number without leading zeros. -/
def plainDigits? : List Char → Option (List Char × List Char)
  | '0' :: rest => some (['0'], rest)
  | text => digits? Text.isAsciiDigit text

/-- The digits behind a sign of the base, and the base. -/
def based? : List Char → Option (Nat × List Char)
  | '0' :: 'x' :: rest => some (16, rest)
  | '0' :: 'o' :: rest => some (8, rest)
  | '0' :: 'b' :: rest => some (2, rest)
  | _ => none

/-- Whether a character is a digit in a base. -/
def isDigitIn (base : Nat) (character : Char) : Bool :=
  (Text.hexValue? character).any (· < base)

/-- One more than the largest whole number. -/
def integerBound : Nat := Nat.pow 2 63

/-- The whole number with that sign and size, if it is in bounds. -/
def integer? (isNegative : Bool) (size : Nat) : Option Json :=
  if isNegative then
    if size = 0 then some (.natural 0)
    else if size ≤ integerBound then some (.decimal ("-" ++ Text.numeral size))
    else none
  else if size < integerBound then some (.natural size)
  else none

/-- Read the exponent of a number. -/
def exponent? : List Char → Option (List Char × List Char)
  | letter :: rest =>
      if letter = 'e' || letter = 'E' then
        let sign := rest.takeWhile fun character =>
          character = '+' || character = '-'
        if sign.length ≤ 1 then
          (digits? Text.isAsciiDigit (rest.drop sign.length)).map
            fun (digits, later) => ('e' :: sign ++ digits, later)
        else
          none
      else
        none
  | [] => none

/-- Whether the text begins with an exponent. -/
def beginsExponent (text : List Char) : Bool :=
  text.head?.any fun letter => letter = 'e' || letter = 'E'

/-- The least number that is infinite when it is rounded to a double word. -/
def infinityBound : Nat := Nat.pow 2 1024 - Nat.pow 2 970

/-- Whether the digits, taken as a whole number times a power of ten, make an
infinite number.  The count of the digits decides unless it is that of the
bound. -/
def isInfinite (digits : List Char) (power : Int) : Bool :=
  let significant := digits.dropWhile (· == '0')
  let magnitude := significant.length + power
  if significant.isEmpty || magnitude < 309 then false
  else if 309 < magnitude then true
  else
    let value := Text.digitsValue significant
    if 0 ≤ power then infinityBound ≤ value * Nat.pow 10 power.toNat
    else infinityBound * Nat.pow 10 (-power).toNat ≤ value

/-- The value of an exponent with its letter and its sign. -/
def exponentValue (exponent : List Char) : Int :=
  match exponent.drop 1 with
  | '-' :: digits => -Text.digitsValue digits
  | '+' :: digits => Text.digitsValue digits
  | digits => Text.digitsValue digits

/-- The number with these parts.  Only a negative one may be too large. -/
def decimal? (sign whole fraction exponent : List Char) : Option Json :=
  if sign ≠ ['-'] && isInfinite (whole ++ fraction)
      (exponentValue exponent - fraction.length) then
    none
  else
    let point := if fraction.isEmpty then [] else ['.']
    some (.decimal (String.ofList
      (sign ++ whole ++ point ++ fraction ++ exponent)))

/-- Read what may follow the whole part of a number, and the number. -/
def fraction? (sign whole text : List Char) : Option (Json × List Char) :=
  let number := fun (fraction exponent later : List Char) =>
    (decimal? sign whole fraction exponent).map fun value => (value, later)
  match text with
  | '.' :: rest =>
      match digits? Text.isAsciiDigit rest with
      | none => none
      | some (digits, behind) =>
          if beginsExponent behind then
            match exponent? behind with
            | some (exponent, later) => number digits exponent later
            | none => none
          else
            number digits [] behind
  | other =>
      if beginsExponent other then
        match exponent? other with
        | some (exponent, later) => number [] exponent later
        | none => none
      else
        (integer? (sign = ['-']) (Text.digitsValue whole)).map
          fun value => (value, other)

/-- Read a number that is no time. -/
def number? (text : List Char) : Option (Json × List Char) :=
  match based? text with
  | some (base, rest) =>
      match digits? (isDigitIn base) rest with
      | none => none
      | some (digits, later) =>
          let size := digits.foldl (fun size digit =>
            size * base + (Text.hexValue? digit).getD 0) 0
          (integer? false size).map fun value => (value, later)
  | none =>
      let sign := (text.take 1).filter fun character =>
        character = '+' || character = '-'
      let unsigned := text.drop sign.length
      if "inf".toList.isPrefixOf unsigned || "nan".toList.isPrefixOf unsigned then
        some (.decimal (String.ofList (sign ++ unsigned.take 3)), unsigned.drop 3)
      else
        match plainDigits? unsigned with
        | some (whole, rest) => fraction? sign whole rest
        | none => none

/-! ## Times -/

/-- Read exactly so many digits that spell a number in bounds. -/
def fixed? (count least most : Nat) (text : List Char) :
    Option (Nat × List Char) :=
  let digits := text.take count
  if digits.length = count && digits.all Text.isAsciiDigit then
    let value := Text.digitsValue digits
    if least ≤ value && value ≤ most then some (value, text.drop count) else none
  else
    none

/-- Read one given character. -/
def sign? (expected : Char) : List Char → Option (List Char)
  | character :: rest => if character = expected then some rest else none
  | [] => none

/-- Days of a month. -/
def daysIn (year month : Nat) : Nat :=
  if month = 2 then
    if year % 4 = 0 && (year % 100 != 0 || year % 400 = 0) then 29 else 28
  else if month = 4 || month = 6 || month = 9 || month = 11 then 30
  else 31

/-- Read a date. -/
def date? (text : List Char) : Option (List Char) := do
  let (year, rest) ← fixed? 4 0 9999 text
  let (month, rest) ← fixed? 2 1 12 (← sign? '-' rest)
  let (_, rest) ← fixed? 2 1 (daysIn year month) (← sign? '-' rest)
  return rest

/-- Read a part of a second. -/
def secondFraction? : List Char → Option (List Char)
  | '.' :: rest =>
      if rest.head?.any Text.isAsciiDigit then
        some (rest.dropWhile Text.isAsciiDigit)
      else
        none
  | rest => some rest

/-- Read a time of day. -/
def time? (text : List Char) : Option (List Char) := do
  let (_, rest) ← fixed? 2 0 23 text
  let (_, rest) ← fixed? 2 0 59 (← sign? ':' rest)
  let (_, rest) ← fixed? 2 0 60 (← sign? ':' rest)
  secondFraction? rest

/-- Read the distance from universal time, if it is given. -/
def offset? : List Char → Option (List Char)
  | [] => some []
  | character :: rest =>
      if character = 'Z' || character = 'z' then
        some rest
      else if character = '+' || character = '-' then do
        let (_, rest) ← fixed? 2 0 23 rest
        let (_, rest) ← fixed? 2 0 59 (← sign? ':' rest)
        return rest
      else
        some (character :: rest)

/-- Whether a time of day begins here, as far as its first colon shows. -/
def beginsTime (text : List Char) : Bool :=
  match fixed? 2 0 23 text with
  | some (_, ':' :: _) => true
  | _ => false

/-- Whether a date begins here, as far as its first hyphen shows. -/
def beginsDate (text : List Char) : Bool :=
  match fixed? 4 0 9999 text with
  | some (_, '-' :: _) => true
  | _ => false

/-- Read a date with the time that may follow it. -/
def dateTime? (text : List Char) : Option (List Char) := do
  let rest ← date? text
  match rest with
  | separator :: later =>
      if (separator = 'T' || separator = 't' || separator = ' ') &&
          beginsTime later then
        offset? (← time? later)
      else
        return rest
  | [] => return rest

/-- The key under which a time is kept. -/
def timeKey : String := "$__toml_private_datetime"

/-- Read a number or a time. -/
def scalar? (text : List Char) : Option (Json × List Char) :=
  let kept := fun (later : List Char) =>
    (Json.record [(timeKey, .string (String.ofList
      (text.take (text.length - later.length))))], later)
  if beginsDate text then (dateTime? text).map kept
  else if beginsTime text then (time? text).map kept
  else number? text

end Toml

end SourceMark
