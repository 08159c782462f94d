import SourceMark.Regex.Syntax
import SourceMark.Text.CaseFold
import SourceMark.Unicode.Property

/-!
# Named sets

Sets of characters that an expression refers to by a letter or a name.  Without
Unicode, they have only members of ASCII.
-/

namespace SourceMark

namespace Regex

/-- ASCII letters. -/
def asciiLetters : CharSet :=
  .union (.range 'A' 'Z') (.range 'a' 'z')

/-- ASCII letters and digits. -/
def asciiAlphanumerics : CharSet :=
  asciiLetters.union (.range '0' '9')

/-- ASCII letters, digits and the low line. -/
def asciiWords : CharSet :=
  asciiAlphanumerics.union (.single '_')

/-- The blanks of ASCII. -/
def asciiSpaces : CharSet :=
  .union (.range '\t' '\r') (.single ' ')

/-- The members of a set that is named between colons. -/
def colonSet? : String → Option CharSet
  | "alnum" => some asciiAlphanumerics
  | "alpha" => some asciiLetters
  | "ascii" => some .ascii
  | "blank" => some (.union (.single '\t') (.single ' '))
  | "cntrl" => some (.union (.range '\x00' '\x1f') (.single '\x7f'))
  | "digit" => some (.range '0' '9')
  | "graph" => some (.range '!' '~')
  | "lower" => some (.range 'a' 'z')
  | "print" => some (.range ' ' '~')
  | "punct" => some (.difference (.range '!' '~') asciiAlphanumerics)
  | "space" => some asciiSpaces
  | "upper" => some (.range 'A' 'Z')
  | "word" => some asciiWords
  | "xdigit" =>
      some (.unions [.range '0' '9', .range 'A' 'F', .range 'a' 'f'])
  | _ => none

/-- The characters of words. -/
def words (flags : Flags) : CharSet :=
  if flags.has .unicode then Unicode.wordSet.members else asciiWords

/-- The members of a set that a letter names: digits, blanks or characters of
words. -/
def letterSet? (flags : Flags) : Char → Option CharSet
  | 'd' =>
      some (if flags.has .unicode then Unicode.Category.decimalNumber.members
        else .range '0' '9')
  | 's' =>
      if flags.has .unicode then Unicode.namedMembers? "whitespace"
      else some asciiSpaces
  | 'w' => some (words flags)
  | _ => none

/-- The members of a set together with what differs from them in case alone, if
case does not count. -/
def folded (flags : Flags) (set : CharSet) : CharSet :=
  if flags.has .ignoreCase then
    if flags.has .unicode then set.foldCase else set.foldAsciiCase
  else
    set

/-- A set or, if the sign says so, all other characters.  Without Unicode, there
are no others but parts of characters, which nothing may match. -/
def signed? (flags : Flags) (isOther : Bool) (set : CharSet) : Option CharSet :=
  let set := if isOther then set.complement else set
  if flags.has .unicode || set.isAscii then some set else none

/-! ## Properties -/

/-- The characters up to a closing brace, without blanks and comments where
these do not count, and what follows the brace. -/
def braced? (flags : Flags) (isComment : Bool) :
    List Char → Option (List Char × List Char)
  | [] => none
  | character :: rest =>
      if isComment then
        braced? flags (character != '\n') rest
      else if flags.has .extended && character = '#' then
        braced? flags true rest
      else if flags.has .extended && Text.isBlank character then
        braced? flags false rest
      else if character = '\x7d' then
        some ([], rest)
      else
        (braced? flags false rest).map fun (name, later) =>
          (character :: name, later)

/-- The set that the text in braces asks for, and whether the sign between a
property and its value makes it the set of all others. -/
def propertyOf? (name : List Char) : Option (CharSet × Bool) :=
  let valueOf := fun property value =>
    Unicode.valueMembers? (Unicode.looseName property) (Unicode.looseName value)
  match Text.splitFirst? ['!', '='] name with
  | some (property, value) => (valueOf property value).map (·, true)
  | none =>
      match Text.splitFirst? [':'] name with
      | some (property, value) => (valueOf property value).map (·, false)
      | none =>
          match Text.splitFirst? ['='] name with
          | some (property, value) => (valueOf property value).map (·, false)
          | none =>
              (Unicode.namedMembers? (Unicode.looseName name)).map (·, false)

/-- Read which set is meant: its name is one letter, or any text in braces. -/
def property? (flags : Flags) (text : List Char) :
    Option ((CharSet × Bool) × List Char) :=
  match flags.skip text with
  | [] => none
  | '\\' :: _ => none
  | '\x7b' :: rest =>
      match braced? flags false rest with
      | some (name, later) => (propertyOf? name).map (·, later)
      | none => none
  | letter :: rest => (propertyOf? [letter]).map (·, rest)

end Regex

end SourceMark
