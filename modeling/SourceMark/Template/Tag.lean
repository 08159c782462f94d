import SourceMark.Text.Blank
import SourceMark.Text.Cursor
import SourceMark.Text.Numeral
import SourceMark.Text.Search

/-!
# Tags of a template

The inside of an opening tag is read by a machine with one state per place in
an attribute, one character at a time.  Values in quotes end only at their own
quote; other values end at a blank or at the closing bracket.
-/

namespace SourceMark

namespace Template

/-!
## Faults of a template

What can be wrong with the markup of a template or with the blocks of a
component file, and how it is said.
-/

/-- What is wrong with a template. -/
inductive Fault where
  | openInterpolation (offset : Nat)
  | openComment (offset : Nat)
  | openEndTag (offset : Nat)
  | namelessEndTag (offset : Nat)
  | openAttributeValue (tag : String)
  | openStartTag (tag : String)
  | missingEndTag (tag : String)
  | strayEndTag (name : String)
  | looseElse (tag : String)
  | secondTemplate
  /-- The end of a comment lies inside its opening mark, so that there is no
  text between the two; nothing recovers from it. -/
  | crossedComment
  /-- The range of the template does not lie between characters; nothing
  recovers from it. -/
  | brokenRange
deriving Repr, DecidableEq

namespace Fault

/-- The text shown for a fault. -/
def message : Fault → String
  | openInterpolation offset =>
      "unterminated interpolation at offset " ++ Text.numeral offset
  | openComment offset =>
      "unterminated comment at offset " ++ Text.numeral offset
  | openEndTag offset =>
      "unterminated end tag at offset " ++ Text.numeral offset
  | namelessEndTag offset =>
      "invalid end tag at offset " ++ Text.numeral offset
  | openAttributeValue tag =>
      "unterminated attribute value in <" ++ tag ++ ">"
  | openStartTag tag => "unterminated start tag <" ++ tag ++ ">"
  | missingEndTag tag => "element <" ++ tag ++ "> is missing end tag"
  | strayEndTag name => "invalid end tag </" ++ name ++ ">"
  | looseElse tag =>
      "<" ++ tag ++ "> has v-else/v-else-if without an adjacent v-if"
  | secondTemplate =>
      "a single file component can contain only one <template> block"
  | crossedComment => "comment without room for its text"
  | brokenRange => "range inside a character"

/-- Whether nothing recovers from the fault. -/
def isFinal : Fault → Bool
  | crossedComment => true
  | brokenRange => true
  | _ => false

end Fault

/-! ## Tags -/

/-- An attribute of a tag. -/
structure TagAttribute where
  name : String
  value : Option String
  /-- Put there by annotation, not read from the text. -/
  isAdded : Bool
deriving Repr, DecidableEq

namespace TagAttribute

/-- Whether the attribute is a plain one: neither a directive nor bound to a
value, an event or a slot. -/
def isStatic (given : TagAttribute) : Bool :=
  !(Text.startsWith given.name "v-" || Text.startsWith given.name ":" ||
    Text.startsWith given.name "@" || Text.startsWith given.name "#")

/-- An attribute as it is read from a text. -/
def ofText (name : List Char) (value : Option (List Char)) : TagAttribute where
  name := String.ofList name
  value := value.map String.ofList
  isAdded := false

end TagAttribute

/-- An opening tag. -/
structure OpenTag where
  name : String
  attributes : List TagAttribute
  selfClosing : Bool
deriving Repr, DecidableEq

/-- A place inside an opening tag.  What has been read of a name or a value is
kept in reverse. -/
inductive TagPlace where
  /-- Between two attributes; `slash` when a slash was read last. -/
  | between (slash : Bool)
  | inName (name : List Char)
  | afterName (name : List Char)
  | beforeValue (name : List Char)
  | inQuotes (name : List Char) (quote : Char) (value : List Char)
  | inValue (name value : List Char)
deriving Repr, DecidableEq

namespace TagPlace

/-- What a single character does inside a tag: go on at another place, or close
the tag.  Either way an attribute may be complete. -/
inductive Move where
  | go (place : TagPlace) (complete : Option TagAttribute)
  | close (selfClosing : Bool) (complete : Option TagAttribute)
deriving Repr, DecidableEq

/-- An attribute without a value, whose name is given in reverse. -/
def bare (name : List Char) : TagAttribute :=
  TagAttribute.ofText name.reverse none

/-- An attribute with a value, both given in reverse. -/
def valued (name value : List Char) : TagAttribute :=
  TagAttribute.ofText name.reverse (some value.reverse)

/-- What a character does at a place. -/
def move : TagPlace → Char → Move
  | between slash, character =>
      if character = '>' then .close slash none
      else if character = '/' then .go (between true) none
      else if character = '=' || Text.isAsciiBlank character then
        .go (between false) none
      else .go (inName [character]) none
  | inName name, character =>
      if character = '>' then .close false (some (bare name))
      else if character = '/' then .go (between true) (some (bare name))
      else if character = '=' then .go (beforeValue name) none
      else if Text.isAsciiBlank character then .go (afterName name) none
      else .go (inName (character :: name)) none
  | afterName name, character =>
      if character = '>' then .close false (some (bare name))
      else if character = '/' then .go (between true) (some (bare name))
      else if character = '=' then .go (beforeValue name) none
      else if Text.isAsciiBlank character then .go (afterName name) none
      else .go (inName [character]) (some (bare name))
  | beforeValue name, character =>
      if character = '>' then .close false (some (valued name []))
      else if Text.isAsciiBlank character then .go (beforeValue name) none
      else if character = '"' || character = '\x27' then
        .go (inQuotes name character []) none
      else .go (inValue name [character]) none
  | inQuotes name quote value, character =>
      if character = quote then .go (between false) (some (valued name value))
      else .go (inQuotes name quote (character :: value)) none
  | inValue name value, character =>
      if character = '>' then .close false (some (valued name value))
      else if Text.isAsciiBlank character then
        .go (between false) (some (valued name value))
      else .go (inValue name (character :: value)) none

/-- What is wrong when a text ends at a place inside a tag. -/
def endFault (tag : String) : TagPlace → Fault
  | inQuotes _ _ _ => .openAttributeValue tag
  | _ => .openStartTag tag

end TagPlace

/-- Read the inside of an opening tag from a place on: its attributes, whether
it closes itself, and the cursor behind it. -/
def readInside (tag : String) (place : TagPlace) (offset : Nat) :
    List Char → Except Fault (List TagAttribute × Bool × Cursor)
  | [] => .error (place.endFault tag)
  | character :: rest =>
      let next := offset + character.utf8Size
      match place.move character with
      | .close selfClosing complete =>
          .ok (complete.toList, selfClosing, { rest, offset := next })
      | .go place complete =>
          match readInside tag place next rest with
          | .ok (attributes, selfClosing, behind) =>
              .ok (complete.toList ++ attributes, selfClosing, behind)
          | .error fault => .error fault

/-- A character of the name of an opening tag. -/
def isTagNamePart (character : Char) : Bool :=
  !(Text.isAsciiBlank character || character = '>' || character = '/')

/-- Read an opening tag whose bracket comes next, and the cursor behind it.  A
bracket without a letter behind it opens no tag. -/
def readOpenTag (cursor : Cursor) : Except Fault (Option (OpenTag × Cursor)) :=
  match cursor.rest with
  | _ :: letter :: rest =>
      if Text.isAsciiLetter letter then
        let named := Cursor.takeWhile isTagNamePart (cursor.offset + 1)
          (letter :: rest)
        let tag := String.ofList named.1
        match readInside tag (.between false) named.2.offset named.2.rest with
        | .ok (attributes, selfClosing, behind) =>
            .ok (some ({ name := tag, attributes, selfClosing }, behind))
        | .error fault => .error fault
      else
        .ok none
  | _ => .ok none

/-- Whether a text starts with the end tag of that name, in any case. -/
def startsEndTag (name : List Char) : List Char → Bool
  | '<' :: '/' :: rest =>
      Text.sameIgnoringCase (rest.take name.length) name &&
        match rest.drop name.length with
        | [] => true
        | character :: _ => character = '>' || Text.isAsciiBlank character
  | _ => false

/-- Whether a text starts with the mark of an end tag and that name, in any
case, whatever comes behind them. -/
def startsEndMark (name : List Char) : List Char → Bool
  | '<' :: '/' :: rest =>
      Text.sameIgnoringCase (rest.take name.length) name
  | _ => false

/-- How many characters behind the first one of a text belong to a mark that
is no end tag of that name; `passed` of them are known already. -/
def passedBehind (name : List Char) (passed : Nat) (text : List Char) : Nat :=
  match passed with
  | 0 => if startsEndMark name text then name.length + 1 else 0
  | passed + 1 => passed

/-- The text in front of the first end tag of that name, and the cursor in
front of that tag.  The first `passed` characters hold no end tag, nor does a
mark whose name goes on. -/
def findEndTagBehind? (name : List Char) (passed offset : Nat) :
    List Char → Option (List Char × Cursor)
  | [] => none
  | character :: rest =>
      if passed = 0 && startsEndTag name (character :: rest) then
        some ([], { rest := character :: rest, offset })
      else
        let passed := passedBehind name passed (character :: rest)
        match findEndTagBehind? name passed (offset + character.utf8Size)
            rest with
        | some (before, cursor) => some (character :: before, cursor)
        | none => none

/-- The text in front of the first end tag of that name, and the cursor in
front of that tag. -/
def findEndTag? (name : List Char) (offset : Nat) (text : List Char) :
    Option (List Char × Cursor) :=
  findEndTagBehind? name 0 offset text

/-- The cursor behind the next closing bracket, or the end of the text. -/
def behindBracket (cursor : Cursor) : Cursor :=
  match Cursor.find? ['>'] cursor.offset cursor.rest with
  | some (_, bracket) => bracket.skip 1
  | none =>
      { rest := [], offset := cursor.offset + Text.byteLength cursor.rest }

theorem length_readInside {tag : String} {place : TagPlace} {offset : Nat}
    {text : List Char} {attributes : List TagAttribute} {selfClosing : Bool}
    {behind : Cursor}
    (success : readInside tag place offset text =
      .ok (attributes, selfClosing, behind)) :
    behind.rest.length < text.length := by
  induction text generalizing place offset attributes selfClosing behind with
  | nil => simp [readInside] at success
  | cons character rest induction =>
      simp only [readInside] at success
      split at success
      · obtain ⟨rfl, rfl, rfl⟩ := by simpa using success
        simp
      · split at success
        · next attributes selfClosing later equality =>
            obtain ⟨rfl, rfl, rfl⟩ := by simpa using success
            have := induction equality
            simp only [List.length_cons]
            omega
        · simp at success

theorem length_readOpenTag {cursor behind : Cursor} {tag : OpenTag}
    (success : readOpenTag cursor = .ok (some (tag, behind))) :
    behind.rest.length < cursor.rest.length := by
  unfold readOpenTag at success
  split at success
  · next bracket letter rest equality =>
      split at success
      · simp only at success
        split at success
        · next attributes selfClosing later inside =>
            have nameLength :=
              Cursor.length_takeWhile isTagNamePart (cursor.offset + 1)
                (letter :: rest)
            have insideLength := length_readInside inside
            simp only [Except.ok.injEq, Option.some.injEq,
              Prod.mk.injEq] at success
            obtain ⟨_, rfl⟩ := success
            rw [equality]
            simp only [List.length_cons] at nameLength ⊢
            omega
        · simp at success
      · simp at success
  · simp at success

theorem length_findEndTagBehind? {name text before : List Char}
    {passed offset : Nat} {cursor : Cursor}
    (found : findEndTagBehind? name passed offset text =
      some (before, cursor)) :
    before.length + cursor.rest.length = text.length := by
  induction text generalizing passed offset before cursor with
  | nil => simp [findEndTagBehind?] at found
  | cons character rest induction =>
      simp only [findEndTagBehind?] at found
      split at found
      · obtain ⟨rfl, rfl⟩ := by simpa using found
        simp
      · split at found
        · next inner later equality =>
            obtain ⟨rfl, rfl⟩ := by simpa using found
            have := induction equality
            simp only [List.length_cons]
            omega
        · simp at found

theorem length_findEndTag? {name text before : List Char} {offset : Nat}
    {cursor : Cursor}
    (found : findEndTag? name offset text = some (before, cursor)) :
    before.length + cursor.rest.length = text.length :=
  length_findEndTagBehind? found

theorem length_behindBracket (cursor : Cursor) :
    (behindBracket cursor).rest.length ≤ cursor.rest.length := by
  unfold behindBracket
  split
  · next before bracket equality =>
      have := Cursor.length_find? equality
      rw [Cursor.length_skip]
      omega
  · simp

end Template

end SourceMark
