import SourceMark.Text.Blank
import SourceMark.Text.Cut

/-!
# Opening tags of plain markup

The scan looks for opening tags from the left and builds no tree.  A tag ends
at the first `>` after its `<`, quotes or not, and the search goes on behind
that `>`.
-/

namespace SourceMark

namespace Markup

/-- An opening tag as it was found.  The tag reads `<`, the name, the inside
and `>`. -/
structure OpeningTag where
  /-- Byte offset of the `<`. -/
  start : Nat
  name : List Char
  /-- All that stands between the name and the `>`. -/
  inside : List Char
deriving Repr, DecidableEq

/-- A character that a tag's name may go on with. -/
def isNameCharacter (character : Char) : Bool :=
  Text.isAsciiLetter character || Text.isAsciiDigit character ||
    character = '-'

/-- A character that a tag's name may begin with; declarations and comments
begin with the exclamation mark. -/
def isNameStart (character : Char) : Bool :=
  Text.isAsciiLetter character || character = '!'

/-- What may stand between the name and the `>`: nothing, the slash of a tag
without content, or anything that a blank sets off from the name. -/
def isInside : List Char → Bool
  | [] => true
  | ['/'] => true
  | character :: _ => Text.isBlank character

namespace OpeningTag

/-- Whether a slash stands in front of the `>`. -/
def isSelfClosing (tag : OpeningTag) : Bool :=
  tag.inside.getLast? == some '/'

/-- The byte offset at which a further attribute can be put into the tag. -/
def attributeOffset (tag : OpeningTag) : Nat :=
  tag.start + 1 + Text.byteLength tag.name + Text.byteLength tag.inside -
    (if tag.isSelfClosing then 1 else 0)

/-- Read the tag whose `<` stands in front of the text, and what follows its
`>`. -/
def read? (start : Nat) : List Char → Option (OpeningTag × List Char)
  | [] => none
  | first :: text =>
      if isNameStart first then
        let name := first :: text.takeWhile isNameCharacter
        let later := text.dropWhile isNameCharacter
        let inside := later.takeWhile (· != '>')
        match later.dropWhile (· != '>') with
        | [] => none
        | _ :: rest =>
            if isInside inside then some ({ start, name, inside }, rest)
            else none
      else
        none

private theorem length_dropWhile_le (test : Char → Bool) (text : List Char) :
    (text.dropWhile test).length ≤ text.length :=
  (List.dropWhile_sublist test).length_le

/-- Behind a tag there is less left than before it. -/
theorem length_read? {start : Nat} {text rest : List Char} {tag : OpeningTag}
    (found : read? start text = some (tag, rest)) :
    rest.length < text.length := by
  cases text with
  | nil => simp [read?] at found
  | cons first text =>
      simp only [read?] at found
      split at found
      · split at found
        · simp at found
        · next closing later equality =>
            split at found
            · obtain ⟨_, rfl⟩ := by simpa using found
              have inner := length_dropWhile_le (· != '>')
                (text.dropWhile isNameCharacter)
              have outer := length_dropWhile_le isNameCharacter text
              rw [equality] at inner
              simp only [List.length_cons] at inner ⊢
              omega
            · simp at found
      · simp at found

/-- The byte offset behind the `>`. -/
def stop (tag : OpeningTag) : Nat :=
  tag.start + 1 + Text.byteLength tag.name + Text.byteLength tag.inside + 1

/-- All opening tags of a text that starts at the given byte offset, from the
left. -/
def scan (offset : Nat) (text : List Char) : List OpeningTag :=
  match text with
  | [] => []
  | character :: rest =>
      if character = '<' then
        match found : read? offset rest with
        | some (tag, later) => tag :: scan tag.stop later
        | none => scan (offset + 1) rest
      else
        scan (offset + character.utf8Size) rest
termination_by text.length
decreasing_by
  · have := length_read? found
    simp only [List.length_cons]
    omega
  · simp
  · simp

end OpeningTag

end Markup

end SourceMark
