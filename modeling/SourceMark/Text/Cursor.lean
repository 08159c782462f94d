import SourceMark.Text.Cut

/-!
# Cursors

A cursor is the rest of a text together with the byte offset at which the rest
starts.  Moving a cursor never makes the rest longer, which is why readers that
move one come to an end.
-/

namespace SourceMark

/-- The rest of a text and the byte offset at which it starts. -/
structure Cursor where
  rest : List Char
  offset : Nat
deriving Repr, DecidableEq

namespace Cursor

/-- The start of a text. -/
def ofText (text : List Char) : Cursor :=
  { rest := text, offset := 0 }

/-- The cursor behind the next `count` characters. -/
def skip : Nat → Cursor → Cursor
  | 0, cursor => cursor
  | count + 1, cursor =>
      match cursor.rest with
      | [] => cursor
      | character :: rest =>
          skip count { rest, offset := cursor.offset + character.utf8Size }

/-- The characters up to the first one that fails the test, and the cursor in
front of that one. -/
def takeWhile (test : Char → Bool) (offset : Nat) :
    List Char → List Char × Cursor
  | [] => ([], { rest := [], offset })
  | character :: rest =>
      if test character then
        let (taken, cursor) :=
          takeWhile test (offset + character.utf8Size) rest
        (character :: taken, cursor)
      else
        ([], { rest := character :: rest, offset })

/-- The characters in front of the first occurrence of `needle`, and the cursor
in front of that occurrence. -/
def find? (needle : List Char) (offset : Nat) :
    List Char → Option (List Char × Cursor)
  | [] =>
      if needle.isEmpty then some ([], { rest := [], offset }) else none
  | character :: rest =>
      if needle.isPrefixOf (character :: rest) then
        some ([], { rest := character :: rest, offset })
      else
        match find? needle (offset + character.utf8Size) rest with
        | some (before, cursor) => some (character :: before, cursor)
        | none => none

/-- The characters from one cursor up to a later one. -/
def upTo (first later : Cursor) : List Char :=
  first.rest.take (first.rest.length - later.rest.length)

theorem length_skip (count : Nat) (cursor : Cursor) :
    (skip count cursor).rest.length = cursor.rest.length - count := by
  induction count generalizing cursor with
  | zero => simp [skip]
  | succ count induction =>
      cases equality : cursor.rest with
      | nil => simp [skip, equality]
      | cons character rest =>
          simp only [skip, equality, induction, List.length_cons]
          omega

theorem length_takeWhile (test : Char → Bool) (offset : Nat)
    (text : List Char) :
    (takeWhile test offset text).1.length +
      (takeWhile test offset text).2.rest.length = text.length := by
  induction text generalizing offset with
  | nil => simp [takeWhile]
  | cons character rest induction =>
      have later := induction (offset + character.utf8Size)
      by_cases holds : test character = true
      · simp only [takeWhile, holds, if_true, List.length_cons]
        omega
      · simp [takeWhile, holds]

theorem length_find? {needle text before : List Char} {offset : Nat}
    {cursor : Cursor}
    (found : find? needle offset text = some (before, cursor)) :
    before.length + cursor.rest.length = text.length := by
  induction text generalizing offset before cursor with
  | nil =>
      simp only [find?] at found
      split at found
      · obtain ⟨rfl, rfl⟩ := by simpa using found
        rfl
      · simp at found
  | cons character rest induction =>
      simp only [find?] at found
      split at found
      · obtain ⟨rfl, rfl⟩ := by simpa using found
        simp
      · split at found
        · next inner later equality =>
            obtain ⟨rfl, rfl⟩ := by simpa using found
            have := induction equality
            simp only [List.length_cons]
            omega
        · simp at found

/-- What is found stands at the cursor. -/
theorem isPrefixOf_of_find? {needle text before : List Char} {offset : Nat}
    {cursor : Cursor}
    (found : find? needle offset text = some (before, cursor)) :
    needle.isPrefixOf cursor.rest = true := by
  induction text generalizing offset before cursor with
  | nil =>
      simp only [find?] at found
      split at found
      · next empty =>
          obtain ⟨rfl, rfl⟩ := by simpa using found
          simp_all
      · simp at found
  | cons character rest induction =>
      simp only [find?] at found
      split at found
      · next here =>
          obtain ⟨rfl, rfl⟩ := by simpa using found
          exact here
      · split at found
        · next inner later equality =>
            obtain ⟨rfl, rfl⟩ := by simpa using found
            exact induction equality
        · simp at found

end Cursor

end SourceMark
