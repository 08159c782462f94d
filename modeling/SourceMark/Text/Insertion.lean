import SourceMark.Text.Cut

/-!
# Inserting text at byte offsets

Insertions are applied from the highest offset down, so every offset keeps
referring to the given text while earlier insertions are still to come.
`interleave` says the same in a single pass over the text.
-/

namespace SourceMark

/-- A text to be put in at a byte offset. -/
structure Insertion where
  offset : Nat
  text : String
deriving Repr, DecidableEq

namespace Insertion

/-- The text with one insertion carried out.  Past the end and inside a
character there is no place for it. -/
def applyOne (source : List Char) (insertion : Insertion)
    (grown : List Char) : List Char :=
  match Text.cutAt? source insertion.offset with
  | none => grown
  | some _ =>
      match Text.cutAt? grown insertion.offset with
      | some (before, after) => before ++ (insertion.text.toList ++ after)
      | none => grown

/-- Insertions in the order of their offsets; those at one offset keep their
order. -/
def sorted (insertions : List Insertion) : List Insertion :=
  insertions.mergeSort fun first second => first.offset ≤ second.offset

/-- The text with all insertions carried out. -/
def applyAll (source : List Char) (insertions : List Insertion) : List Char :=
  (sorted insertions).foldr (applyOne source) source

/-- The texts inserted at one offset, in list order. -/
def textsAt (insertions : List Insertion) (offset : Nat) : List Char :=
  (insertions.filter fun insertion => insertion.offset == offset).flatMap
    fun insertion => insertion.text.toList

/-- One pass over the text from a byte offset on: before each character, and at
the end, come the texts inserted there. -/
def interleave (insertions : List Insertion) (offset : Nat) :
    List Char → List Char
  | [] => textsAt insertions offset
  | character :: rest =>
      textsAt insertions offset ++
        character :: interleave insertions (offset + character.utf8Size) rest

end Insertion

end SourceMark
