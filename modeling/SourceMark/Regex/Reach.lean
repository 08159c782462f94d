import SourceMark.Regex.Syntax

/-!
# Matching

From a set of places in the text an expression reaches another set of places:
those at which a match can end that begins at one of the former.  A text
matches when any place at all can be reached from any place.
-/

namespace SourceMark

namespace Regex

/-- The character at a place. -/
abbrev at? (text : Array Char) (place : Nat) : Option Char :=
  text[place]?

/-- The character in front of a place. -/
def before? (text : Array Char) : Nat → Option Char
  | 0 => none
  | place + 1 => text[place]?

/-- Whether an edge of this kind lies between a character that does or does not
belong to a word and another one. -/
def WordEdge.holds : WordEdge → (left right : Bool) → Bool
  | boundary, left, right => left != right
  | inner, left, right => left == right
  | start, left, right => !left && right
  | stop, left, right => left && !right
  | halfStart, left, _ => !left
  | halfStop, _, right => !right

/-- Whether the anchor holds at a place. -/
def Anchor.holds (text : Array Char) (place : Nat) : Anchor → Bool
  | textStart => place == 0
  | textStop => place == text.size
  | lineStart false => place == 0 || before? text place == some '\n'
  | lineStart true =>
      place == 0 || before? text place == some '\n' ||
        (before? text place == some '\r' && at? text place != some '\n')
  | lineStop false => place == text.size || at? text place == some '\n'
  | lineStop true =>
      place == text.size || at? text place == some '\r' ||
        (at? text place == some '\n' && before? text place != some '\r')
  | word edge characters =>
      edge.holds ((before? text place).any characters.contains)
        ((at? text place).any characters.contains)

/-- The places of two sets, each once. -/
def merge (first second : List Nat) : List Nat :=
  first ++ second.filter fun place => !first.contains place

/-- Take a step so many times. -/
def iterate (step : List Nat → List Nat) : Nat → List Nat → List Nat
  | 0, places => places
  | count + 1, places =>
      if places.isEmpty then [] else iterate step count (step places)

/-- The places reached by at most so many steps. -/
def within (step : List Nat → List Nat) : Nat → List Nat → List Nat
  | 0, places => places
  | count + 1, places =>
      let further := merge places (step places)
      if further.length = places.length then places
      else within step count further

/-- The places that an expression reaches. -/
def reach (text : Array Char) : Regex → List Nat → List Nat
  | empty, places => places
  | one set, places =>
      (places.filter fun place => (at? text place).any set.contains).map (· + 1)
  | anchor condition, places =>
      places.filter fun place => condition.holds text place
  | sequence first second, places => reach text second (reach text first places)
  | choice first second, places =>
      merge (reach text first places) (reach text second places)
  | group body, places => reach text body places
  | repeated body least most, places =>
      within (reach text body)
        (match most with
          | some bound => bound - least
          | none => text.size + 1)
        (iterate (reach text body) least places)

/-- Whether the expression matches some part of the text. -/
def isMatch (regex : Regex) (text : List Char) : Bool :=
  !(reach text.toArray regex (List.range (text.length + 1))).isEmpty

end Regex

end SourceMark
