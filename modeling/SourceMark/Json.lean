import SourceMark.Text.Numeral

/-!
# JSON values

The fields of a record keep the order in which they were written, repeated
names included, so that reading a record can refuse a repeated field.
-/

namespace SourceMark

/-- A JSON value.  Whole numbers below the word bound are kept as numbers; any
other number is kept as it was written. -/
inductive Json where
  | null
  | boolean (value : Bool)
  | natural (value : Nat)
  | decimal (literal : String)
  | string (value : String)
  | list (items : List Json)
  | record (fields : List (String × Json))
  /-- A text with half of a surrogate pair in it, or a record with such a name.
  Nothing can be read from it, but it may be skipped. -/
  | spoiled
deriving Repr, Inhabited

namespace Json

/-- The value of the last field of that name. -/
def field? : Json → String → Option Json
  | record fields, name =>
      (fields.reverse.find? fun field => field.1 == name).map Prod.snd
  | _, _ => none

/-- The values of all fields of that name, in order. -/
def fieldsNamed : Json → String → List Json
  | record fields, name =>
      (fields.filter fun field => field.1 == name).map Prod.snd
  | _, _ => []

/-- The text of a text value. -/
def text? : Json → Option String
  | string value => some value
  | _ => none

/-- The number of a whole number below the word bound. -/
def natural? : Json → Option Nat
  | natural value => some value
  | _ => none

/-- The truth value of a boolean. -/
def boolean? : Json → Option Bool
  | boolean value => some value
  | _ => none

/-- The items of a list. -/
def list? : Json → Option (List Json)
  | list items => some items
  | _ => none

/-- The fields of a record. -/
def record? : Json → Option (List (String × Json))
  | record fields => some fields
  | _ => none

/-- Whether the value is `null`. -/
def isNull : Json → Bool
  | null => true
  | _ => false

/-- Whether nothing in the value is spoiled and at most so many lists and
records enclose one another. -/
def isSoundWithin : Nat → Json → Bool
  | _, spoiled => false
  | 0, list _ => false
  | 0, record _ => false
  | depth + 1, list items => items.all (isSoundWithin depth)
  | depth + 1, record fields =>
      fields.all fun field => isSoundWithin depth field.2
  | _, _ => true

/-- A text, or `null` when there is none. -/
def ofText? : Option String → Json
  | some value => string value
  | none => null

/-- A number, or `null` when there is none. -/
def ofNatural? : Option Nat → Json
  | some value => natural value
  | none => null

end Json

end SourceMark
