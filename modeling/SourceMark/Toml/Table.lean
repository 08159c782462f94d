import SourceMark.Json

/-!
# Tables of a TOML document

A table comes into being by a header, by a longer header that passes through
it, or by a dotted key.  No key can be set twice, and how a table came into
being decides what may still be added to it.
-/

namespace SourceMark

namespace Toml

/-- How a table came into being. -/
inductive Origin where
  /-- By a header of its own. -/
  | header
  /-- By a longer header that passes through it. -/
  | passed
  /-- By a dotted key. -/
  | dotted
deriving Repr, DecidableEq

/-- What a key stands for. -/
inductive Item where
  /-- A value, to which nothing can be added. -/
  | closed (value : Json)
  | table (origin : Origin) (entries : List (String × Item))
  /-- The tables of one repeated header. -/
  | tables (elements : List (List (String × Item)))

/-- The keys of a table with their items, each key once. -/
abbrev Entries : Type := List (String × Item)

mutual

/-- The value that an item stands for. -/
def Item.toJson : Item → Json
  | .closed value => value
  | .table _ entries => .record (fieldsOf entries)
  | .tables elements => .list (recordsOf elements)

/-- The fields of a table. -/
def fieldsOf : List (String × Item) → List (String × Json)
  | [] => []
  | (key, item) :: entries => (key, item.toJson) :: fieldsOf entries

/-- The records of repeated tables. -/
def recordsOf : List (List (String × Item)) → List Json
  | [] => []
  | entries :: elements => .record (fieldsOf entries) :: recordsOf elements

end

namespace Entries

/-- The entries with the item of one key put in. -/
def put (key : String) (item : Item) : Entries → Entries
  | [] => [(key, item)]
  | entry :: entries =>
      if entry.1 = key then (key, item) :: entries
      else entry :: put key item entries

/-- Set a key that is not there yet. -/
def add? (entries : Entries) (key : String) (item : Item) : Option Entries :=
  match entries.lookup key with
  | some _ => none
  | none => some (entries ++ [(key, item)])

/-- Change the last of some tables. -/
def changeLast (change : Entries → Option Entries) :
    List Entries → Option (List Entries)
  | [] => none
  | [entries] => (change entries).map ([·])
  | entries :: later => (changeLast change later).map (entries :: ·)

/-- Change the table that a header names, or would name if it were complete:
tables on the way are made where they are missing, and of repeated tables the
last one is meant. -/
def change? (change : Entries → Option Entries) :
    List String → Entries → Option Entries
  | [], entries => change entries
  | key :: path, entries =>
      match entries.lookup key with
      | none =>
          (change? change path []).map fun inner =>
            entries ++ [(key, .table .passed inner)]
      | some (.table origin inner) =>
          (change? change path inner).map fun inner =>
            put key (.table origin inner) entries
      | some (.tables elements) =>
          (changeLast (change? change path) elements).map fun elements =>
            put key (.tables elements) entries
      | some (.closed _) => none

/-- Open the table of a header with this last key. -/
def openTable? (key : String) (entries : Entries) : Option Entries :=
  match entries.lookup key with
  | none => some (entries ++ [(key, .table .header [])])
  | some (.table .passed inner) => some (put key (.table .header inner) entries)
  | _ => none

/-- Add a table to those of a repeated header with this last key. -/
def repeatTable? (key : String) (entries : Entries) : Option Entries :=
  match entries.lookup key with
  | none => some (entries ++ [(key, .tables [[]])])
  | some (.tables elements) => some (put key (.tables (elements ++ [[]])) entries)
  | _ => none

/-- Set a dotted key, given as its path and its last part.  The table at the end
of a path must have come into being by a dotted key; `isDotted` says so of the
table at hand. -/
def set? (item : Item) (key : String) (isDotted : Bool) :
    (path : List String) → Entries → Option Entries
  | [], entries => if isDotted then entries.add? key item else none
  | step :: path, entries =>
      match entries.lookup step with
      | none =>
          (set? item key true path []).map fun inner =>
            entries ++ [(step, .table .dotted inner)]
      | some (.table .header _) => none
      | some (.table origin inner) =>
          (set? item key (origin = .dotted) path inner).map fun inner =>
            put step (.table origin inner) entries
      | some (.tables elements) =>
          (changeLast (set? item key false path) elements).map fun elements =>
            put step (.tables elements) entries
      | some (.closed _) => none

end Entries

end Toml

end SourceMark
