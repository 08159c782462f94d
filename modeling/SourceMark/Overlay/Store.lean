import SourceMark.Files.Disk
import SourceMark.Json.Printer
import SourceMark.Json.Reader

/-!
# Stores for preferences

A store maps keys to texts.  It is kept in memory, or in a file that holds one
JSON record of texts, or it is not available at all.
-/

namespace SourceMark

namespace Overlay

/-- Keys with their texts, each key once. -/
abbrev Entries : Type := List (String × String)

namespace Entries

/-- The entries with one key set; a new key comes last. -/
def put (key value : String) : Entries → Entries
  | [] => [(key, value)]
  | entry :: entries =>
      if entry.1 = key then
        (key, value) :: entries
      else
        entry :: put key value entries

/-- Read the fields of a record, all of which must be texts; the last field of
a name counts. -/
def ofFields? : Entries → List (String × Json) → Option Entries
  | entries, [] => some entries
  | entries, (key, .string value) :: fields =>
      ofFields? (put key value entries) fields
  | _, _ :: _ => none

/-- Read the content of a store's file; a blank file has no entries. -/
def ofContent? (content : String) : Option Entries :=
  if Text.isBlankText content.toList then
    some []
  else
    match Json.read? content with
    | some (.record fields) => ofFields? [] fields
    | _ => none

/-- The content of a store's file. -/
def content (entries : Entries) : String :=
  (Json.record (entries.map fun entry => (entry.1, .string entry.2))).pretty

end Entries

/-- Where preferences are kept. -/
inductive Store where
  | memory (entries : Entries)
  | unavailable
  /-- A file with its content, if it exists. -/
  | file (content : Option String)
deriving Repr, DecidableEq

/-- Why a store could not be read or written. -/
inductive StoreFault where
  | unavailable
  /-- The file does not hold a record of texts. -/
  | malformed
deriving Repr, DecidableEq

/-- What is said of a store that is not available. -/
def StoreFault.unavailableMessage : String :=
  "storage unavailable: storage is disabled"

namespace Store

/-- All entries of a store. -/
def entries : Store → Except StoreFault Entries
  | memory entries => .ok entries
  | unavailable => .error .unavailable
  | file none => .ok []
  | file (some content) =>
      match Entries.ofContent? content with
      | some entries => .ok entries
      | none => .error .malformed

/-- A store of the same kind with other entries. -/
def withEntries (entries : Entries) : Store → Store
  | memory _ => memory entries
  | unavailable => unavailable
  | file _ => file (some entries.content)

/-- The text of a key. -/
def get (store : Store) (key : String) : Except StoreFault (Option String) :=
  store.entries.map fun entries => entries.lookup key

/-- The store with one key set. -/
def set (store : Store) (key value : String) : Except StoreFault Store :=
  store.entries.map fun entries => store.withEntries (entries.put key value)

/-- The text of a key, as far as the store can be read. -/
def read? (store : Store) (key : String) : Option String :=
  match store.get key with
  | .ok value => value
  | .error _ => none

/-- The store with one key set, as far as it can be written. -/
def write (store : Store) (key value : String) : Store :=
  match store.set key value with
  | .ok changed => changed
  | .error _ => store

end Store

/-!
## Stores on a disk

A store on a disk is no more than the path of its file.  Every access reads the
file anew, and setting a key writes all entries again, in the order in which a
hash table happens to give them.
-/

open Files

/-- A store in the file to which a path leads. -/
structure FileStore where
  path : String
deriving Repr, DecidableEq

/-- Why an access to a store's file failed. -/
inductive AccessFault where
  | disk (fault : Fault)
  | store (fault : StoreFault)
deriving Repr, DecidableEq

/-- An order in which a table may give its entries. -/
structure EntryOrder where
  arrange : Entries → Entries
  perm : ∀ entries, (arrange entries).Perm entries

namespace EntryOrder

/-- The order in which the keys were set first. -/
def first : EntryOrder where
  arrange := id
  perm := List.Perm.refl

/-- The opposite order. -/
def last : EntryOrder where
  arrange := List.reverse
  perm := List.reverse_perm

end EntryOrder

namespace FileStore

/-- The content of the file, if there is one. -/
def content? (store : FileStore) (disk : Disk) :
    Except Fault (Option String) :=
  if disk.hasPath store.path then
    (disk.readText store.path).map some
  else
    .ok none

/-- All entries of a store. -/
def entries (store : FileStore) (disk : Disk) : Except AccessFault Entries :=
  match store.content? disk with
  | .ok content => (Store.file content).entries.mapError .store
  | .error fault => .error (.disk fault)

/-- Write the file.  Directories above it are made if they are missing. -/
def save (store : FileStore) (disk : Disk) (content : String) :
    Except Fault Disk :=
  match (Path.parent? store.path).filter fun parent => !parent.isEmpty with
  | some parent =>
      match disk.ensureDirectories parent with
      | .ok disk => disk.writeText store.path content
      | .error fault => .error fault
  | none => disk.writeText store.path content

/-- The text of a key. -/
def get (store : FileStore) (disk : Disk) (key : String) :
    Except AccessFault (Option String) :=
  (store.entries disk).map fun entries => entries.lookup key

/-- The disk with one key set. -/
def set (store : FileStore) (disk : Disk) (key value : String)
    (order : EntryOrder) : Except AccessFault Disk :=
  match store.entries disk with
  | .ok entries =>
      (store.save disk (order.arrange (entries.put key value)).content).mapError
        .disk
  | .error fault => .error fault

end FileStore

end Overlay

end SourceMark
