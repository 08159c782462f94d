import SourceMark.Files.Path

/-!
# A disk

A disk holds files with their bytes, and directories.  A place is the list of
names that leads to it from the root, so every place has one spelling; paths
are followed to places from the current directory.  There are no links from
place to place, and nothing is forbidden to be read or written.
-/

namespace SourceMark

namespace Files

/-- The names that lead to a place from the root.  Every name is a text here.
On a real disk a name may be other bytes, and where a path is written down, what
is no text in it is replaced; such names are left out. -/
abbrev Place : Type := List String

/-- Why something could not be done on a disk. -/
inductive Fault where
  | notFound
  | alreadyExists
  | notADirectory
  | isADirectory
  | nameTooLong
  /-- The bytes of a file are not the UTF-8 form of a text. -/
  | notAText
deriving Repr, DecidableEq

namespace Fault

/-- What is said of a fault. -/
def message : Fault → String
  | notFound => "No such file or directory (os error 2)"
  | alreadyExists => "File exists (os error 17)"
  | notADirectory => "Not a directory (os error 20)"
  | isADirectory => "Is a directory (os error 21)"
  | nameTooLong => "File name too long (os error 36)"
  | notAText => "stream did not contain valid UTF-8"

end Fault

/-- Files and directories, and the directory at which relative paths start. -/
structure Disk where
  files : List (Place × ByteArray)
  directories : List Place
  current : Place

namespace Disk

/-- The bytes of the file at a place. -/
def file? (disk : Disk) (place : Place) : Option ByteArray :=
  disk.files.lookup place

/-- Whether a place is a directory: it was made one, or something lies below
it. -/
def isDirectory (disk : Disk) (place : Place) : Bool :=
  place.isEmpty || disk.directories.any place.isPrefixOf ||
    disk.files.any fun file => file.1 != place && place.isPrefixOf file.1

/-- Whether there is anything at a place. -/
def holds (disk : Disk) (place : Place) : Bool :=
  (disk.file? place).isSome || disk.isDirectory place

/-- The largest number of bytes of a name. -/
def nameLimit : Nat := 255

/-- Follow segments from a place.  Each step starts at a directory; the last
one may lead to a place that holds nothing. -/
def follow (disk : Disk) : Place → List String → Except Fault Place
  | place, [] => .ok place
  | place, segment :: segments =>
      if !disk.isDirectory place then
        .error (if disk.holds place then .notADirectory else .notFound)
      else if Path.isIdle segment then
        follow disk place segments
      else if segment = ".." then
        follow disk place.dropLast segments
      else if nameLimit < segment.utf8ByteSize then
        .error .nameTooLong
      else
        follow disk (place ++ [segment]) segments

/-- The place at which a path starts. -/
def origin (disk : Disk) (path : String) : Place :=
  if Path.isAbsolute path then [] else disk.current

/-- The place to which a path leads. -/
def locate (disk : Disk) (path : String) : Except Fault Place :=
  if path.isEmpty then
    .error .notFound
  else
    disk.follow (disk.origin path) (Path.segments path)

/-- The place at which a path would put something new: slashes at its end do
not count. -/
def locateNew (disk : Disk) (path : String) : Except Fault Place :=
  if path.isEmpty then
    .error .notFound
  else
    let segments := Path.segments path
    disk.follow (disk.origin path)
      (segments.reverse.dropWhile String.isEmpty).reverse

/-- The place of something that is there. -/
def find (disk : Disk) (path : String) : Except Fault Place := do
  let place ← disk.locate path
  if disk.holds place then return place
  throw .notFound

/-- Whether a path leads to something. -/
def hasPath (disk : Disk) (path : String) : Bool :=
  (disk.find path).isOk

/-- Whether a path leads to a directory. -/
def hasDirectory (disk : Disk) (path : String) : Bool :=
  match disk.find path with
  | .ok place => disk.isDirectory place
  | .error _ => false

/-- The path from the root to a place. -/
def absolutePath (place : Place) : String :=
  "/" ++ Path.ofNames place

/-- The one absolute path of what a path leads to; a path that leads nowhere
stays as it is. -/
def canonical (disk : Disk) (path : String) : String :=
  match disk.find path with
  | .ok place => absolutePath place
  | .error _ => path

/-- The bytes of a file. -/
def read (disk : Disk) (path : String) : Except Fault ByteArray := do
  let place ← disk.find path
  match disk.file? place with
  | some bytes => return bytes
  | none => throw .isADirectory

/-- The text of a file. -/
def readText (disk : Disk) (path : String) : Except Fault String := do
  match String.fromUTF8? (← disk.read path) with
  | some text => return text
  | none => throw .notAText

/-- The disk with the file at a place replaced or added. -/
def put (disk : Disk) (place : Place) (bytes : ByteArray) : Disk :=
  if (disk.file? place).isSome then
    { disk with
      files := disk.files.map fun file =>
        if file.1 = place then (place, bytes) else file }
  else
    { disk with files := disk.files ++ [(place, bytes)] }

/-- Write a file; the directory in which it lies must be there. -/
def write (disk : Disk) (path : String) (bytes : ByteArray) :
    Except Fault Disk := do
  let place ← disk.locateNew path
  if disk.isDirectory place || Text.endsWith path "/" then
    throw .isADirectory
  return disk.put place bytes

/-- Write a file that holds a text. -/
def writeText (disk : Disk) (path text : String) : Except Fault Disk :=
  disk.write path text.toUTF8

/-- Copy a file.  The target is emptied before the source is read on, so a file
copied onto itself becomes empty. -/
def copy (disk : Disk) (source target : String) : Except Fault Disk := do
  let _ ← disk.read source
  let emptied ← disk.write target ByteArray.empty
  emptied.write target (← emptied.read source)

/-- Make one directory; the directory in which it lies must be there. -/
def makeDirectory (disk : Disk) (path : String) : Except Fault Disk := do
  let place ← disk.locateNew path
  if disk.holds place then
    throw .alreadyExists
  return { disk with directories := disk.directories ++ [place] }

/-- Make a directory unless it is there already. -/
def ensureDirectory (disk : Disk) (path : String) : Except Fault Disk :=
  match disk.makeDirectory path with
  | .ok disk => .ok disk
  | .error fault =>
      if disk.hasDirectory path then .ok disk else .error fault

/-- Make a directory and those above it, as far as they are missing; `steps`
bounds how far up this goes. -/
def ensureDirectoriesWithin : (steps : Nat) → Disk → String → Except Fault Disk
  | 0, disk, path => disk.ensureDirectory path
  | steps + 1, disk, path =>
      if path.isEmpty then
        .ok disk
      else
        match disk.ensureDirectory path with
        | .error .notFound => do
            match Path.parent? path with
            | some parent =>
                (← ensureDirectoriesWithin steps disk parent).ensureDirectory path
            | none => throw .notFound
        | outcome => outcome

/-- Make a directory and those above it, as far as they are missing. -/
def ensureDirectories (disk : Disk) (path : String) : Except Fault Disk :=
  disk.ensureDirectoriesWithin (path.length + 1) path

/-- The names below a place under which files lie, with their bytes. -/
def filesBelow (disk : Disk) (place : Place) : List (List String × ByteArray) :=
  disk.files.filterMap fun file =>
    if place.isPrefixOf file.1 && file.1 != place then
      some (file.1.drop place.length, file.2)
    else
      none

end Disk

end Files

end SourceMark
