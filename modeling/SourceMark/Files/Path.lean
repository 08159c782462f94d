import SourceMark.Text.Search

/-!
# Paths

A path is a text whose segments are divided by slashes.  Two paths are the same
spelling when their parts agree; nothing here looks at a disk, so two spellings
of one place may still differ.
-/

namespace SourceMark

namespace Files

namespace Path

/-- The segments between the slashes, empty ones included. -/
def segments (path : String) : List String :=
  (Text.splitOn '/' path.toList).map String.ofList

/-- A segment that leads nowhere else: an empty one, or a single dot. -/
def isIdle (segment : String) : Bool :=
  segment.isEmpty || segment = "."

/-- Whether a path starts at the root. -/
def isAbsolute (path : String) : Bool :=
  Text.startsWith path "/"

/-- The parts by which spellings are compared.  Idle segments do not count,
save for a dot at the very start of a relative path. -/
def parts (path : String) : List String :=
  match segments path with
  | [] => []
  | first :: rest =>
      let later := rest.filter fun segment => !isIdle segment
      if isAbsolute path then
        "/" :: later
      else if first.isEmpty then
        later
      else
        first :: later

/-- The path below a base; an absolute path stays as it is. -/
def join (base path : String) : String :=
  if isAbsolute path then
    path
  else if base.isEmpty || Text.endsWith base "/" then
    base ++ path
  else
    base ++ "/" ++ path

/-- The names one after the other, divided by slashes. -/
def ofNames (names : List String) : String :=
  String.intercalate "/" names

/-- The segments without the idle ones at the end. -/
def withoutIdleEnd (segments : List String) : List String :=
  (segments.reverse.dropWhile isIdle).reverse

/-- The path without its last part, if it has one. -/
def parent? (path : String) : Option String :=
  match segments path with
  | [] => none
  | first :: rest =>
      match withoutIdleEnd rest with
      | [] => if first.isEmpty then none else some ""
      | kept =>
          let above := withoutIdleEnd kept.dropLast
          if isAbsolute path then
            some ("/" ++ ofNames above)
          else
            some (ofNames (first :: above))

/-- The order of names, part by part; a path comes before what lies below
it. -/
def precedes : List String → List String → Bool
  | [], _ => true
  | _ :: _, [] => false
  | first :: rest, other :: others =>
      first < other || (first = other && precedes rest others)

end Path

end Files

end SourceMark
