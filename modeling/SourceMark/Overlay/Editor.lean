import SourceMark.Location
import SourceMark.Text.Blank

/-!
# Editors

An editor is reached through an address that names the file, the line and the
column.
-/

namespace SourceMark

namespace Overlay

/-- The editors that can be opened at a location. -/
inductive Editor where
  | vscode
  | cursor
  | zed
deriving Repr, DecidableEq

namespace Editor

/-- The name by which an editor is chosen and stored. -/
def name : Editor → String
  | vscode => "vscode"
  | cursor => "cursor"
  | zed => "zed"

/-- The name shown to people. -/
def label : Editor → String
  | vscode => "VS Code"
  | cursor => "Cursor"
  | zed => "Zed"

/-- Read a name in any case and with blanks around it; an unknown name is given
back trimmed and in lower case. -/
def ofName? (value : String) : Except String Editor :=
  match Text.lowerString (Text.trimString value) with
  | "vscode" => .ok vscode
  | "cursor" => .ok cursor
  | "zed" => .ok zed
  | unknown => .error unknown

/-- What is said of an unknown name. -/
def unknownMessage (unknown : String) : String :=
  "unknown editor protocol '" ++ unknown ++ "'"

/-- The beginning of an editor's addresses, up to the file. -/
def scheme : Editor → String
  | vscode => "vscode://file/"
  | cursor => "cursor://file/"
  | zed => "zed://file"

/-- The address that opens a location. -/
def address (editor : Editor) (location : Location) : String :=
  editor.scheme ++ location.encode

/-- The address that opens a written location. -/
def addressOf? (editor : Editor) (value : String) : Option String :=
  (Location.decode? value).map editor.address

/-- What is said of a value that is not a written location. -/
def notALocation (value : String) : String :=
  "Not a file:line:column location: " ++ value

end Editor

end Overlay

end SourceMark
