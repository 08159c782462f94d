import SourceMark.Overlay.Editor
import SourceMark.Overlay.Store

/-!
# Preferences

Three preferences outlive a page.  A stored text that names no value counts as
missing, and so does every text of a store that cannot be read.
-/

namespace SourceMark

namespace Overlay

/-- Which of the two keys of a kind counts as held. -/
inductive ModifierSide where
  | any
  | left
  | right
deriving Repr, DecidableEq

namespace ModifierSide

/-- The name by which a side is chosen and stored. -/
def name : ModifierSide → String
  | any => "any"
  | left => "left"
  | right => "right"

/-- Read a name in any case and with blanks around it; an unknown name is given
back trimmed and in lower case. -/
def ofName? (value : String) : Except String ModifierSide :=
  match Text.lowerString (Text.trimString value) with
  | "any" => .ok any
  | "left" => .ok left
  | "right" => .ok right
  | unknown => .error unknown

/-- What is said of an unknown name. -/
def unknownMessage (unknown : String) : String :=
  "unknown modifier location '" ++ unknown ++ "'"

/-- The location code of a key on the left. -/
def leftCode : Nat := 1

/-- The location code of a key on the right. -/
def rightCode : Nat := 2

/-- Whether a key with this location code counts. -/
def honours : ModifierSide → (code : Nat) → Bool
  | any, _ => true
  | left, code => code == leftCode
  | right, code => code == rightCode

end ModifierSide

/-- What the user chose. -/
structure Preferences where
  highlight : Bool
  editor : Editor
  modifier : ModifierSide
deriving Repr, DecidableEq

namespace Preferences

/-- The key of the highlight. -/
def highlightKey : String := "cts_highlight_enabled"

/-- The key of the editor. -/
def editorKey : String := "cts_editor_protocol"

/-- The key of the modifier side. -/
def modifierKey : String := "cts_modifier_location"

/-- The preferences of someone who chose nothing. -/
def standard : Preferences :=
  { highlight := true, editor := .vscode, modifier := .left }

/-- The text under which a truth value is stored. -/
def flagText (value : Bool) : String :=
  if value then "true" else "false"

/-- The stored preferences; any text but `true` switches the highlight off. -/
def load (store : Store) : Preferences where
  highlight :=
    match store.read? highlightKey with
    | some value => value == flagText true
    | none => standard.highlight
  editor :=
    match (store.read? editorKey).map Editor.ofName? with
    | some (.ok editor) => editor
    | _ => standard.editor
  modifier :=
    match (store.read? modifierKey).map ModifierSide.ofName? with
    | some (.ok modifier) => modifier
    | _ => standard.modifier

end Preferences

end Overlay

end SourceMark
