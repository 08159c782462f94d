import SourceMark.Script.Statements

/-!
# Imports

Names that a module takes from another one.
-/

namespace SourceMark

namespace Script

open Reading

/-! ## Where names come from -/

/-- The record that tells how a module is loaded, with types. -/
def loadOptions (grammar : Grammar) : Reading (List Node) := do
  let isOnLine := !(← peek).afterLineEnd
  if (← typed) && isOnLine &&
      ((← acceptWord "assert") || (← acceptWord "with")) then
    return [(← recordLiteral grammar).node]
  else
    return []

/-- The module that names come from, behind the word `from` if there is one. -/
def moduleName (grammar : Grammar) : Reading (List Node) := do
  unless ← acceptToken (· == .text) do
    fail
  let options ← loadOptions grammar
  endStatement
  return options

/-- The module that names come from. -/
def fromModule (grammar : Grammar) : Reading (List Node) := do
  expectWord "from"
  moduleName grammar

/-! ## Names between braces -/

/-- Whether the next token is a word. -/
def atAnyWord : Reading Bool := do
  match (← peek).token with
  | .word _ => return true
  | _ => return false

/-- The name under which something is imported or exported: a word, given back,
or a text. -/
def sharedName : Reading (Option String) := do
  if ← acceptToken (· == .text) then
    return none
  else
    return some (← anyWord)

/-- An imported name behind the word `type`, with types.  The word may itself be
the name, and so may the word `as` behind it. -/
def importedType (renamed : Reading Unit) : Reading Unit := do
  if (← anyWord) != "as" then
    renamed
  else if ← atAnyWord then
    if (← bindingName) = "as" && (← atAnyWord) then
      let _ ← bindingName

/-- One imported name.  Words of the language and texts need another name. -/
def importedName : Reading Unit := do
  let first := (← peek).token
  let shared ← sharedName
  let renamed (isName : Bool) : Reading Unit := do
    if ← acceptWord "as" then
      let _ ← bindingName
    else unless isName do
      fail
  if (← typed) && shared = some "type" && (← atAnyWord) then
    let second := (← peek).token
    importedType (renamed (namesValue second))
  else
    renamed (namesValue first)

/-- Names between braces, separated by commas. -/
def namesBetween (name : Reading Unit) : Reading Unit := do
  expectMark "\x7b"
  let _ ← separated "\x7d" name

/-! ## Imports -/

/-- When an imported module is run. -/
inductive ImportPhase where
  | evaluation
  | source
  | defer
deriving Repr, DecidableEq

namespace ImportPhase

/-- The phase that a word stands for. -/
def ofWord? : String → Option ImportPhase
  | "source" => some source
  | "defer" => some defer
  | _ => none

end ImportPhase

/-- Something of another module or namespace that gets a name, behind the equals
sign. -/
def importedEntity : Reading Unit := do
  let next := (← peekSecond).token
  if (← atWord "require") && next = .mark "(" then
    passAny
    passAny
    unless ← acceptToken (· == .text) do
      fail
    expectMark ")"
  else
    plainEntityName
  endStatement

/-- All names of a module, or some of them. -/
def importedNames (phase : ImportPhase) : Reading Unit := do
  if phase ≠ .source && (← acceptMark "*") then
    expectWord "as"
    let _ ← bindingName
  else if phase = .evaluation && (← atMark "\x7b") then
    namesBetween importedName

/-- What stands in front of the names between braces. -/
inductive ImportHead where
  /-- Perhaps a name, and nothing that speaks against further names. -/
  | names (phase : ImportPhase)
  /-- The only name, in front of the word `from`. -/
  | single
  /-- The name of an entity, in front of an equals sign. -/
  | entity
deriving Repr, DecidableEq

/-- Whether a name comes next that is not the word in front of a module. -/
def atImportedName : Reading Bool := do
  let next := (← peekSecond).token
  return (← atValueName) && (!(← atWord "from") || next = .word "from")

/-- Whether names follow that have no name of their own. -/
def atUnnamed : Reading Bool :=
  atAnyMark ["*", "\x7b"]

/-- What follows the first name of an import. -/
def importHeadRest : Reading ImportHead := do
  if ← atWord "from" then
    return .single
  else
    expectMark ","
    return .names .evaluation

/-- The name in front of other names, behind its first word. -/
def importHeadBehind (word : String) : Reading ImportHead := do
  let next := (← peekSecond).token
  if word = "type" && (← typed) then
    if ← atUnnamed then
      return .names .evaluation
    if (← atImportedName) || ((← atWord "from") && next = .mark "=") then
      let _ ← bindingName
  if (← typed) && (← acceptMark "=") then
    return .entity
  match ImportPhase.ofWord? word with
  | some phase =>
      if ← atUnnamed then
        return .names phase
      if ← atImportedName then
        let _ ← bindingName
        if ← atWord "from" then
          return .single
        expectMark ","
        return .names phase
      importHeadRest
  | none => importHeadRest

/-- What stands in front of the names between braces. -/
def importHead : Reading ImportHead := do
  if ← atValueName then
    importHeadBehind (← bindingName)
  else
    return .names .evaluation

/-- An import, behind its first word. -/
def importRest (grammar : Grammar) : Reading (List Node) := do
  if (← peek).token = .text then
    return ← moduleName grammar
  match ← importHead with
  | .entity =>
      importedEntity
      return []
  | .single => fromModule grammar
  | .names phase =>
      importedNames phase
      fromModule grammar

end Script

end SourceMark
