import SourceMark.Script.Imports

/-!
# Exports

What a module gives to others: names of its own or of other modules,
declarations, and one value under no name.
-/

namespace SourceMark

namespace Script

open Reading

/-! ## Names -/

/-- An exported name behind the word `type`, with types.  The word may itself be
the name, and so may the word `as` behind it. -/
def exportedType (renamed : Reading Unit) : Reading Unit := do
  if (← anyWord) != "as" then
    renamed
  else if ← atAnyWord then
    if (← anyWord) = "as" && (← atAnyWord) then
      let _ ← anyWord

/-- One exported name. -/
def exportedName : Reading Unit := do
  let renamed : Reading Unit := do
    if ← acceptWord "as" then
      let _ ← sharedName
  let shared ← sharedName
  if (← typed) && shared = some "type" && (← atAnyWord) then
    exportedType renamed
  else
    renamed

/-- The names between braces that are exported, perhaps from another module. -/
def exportedNames (grammar : Grammar) : Reading (List Node) := do
  namesBetween exportedName
  if ← atWord "from" then
    fromModule grammar
  else
    let _ ← acceptStatementEnd
    return []

/-- All names of another module, or names between braces. -/
def exportedList (grammar : Grammar) : Reading (List Node) := do
  if ← acceptMark "*" then
    if ← acceptWord "as" then
      let _ ← sharedName
    fromModule grammar
  else
    exportedNames grammar

/-! ## Values and declarations -/

/-- The decorators between the words of an export and a class.  They may stand in
only one of the two places. -/
def laterDecorators (grammar : Grammar) (decorations : List Node) :
    Reading (List Node) := do
  let later ← decorators grammar
  if later.isEmpty then
    return decorations
  else if decorations.isEmpty then
    return later
  else
    fail

/-- A class or an interface that is exported by default, with types. -/
def typedDefault? (grammar : Grammar) (start : Nat) (decorations : List Node) :
    Reading (Option Node) := do
  let next ← peekSecond
  unless ← typed do
    return none
  if (← atWord "abstract") && next.token = .word "class" &&
      !next.afterLineEnd then
    passAny
    return some (← classRest grammar start false decorations)
  if (← atWord "abstract") && next.token = .word "interface" then
    passAny
  if ← acceptWord "interface" then
    return some (← groupFrom start (← interfaceRest grammar))
  else
    return none

/-- What a module exports by default, behind the word `default`. -/
def defaultExport (grammar : Grammar) (decorations : List Node) :
    Reading Node := do
  let decorations ← laterDecorators grammar decorations
  let start ← startOffset
  if let some node ← typedDefault? grammar start decorations then
    return node
  if ← atWord "class" then
    classRest grammar start false decorations
  else if ← atAsyncFunction then
    asyncFunction grammar .defaultExport start decorations
  else if ← atWord "function" then
    function grammar .defaultExport start false decorations
  else
    let value ← withIn grammar.assignment
    endStatement
    return value.node

/-- A declaration that is exported, or names. -/
def exportedDeclaration (grammar : Grammar) (decorations : List Node) :
    Reading (List Node) := do
  let decorations ← laterDecorators grammar decorations
  let start ← startOffset
  let next ← peekSecond
  if ← atWord "class" then
    return [← classRest grammar start true decorations]
  else if ← atAsyncFunction then
    return [← asyncFunction grammar .declaration start decorations]
  else if ← atWord "function" then
    return [← function grammar .declaration start false decorations]
  else if (← typed) && (← atWord "const") && next.token = .word "enum" then
    pass next
    enumerationRest grammar
  else
    match (← peek).token with
    | .word text =>
        match VariableKind.ofWord? text with
        | some kind => variableStatement grammar kind
        | none => fail
    | _ => exportedList grammar

/-- An export that only files with types contain, behind the first word. -/
def typedExport? (grammar : Grammar) (decorations : List Node) :
    Reading (Option (List Node)) := do
  let start ← startOffset
  if ← acceptWord "declare" then
    if let some node ← declaration? grammar start decorations then
      return some [node]
  let inner ← startOffset
  if let some node ← attempt? (certainDeclaration? grammar inner decorations) then
    return some [node]
  if ← acceptWord "import" then
    let next := (← peekSecond).token
    if (← atWord "type") && next != .mark "=" then
      passAny
    let _ ← anyWord
    expectMark "="
    importedEntity
    return some []
  else if ← acceptMark "=" then
    let value ← grammar.expression
    endStatement
    return some [value.node]
  else if ← acceptWord "as" then
    expectWord "namespace"
    let _ ← bindingName
    endStatement
    return some []
  else
    return none

/-- An export, behind its first word. -/
def exportRest (grammar : Grammar) (decorations : List Node) :
    Reading (List Node) := do
  if ← typed then
    if let some parts ← typedExport? grammar decorations then
      return parts
  if ← acceptTypedWord "type" then
    exportedList grammar
  else if ← acceptWord "default" then
    return [← defaultExport grammar decorations]
  else
    exportedDeclaration grammar decorations

end Script

end SourceMark
