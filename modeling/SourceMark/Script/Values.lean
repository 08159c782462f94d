import SourceMark.Script.Arrows
import SourceMark.Script.Classes

/-!
# Values

The values without operators, accesses or calls around them: names, literals,
functions, classes and lists in parentheses.
-/

namespace SourceMark

namespace Script

open Reading

/-- A value without parts that ends at the last token. -/
def leaf (start : Nat) : Reading Term := do
  return .kept (← groupFrom start []) .other

/-! ## List literals -/

/-- A value as an entry of a literal. -/
def Entry.ofTerm (kind : EntryKind) (term : Term) : Entry where
  kind := kind
  plain := [term.node]
  assigned := term.assigned
  bound := term.bound

/-- The place of an entry that was left out. -/
def Entry.hole : Entry where
  kind := .hole
  plain := []
  assigned := some []
  bound := some []

/-- One element of a list literal; elements may be left out. -/
def listElement? (grammar : Grammar) : Reading (Option Entry) := do
  if ← acceptMark "]" then
    return none
  if ← acceptMark "," then
    return some .hole
  let kind ← do
    if ← acceptMark "..." then
      pure .spread
    else
      pure .single
  let term ← withIn grammar.assignment
  unless ← atMark "]" do
    expectMark ","
  return some (.ofTerm kind term)

/-- A list literal. -/
def listLiteral (grammar : Grammar) (start : Nat) : Reading Term := do
  expectMark "["
  let entries ← many (listElement? grammar)
  return {
    node := ← groupFrom start (entries.flatMap Entry.plain)
    form := .literal
    assigned := Entry.listParts Entry.assigned entries
    bound := Entry.listParts Entry.bound entries }

/-! ## Record literals -/

/-- An entry that stays the same whatever the literal stands for. -/
def Entry.fixed (parts : List Node) : Entry where
  kind := .single
  plain := parts
  assigned := some parts
  bound := some parts

/-- An entry without which no value can be taken apart. -/
def Entry.indivisible (parts : List Node) : Entry where
  kind := .single
  plain := parts
  assigned := none
  bound := none

/-- A function in a record. -/
def recordMethod (grammar : Grammar) (manner : Manner) (key : Key) :
    Reading Entry := do
  return .indivisible (← method grammar manner key [])

/-- A function that reads a field. -/
def recordGetter (grammar : Grammar) (key : Key) : Reading Entry := do
  let parts ← withSuper true (functionParts grammar .plain)
  return .indivisible (key.parts ++ parts.result ++ parts.body.getD [])

/-- A function that writes a field.  It takes the object and the value. -/
def recordSetter (grammar : Grammar) (key : Key) : Reading Entry := do
  let parts ← withSuper true (functionParts grammar .plain)
  let bound := (parts.parameters.take 2).flatMap fun parameter =>
    parameter.binding.parts
  return .indivisible (key.parts ++ bound ++ parts.body.getD [])

/-- A field whose key follows a word for its manner. -/
def modifiedField (grammar : Grammar) (word : String) : Reading Entry := do
  if word = "async" then
    let isGenerator ← acceptMark "*"
    recordMethod grammar { isAsync := true, isGenerator } (← fieldKey grammar)
  else if word = "get" then
    recordGetter grammar (← fieldKey grammar)
  else if word = "set" then
    recordSetter grammar (← fieldKey grammar)
  else
    fail

/-- A field without a colon, behind the word that is its key: a variable of that
name, perhaps with a default, or a word for the manner of a function. -/
def shortField (grammar : Grammar) (word : String) : Reading Entry := do
  let _ ← acceptMark "?"
  if ← acceptMark "=" then
    return .fixed [(← withIn grammar.assignment).node]
  else if (← atMark ",") || (← atMark "\x7d") then
    return .fixed []
  else
    modifiedField grammar word

/-- A field behind its key. -/
def keyedField (grammar : Grammar) (key : Key) : Reading Entry := do
  if ← acceptMark ":" then
    let value ← withIn grammar.assignment
    let behindKey (parts : List Node) : List Node := key.parts ++ parts
    return {
      kind := .single
      plain := behindKey [value.node]
      assigned := value.assigned.map behindKey
      bound := value.bound.map behindKey }
  if ← atFunctionHead then
    return ← recordMethod grammar .plain key
  match key.word with
  | some word => shortField grammar word
  | none =>
      if (← typed) && (← atMark "\x7d") then
        return .fixed key.parts
      else
        fail

/-- One field of a record literal. -/
def literalField (grammar : Grammar) : Reading Entry := do
  if ← acceptMark "..." then
    let term ← withIn grammar.assignment
    return { Entry.ofTerm .spread term with bound := some [] }
  if ← acceptMark "*" then
    let manner : Manner := { isAsync := false, isGenerator := true }
    return ← recordMethod grammar manner (← fieldKey grammar)
  let _ ← acceptParameterModifier
  keyedField grammar (← fieldKey grammar)

/-- A record literal. -/
def recordLiteral (grammar : Grammar) : Reading Term := do
  let start ← startOffset
  expectMark "\x7b"
  let entries ← awaitingNoColon (separated "\x7d" (literalField grammar))
  return {
    node := ← groupFrom start (entries.flatMap Entry.plain)
    form := .literal
    assigned := Entry.recordParts Entry.assigned entries
    bound := Entry.recordParts Entry.bound entries }

/-! ## Other values -/

/-- A template literal. -/
def templateLiteral (grammar : Grammar) (start : Nat) : Reading Term := do
  expectMark "\x60"
  let parts ← templateParts grammar false
  return .kept (← groupFrom start parts) .other

/-- A pattern literal, with the letters behind it. -/
def patternLiteral (start : Nat) : Reading Term := do
  let opening := (← peek).place
  match closePattern? false (opening.offset + 1) (opening.rest.drop 1) with
  | some behind =>
      moveTo (Cursor.takeWhile Text.isWordPart behind.offset behind.rest).2
      leaf start
  | none => fail

/-- Whether an arrow function may start at an offset. -/
def mayStartArrow (start : Nat) : Reading Bool :=
  return (← read).arrowStart = some start

/-- A function or a call that starts with the word `async`. -/
def asyncValue? (grammar : Grammar) (start : Nat) : Reading (Option Term) := do
  let next ← peekSecond
  let mayStart ← mayStartArrow start
  if ← atAsyncFunction then
    return some (.kept (← asyncFunction grammar .expression start []) .other)
  if mayStart && (← typed) && next.token = .mark "<" then
    if let some term ← attempt (genericAsyncArrow grammar) then
      return some term
  if mayStart && next.token = .mark "(" && !next.afterLineEnd then
    expectWord "async"
    return some (← parenthesized grammar start true)
  return none

/-- An asynchronous arrow function whose parameter comes next.  With types, the
word `as` may instead give a type to the variable `async`. -/
def asyncNameArrow (grammar : Grammar) (start : Nat) : Reading Term := do
  let next ← peekSecond
  if (← read).inLoopHead && (← atWord "of") && next.token != .mark "=>" then
    fail
  let name ← bindingName
  if (← typed) && name = "as" && !(← atMark "=>") then
    let type ← grammar.type
    return .kept (← groupFrom start type) .place
  else
    nameArrow grammar start true

/-- The name of a variable where an expression is read.  With types, most words
of a module are read as names. -/
def variableName : Reading String := do
  match (← peek).token with
  | .word text =>
      if (← typed) || !isReserved text || text = "let" then
        bindingName
      else
        fail
  | _ => fail

/-- A name, or the arrow function whose only parameter it is. -/
def namedValue (grammar : Grammar) : Reading Term := do
  let lexeme ← peek
  let start := lexeme.start
  let name ← variableName
  let next ← peek
  if !(← mayStartArrow start) || next.afterLineEnd then
    return nameTerm name lexeme
  else if name = "async" && namesValue next.token then
    asyncNameArrow grammar start
  else if next.token = .mark "=>" then
    nameArrow grammar start false
  else
    return nameTerm name lexeme

/-- The values that the language names itself. -/
def knownValues : List String := ["this", "null", "true", "false"]

/-- A value that starts with a word. -/
def wordValue (grammar : Grammar) (start : Nat) (word : String) :
    Reading Term := do
  if knownValues.contains word then
    passAny
    leaf start
  else if word = "function" then
    return .kept (← function grammar .expression start false []) .other
  else if word = "class" then
    return .kept (← classRest grammar start false []) .other
  else
    if word = "async" then
      if let some term ← asyncValue? grammar start then
        return term
    namedValue grammar

/-- A value without operators, accesses or calls around it. -/
def value (grammar : Grammar) : Reading Term := do
  let lexeme ← peek
  let start := lexeme.start
  match lexeme.token with
  | .number | .text | .privateWord _ =>
      pass lexeme
      leaf start
  | .word text => wordValue grammar start text
  | .mark "(" => parenthesized grammar start false
  | .mark "[" => listLiteral grammar start
  | .mark "\x7b" => recordLiteral grammar
  | .mark "\x60" => templateLiteral grammar start
  | .mark "/" | .mark "/=" => patternLiteral start
  | .mark "@" =>
      let decorations ← decorators grammar
      return .kept (← classRest grammar start false decorations) .other
  | _ => fail

end Script

end SourceMark
