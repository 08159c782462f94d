import SourceMark.Script.Accesses
import SourceMark.Script.Functions

/-!
# Classes

The parts of a class are its decorators, its members, the class that it extends
and the types in its head, in this order.
-/

namespace SourceMark

namespace Script

open Reading

/-- Whether the parameters of a function come next. -/
def atFunctionHead : Reading Bool := do
  return (← atMark "(") || ((← typed) && (← atMark "<"))

/-- Whether the rest of a field comes next, other than its question mark or the
end of its line. -/
def atFieldRest : Reading Bool := do
  return (← atAnyMark ["=", "\x7d", ";"]) ||
    ((← typed) && (← atAnyMark ["!", ":"]))

/-- Pass this word, which has no meaning without types. -/
def acceptTypedWord (text : String) : Reading Bool := do
  if ← typed then
    acceptWord text
  else
    return false

/-- Pass the question mark of something that may be left out. -/
def acceptOptionMark : Reading Bool := do
  if ← typed then
    acceptMark "?"
  else
    return false

/-! ## Members behind their keys -/

/-- A function behind its key. -/
def method (grammar : Grammar) (manner : Manner) (key : Key)
    (decorations : List Node) : Reading (List Node) := do
  let parts ← withSuper true (functionParts grammar manner)
  return key.parts ++ parts.inOrder decorations

/-- The function that makes an object, behind its key. -/
def constructorRest (grammar : Grammar) (key : Key) : Reading (List Node) :=
  withSuper true <| insideFunction .plain do
    let _ ← optionalTypeParameters grammar
    expectMark "("
    let parameters ← separated ")" (constructorParameter grammar)
    let _ ← typeBehindColon grammar
    let body ← functionBody? grammar
    return key.parts ++ parameters.flatMap Parameter.parts ++ body.getD []

/-- A field behind its key.  It cannot be named like the constructor. -/
def fieldRest (grammar : Grammar) (key : Key) (isOptional : Bool)
    (decorations : List Node) : Reading (List Node) := do
  if key.isConstructor then
    fail
  if (← typed) && !isOptional then
    let _ ← acceptMark "!"
  let type ← typeBehindColon grammar
  let value ← do
    if ← acceptMark "=" then
      pure [(← withIn (withSuper true grammar.assignment)).node]
    else
      pure []
  let _ ← acceptStatementEnd
  return key.parts ++ value ++ type ++ decorations

/-- The key that is this word. -/
def Key.ofWord (word : String) : Key :=
  { word := some word, isConstructor := false, parts := [] }

/-- The member whose name is the word that was passed last, if it is one. -/
def memberNamed? (grammar : Grammar) (word : String) (decorations : List Node) :
    Reading (Option (List Node)) := do
  if ← atFunctionHead then
    some <$> method grammar .plain (.ofWord word) decorations
  else if (← atFieldRest) || ((← typed) && (← atMark "?")) then
    let isOptional ← acceptOptionMark
    some <$> fieldRest grammar (.ofWord word) isOptional decorations
  else
    return none

/-- A member whose key follows a word for its manner. -/
def modifiedMethod (grammar : Grammar) (word : String)
    (decorations : List Node) : Reading (List Node) := do
  if word = "async" then
    let _ ← acceptModifier ["override"]
    let isGenerator ← acceptMark "*"
    let key ← memberKey grammar
    if key.isConstructor then
      fail
    let _ ← acceptOptionMark
    method grammar { isAsync := true, isGenerator } key decorations
  else
    let key ← memberKey grammar
    method grammar .plain key decorations

/-- A member from its key on. -/
def keyedMember (grammar : Grammar) (isFixed : Bool) (decorations : List Node) :
    Reading (List Node) := do
  let key ← do
    if isFixed && (← atAnyMark ["!", ":"]) then
      pure (.ofWord "readonly")
    else
      memberKey grammar
  let isOptional ← acceptOptionMark
  if ← atFunctionHead then
    if key.isConstructor then
      return ← constructorRest grammar key
    else
      return ← method grammar .plain key decorations
  let next ← peek
  let isAccessor := (key.word = some "get" || key.word = some "set") &&
    !(← atFieldRest) && !(next.afterLineEnd && next.token = .mark "*")
  if !isAccessor && ((← atFieldRest) || (← atStatementEnd)) then
    return ← fieldRest grammar key isOptional decorations
  match key.word with
  | some word =>
      if isAccessor || (word = "async" && !next.afterLineEnd) then
        modifiedMethod grammar word decorations
      else
        fail
  | none => fail

/-! ## Members -/

/-- The words that may be repeated in front of a member. -/
def memberWords : List String := ["abstract", "readonly", "override", "static"]

/-- Whether statements come next that run when the class is made. -/
def atStaticBlock : Reading Bool := do
  return (← atWord "static") && (← peekSecond).token = .mark "\x7b"

/-- A member behind its first modifiers. -/
def modifiedMember (grammar : Grammar) (isAccessible isStatic : Bool)
    (decorations : List Node) : Reading (List Node) := do
  let words ← many do
    if ← atStaticBlock then
      return none
    else
      modifier? memberWords
  let _ ← acceptTypedWord "accessor"
  if (isStatic || words.contains "static") && (← atMark "\x7b") then
    return ← block grammar
  if ← atStaticBlock then
    passAny
    return ← block grammar
  let mayDescribe := !isAccessible && !words.contains "abstract" &&
    !words.contains "override"
  if (← typed) && mayDescribe && (← atIndexMember) then
    return ← indexMember grammar
  if ← acceptMark "*" then
    let key ← memberKey grammar
    return ← method grammar { isAsync := false, isGenerator := true } key
      decorations
  keyedMember grammar (words.contains "readonly") decorations

/-- One member of a class. -/
def classMember (grammar : Grammar) : Reading (List Node) := do
  let decorations ← decorators grammar
  let named? (isWord : Bool) (word : String) :
      Reading (Option (List Node)) :=
    if isWord then memberNamed? grammar word decorations else return none
  let isDeclared ← acceptTypedWord "declare"
  let access ← modifier? accessWords
  let isDeclaredLater ← acceptTypedWord "declare"
  if let some parts ← named? (isDeclared || isDeclaredLater) "declare" then
    return parts
  let isStatic ← acceptWord "static"
  let isAccessor ← acceptTypedWord "accessor"
  if let some parts ← named? isStatic "static" then
    return parts
  if let some parts ← named? isAccessor "accessor" then
    return parts
  let isAccessible := access.any parameterWords.contains
  modifiedMember grammar isAccessible isStatic decorations

/-- The members of a class, from the opening brace on.  The end of the script
closes a class as well. -/
def classBody (grammar : Grammar) : Reading (List Node) := do
  expectMark "\x7b"
  let members ← many do
    if (← peek).token = .finish then
      return none
    else if ← acceptMark "\x7d" then
      return none
    else if ← acceptMark ";" then
      return some []
    else
      return some (← classMember grammar)
  return members.flatten

/-! ## Heads -/

/-- The class that a class extends, with its type arguments. -/
structure Base where
  value : List Node
  types : List Node
deriving Repr

/-- What is extended where the word `extends` was passed. -/
def base (grammar : Grammar) : Reading Base := do
  let value ← grammar.chain
  return { value := [value.node], types := ← optionalTypeArguments grammar }

/-- What a class extends.  Of several bases the first one counts. -/
def bases? (grammar : Grammar) : Reading (Option Base) := do
  if ← acceptWord "extends" then
    let first ← base grammar
    let _ ← many do
      if (← typed) && (← acceptMark ",") then
        return some (← base grammar)
      else
        return none
    return some first
  else
    return none

/-- The types that a class implements. -/
def implemented (grammar : Grammar) : Reading (List Node) := do
  if ← acceptTypedWord "implements" then
    ancestors grammar
  else
    return []

/-- The name of a class; where one is needed, it may not be `let`. -/
def className (isRequired : Bool) : Reading Unit := do
  if isRequired then
    if ← atWord "let" then
      fail
    let _ ← bindingName
  else
    let _ ← optionalName?

/-- A class from the word `class` on, behind its decorators. -/
def classRest (grammar : Grammar) (start : Nat) (isNamed : Bool)
    (decorations : List Node) : Reading Node := do
  expectWord "class"
  className isNamed
  let quantified ← optionalTypeParameters grammar
  let extended ← bases? grammar
  if ← acceptWord "extends" then
    let _ ← base grammar
  let contracts ← implemented grammar
  let _ ← implemented grammar
  let lateBase ← do
    if ← acceptTypedWord "extends" then
      pure (some (← base grammar))
    else
      pure none
  let base := (extended.or lateBase).getD { value := [], types := [] }
  let members ← withSuper true (classBody grammar)
  groupFrom start
    (decorations ++ members ++ base.value ++ quantified ++ base.types ++
      contracts)

end Script

end SourceMark
