import SourceMark.Script.Grammar

/-!
# What declarations and functions bind

Targets take a value apart or give it a name.  Parameters are targets with
decorators, types and default values around them.
-/

namespace SourceMark

namespace Script

open Reading

/-! ## Modifiers -/

/-- Whether a token may follow a word that modifies a declaration, parameter or
member. -/
def followsModifier : Token → Bool
  | .word _ | .privateWord _ | .number | .text => true
  | .mark text => ["[", "\x7b", "*", "..."].contains text
  | _ => false

/-- The modifier that comes next, if it is one of these words and what it
modifies follows on its line. -/
def modifier? (words : List String) : Reading (Option String) := do
  let lexeme ← peek
  match lexeme.token with
  | .word text =>
      let next := lexeme.behind.lexeme
      if (← typed) && words.contains text && !next.afterLineEnd &&
          followsModifier next.token then
        pass lexeme
        return some text
      else
        return none
  | _ => return none

/-- Pass a modifier that comes next. -/
def acceptModifier (words : List String) : Reading Bool := do
  return (← modifier? words).isSome

/-- The words that modify a parameter. -/
def parameterWords : List String :=
  ["public", "protected", "private", "readonly"]

/-- The words that tell from where a member can be reached. -/
def accessWords : List String :=
  ["public", "protected", "private", "in", "out"]

/-- Pass the modifier of a parameter or a field. -/
def acceptParameterModifier : Reading Bool := do
  match (← peekSecond).token with
  | .word _ | .mark "\x7b" | .mark "[" => acceptModifier parameterWords
  | _ => return false

/-! ## Keys -/

/-- The key of a field or member. -/
structure Key where
  /-- The word, when the key is one. -/
  word : Option String
  /-- Whether the key is that of the function that makes an object. -/
  isConstructor : Bool
  /-- The values in the key. -/
  parts : List Node
deriving Repr

/-- The spellings of the text that is the key of a constructor. -/
def constructorTexts : List String := ["\"constructor\"", "\x27constructor\x27"]

/-- A key in brackets.  With types, it may be a list of values. -/
def bracketedKey (grammar : Grammar) : Reading Key := do
  expectMark "["
  let first ← withIn grammar.assignment
  let others ← many do
    if (← typed) && (← acceptMark ",") then
      return some (← withIn grammar.assignment).node
    else
      return none
  expectMark "]"
  return { word := none, isConstructor := false, parts := first.node :: others }

/-- The key of a field: a word, a text, a number or a value in brackets. -/
def fieldKey (grammar : Grammar) : Reading Key := do
  let lexeme ← peek
  match lexeme.token with
  | .word text =>
      pass lexeme
      return {
        word := some text, isConstructor := text = "constructor", parts := [] }
  | .text =>
      pass lexeme
      let written := String.ofList (lexeme.place.upTo lexeme.behind)
      return {
        word := none, isConstructor := constructorTexts.contains written
        parts := [] }
  | .number =>
      pass lexeme
      return { word := none, isConstructor := false, parts := [] }
  | _ => bracketedKey grammar

/-- The key of a class member, which may be private. -/
def memberKey (grammar : Grammar) : Reading Key := do
  let lexeme ← peek
  match lexeme.token with
  | .privateWord _ =>
      pass lexeme
      return { word := none, isConstructor := false, parts := [] }
  | _ => fieldKey grammar

/-! ## Targets -/

/-- The default value of a target, when one is given. -/
def defaultValue? (grammar : Grammar) : Reading (Option Node) := do
  if ← acceptMark "=" then
    return some (← withIn grammar.assignment).node
  else
    return none

/-- A target with its default value. -/
def targetWithDefault (grammar : Grammar) : Reading (List Node) := do
  let target ← grammar.target
  return target.parts ++ (← defaultValue? grammar).toList

/-- Where a construct is only declared, a question mark may follow it. -/
def acceptDeclaredMark : Reading Unit := do
  if (← read).inDeclaration then
    let _ ← acceptMark "?"

/-- A list of targets, behind its opening bracket; elements may be left out. -/
def listTarget (grammar : Grammar) : Reading Target := do
  let elements ← many do
    if ← acceptMark "]" then
      return none
    if ← acceptMark "," then
      return some []
    let parts ← do
      if ← acceptMark "..." then
        pure (← grammar.target).parts
      else
        targetWithDefault grammar
    unless ← atMark "]" do
      expectMark ","
    return some parts
  acceptDeclaredMark
  return { parts := elements.flatten, name := none }

/-- Whether no further field follows. -/
def atLastField : Reading Bool := do
  let next := (← peekSecond).token
  return (← atMark "\x7d") || ((← atMark ",") && next = .mark "\x7d")

/-- One field of a record of targets.  What is left of a record gets a name. -/
def targetField (grammar : Grammar) : Reading (List Node) := do
  if ← acceptMark "..." then
    let rest ← grammar.target
    if rest.name.isNone && (← atLastField) then
      fail
    return rest.parts
  let key ← fieldKey grammar
  if ← acceptMark ":" then
    return key.parts ++ (← targetWithDefault grammar)
  if key.word.isNone then
    fail
  return (← defaultValue? grammar).toList

/-- A record of targets, behind its opening brace. -/
def recordTarget (grammar : Grammar) : Reading Target := do
  let fields ← awaitingNoColon (separated "\x7d" (targetField grammar))
  acceptDeclaredMark
  return { parts := fields.flatten, name := none }

/-- A name, or a list or record of targets. -/
def targetRule (grammar : Grammar) : Reading Target := do
  if ← acceptMark "[" then
    listTarget grammar
  else if ← acceptMark "\x7b" then
    recordTarget grammar
  else
    return { parts := [], name := some (← bindingName) }

/-! ## Parameters -/

/-- The type of a target or member, where one is given. -/
def typeBehindColon (grammar : Grammar) : Reading (List Node) := do
  if (← typed) && (← acceptMark ":") then
    grammar.type
  else
    return []

/-- A parameter without its decorators. -/
structure Binding where
  /-- The values in it. -/
  parts : List Node
  hasDefault : Bool
  /-- Whether it gives a name to its value, without taking it apart. -/
  isNamed : Bool
deriving Repr

/-- A parameter of a function. -/
structure Parameter where
  decorations : List Node
  binding : Binding
deriving Repr

namespace Parameter

/-- The values in a parameter. -/
def parts (parameter : Parameter) : List Node :=
  parameter.decorations ++ parameter.binding.parts

end Parameter

/-- The decorators in front of a class, a member or a parameter. -/
def decorators (grammar : Grammar) : Reading (List Node) :=
  many do
    if ← atMark "@" then
      return some (← grammar.decorator)
    else
      return none

/-- A parameter that takes one argument. -/
def singleBinding (grammar : Grammar) : Reading Binding := do
  let _ ← acceptParameterModifier
  let target ← grammar.target
  if ← typed then
    let _ ← acceptMark "?"
  let type ← typeBehindColon grammar
  let default ← do
    if ← acceptMark "=" then
      pure (some (← grammar.assignment).node)
    else
      pure none
  return {
    parts := target.parts ++ type ++ default.toList
    hasDefault := default.isSome
    isNamed := target.name.isSome }

/-- A parameter that takes all arguments that are left, behind its ellipsis. -/
def restBinding (grammar : Grammar) : Reading Binding := do
  let target ← grammar.target
  let default ← do
    if ← acceptMark "=" then
      pure [(← grammar.assignment).node]
    else
      pure []
  if ← typed then
    let _ ← acceptMark "?"
  let type ← typeBehindColon grammar
  return {
    parts := target.parts ++ default ++ type
    hasDefault := false
    isNamed := false }

/-- One parameter. -/
def parameter (grammar : Grammar) : Reading Parameter := do
  let decorations ← decorators grammar
  let binding ← do
    if ← acceptMark "..." then
      restBinding grammar
    else
      singleBinding grammar
  return { decorations, binding }

/-- The parameters of a function, behind the opening parenthesis. -/
def parameters (grammar : Grammar) : Reading (List Parameter) :=
  separated ")" (parameter grammar)

/-- One parameter of a constructor.  Modifiers make it a field of the object as
well, which then needs a name. -/
def constructorParameter (grammar : Grammar) : Reading Parameter := do
  let decorations ← decorators grammar
  if ← acceptMark "..." then
    let target ← grammar.target
    let type ← typeBehindColon grammar
    let binding : Binding := {
      parts := target.parts ++ type, hasDefault := false, isNamed := false }
    return { decorations, binding }
  let isAccessible ← acceptModifier accessWords
  let overrides ← acceptModifier ["override"]
  let isFixed ← acceptModifier ["readonly"]
  let binding ← singleBinding grammar
  if (isAccessible || overrides || isFixed) && !binding.isNamed &&
      !binding.hasDefault then
    fail
  return { decorations, binding }

end Script

end SourceMark
