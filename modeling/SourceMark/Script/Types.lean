import SourceMark.Script.Members

/-!
# Types

Types hold nothing that is marked but for the values in keys and options, so
their rules find where they end and collect these values.
-/

namespace SourceMark

namespace Script

open Reading

/-! ## Types of one word or bracket -/

/-- The types that the language names itself. -/
def knownTypes : List String :=
  ["any", "boolean", "bigint", "never", "number", "object", "string", "symbol",
    "unknown", "undefined", "void", "null", "intrinsic"]

/-- The keywords that start the name of a type. -/
def typeKeywords : List String := ["void", "null", "break"]

/-- A type that is known by name. -/
def namedType (grammar : Grammar) (word : String) : Reading (List Node) := do
  if keywords.contains word && !typeKeywords.contains word then
    fail
  if knownTypes.contains word && (← peekSecond).token != .mark "." then
    passAny
    return []
  let _ ← acceptParameterModifier
  entityName
  typeArgumentsOnLine grammar

/-- The options of an import. -/
def importOptions (grammar : Grammar) : Reading (List Node) := do
  expectMark "\x7b"
  expectWord "with"
  expectMark ":"
  let options ← grammar.literal
  let _ ← acceptMark ","
  expectMark "\x7d"
  return [options.node]

/-- The type that a module exports. -/
def importType (grammar : Grammar) : Reading (List Node) := do
  expectWord "import"
  expectMark "("
  passAny
  let options ← do
    if (← acceptMark ",") && (← atMark "\x7b") then
      importOptions grammar
    else
      pure []
  expectMark ")"
  if ← acceptMark "." then
    plainEntityName
  return options ++ (← optionalTypeArguments grammar)

/-- The type of a value that is named. -/
def queriedType (grammar : Grammar) : Reading (List Node) := do
  expectWord "typeof"
  let queried ← do
    if ← atWord "import" then
      importType grammar
    else
      entityName
      pure []
  return queried ++ (← typeArgumentsOnLine grammar)

/-- The type of the object itself, or a test of it. -/
def ownType (grammar : Grammar) : Reading (List Node) := do
  expectWord "this"
  let next ← peek
  if next.token = .word "is" && !next.afterLineEnd then
    pass next
    grammar.type
  else
    return []

/-- The assertion that the object itself passes a test. -/
def ownAssertion (grammar : Grammar) : Reading (List Node) := do
  expectWord "asserts"
  expectWord "this"
  if ← acceptWord "is" then
    grammar.type
  else
    return []

/-! ## Tuples -/

/-- Whether an element of a tuple has to be there. -/
inductive Presence where
  | required
  | optional
  /-- Any number of elements. -/
  | rest
deriving Repr, DecidableEq

/-- Whether an element that has to be there follows one that may be left out. -/
def hasLateElement : List Presence → Bool
  | [] => false
  | .optional :: presences => presences.contains .required
  | _ :: presences => hasLateElement presences

/-- Pass the label of an element of a tuple. -/
def elementLabel : Reading Unit := do
  let _ ← anyWord
  let _ ← acceptMark "?"
  expectMark ":"

/-- One element of a tuple type. -/
def tupleElement (grammar : Grammar) : Reading (List Node × Presence) := do
  let isRest ← acceptMark "..."
  let _ ← attempt elementLabel
  let type ← grammar.type
  if isRest then
    return (type, .rest)
  else if ← acceptMark "?" then
    return (type, .optional)
  else
    return (type, .required)

/-- A tuple type, behind its opening bracket. -/
def tupleType (grammar : Grammar) : Reading (List Node) := do
  let elements ← separated "]" (tupleElement grammar)
  if hasLateElement (elements.map Prod.snd) then
    fail
  return elements.flatMap Prod.fst

/-! ## Operators -/

/-- A type without operators around it. -/
def primaryType (grammar : Grammar) : Reading (List Node) := do
  let lexeme ← peek
  match lexeme.token with
  | .text | .number | .word "true" | .word "false" =>
      pass lexeme
      return []
  | .mark "-" =>
      pass lexeme
      unless ← acceptToken (· == .number) do
        fail
      return []
  | .mark "(" =>
      pass lexeme
      let inner ← grammar.type
      expectMark ")"
      return inner
  | .mark "[" =>
      pass lexeme
      tupleType grammar
  | .mark "\x7b" =>
      if ← atMappedType then
        mappedType grammar
      else
        pass lexeme
        typeMembers grammar
  | .mark "\x60" =>
      pass lexeme
      substitutions false grammar.type
  | .word "this" => ownType grammar
  | .word "import" => importType grammar
  | .word "typeof" => queriedType grammar
  | .word text =>
      if text = "asserts" && (← peekSecond).token = .word "this" then
        ownAssertion grammar
      else
        namedType grammar text
  | _ => fail

/-- A type with brackets behind it. -/
def indexedType (grammar : Grammar) : Reading (List Node) := do
  let head ← primaryType grammar
  let indices ← many do
    let lexeme ← peek
    if lexeme.token = .mark "[" && !lexeme.afterLineEnd then
      pass lexeme
      if ← acceptMark "]" then
        return some []
      let index ← grammar.type
      expectMark "]"
      return some index
    else
      return none
  return head ++ indices.flatten

/-- The bound of a type that is found by comparison.  Where a condition follows,
`extends` belongs to the condition. -/
def inferredBound (grammar : Grammar) : Reading (List Node) := do
  expectWord "extends"
  let bound ← withReader
    (fun context => { context with inComparison := true }) grammar.plainType
  if (← atMark "?") && !(← read).inComparison then
    fail
  return bound

/-- The words that stand in front of a type. -/
def typeOperators : List String := ["keyof", "unique", "readonly"]

/-- A type with the words in front of it. -/
def prefixedType (grammar : Grammar) : Reading (List Node) := do
  let _ ← many do
    match (← peek).token with
    | .word text =>
        if typeOperators.contains text then
          passAny
          return some ()
        else
          return none
    | _ => return none
  if ← acceptWord "infer" then
    let _ ← anyWord
    return (← attempt (inferredBound grammar)).getD []
  else
    indexedType grammar

/-- Types joined by a mark, which may also stand in front of the first. -/
def joinedTypes (mark : String) (item : Reading (List Node)) :
    Reading (List Node) := do
  let _ ← acceptMark mark
  let first ← item
  let others ← many do
    if ← acceptMark mark then
      return some (← item)
    else
      return none
  return first ++ others.flatten

/-- A union of types, each of them an intersection. -/
def unionType (grammar : Grammar) : Reading (List Node) :=
  joinedTypes "|" (joinedTypes "&" (prefixedType grammar))

/-! ## Functions and conditions -/

/-- Pass the first part of a parameter, whatever it is. -/
def passParameterStart (grammar : Grammar) : Reading Unit := do
  let _ ← acceptParameterModifier
  let lexeme ← peek
  match lexeme.token with
  | .word _ => pass lexeme
  | .mark "\x7b" | .mark "[" =>
      let _ ← grammar.target
  | _ => fail

/-- Whether a function type comes next. -/
def atFunctionType (grammar : Grammar) : Reading Bool := do
  if ← atMark "<" then
    return true
  ahead do
    expectMark "("
    if (← atMark ")") || (← atMark "...") then
      return true
    passParameterStart grammar
    if ← atAnyMark [":", ",", "?", "="] then
      return true
    expectMark ")"
    atMark "=>"

/-- A function type, from its type parameters on. -/
def functionType (grammar : Grammar) : Reading (List Node) := do
  let quantified ← optionalTypeParameters grammar
  let bound ← signatureParameters grammar
  expectMark "=>"
  let result ← returnType grammar
  return quantified ++ bound.flatMap Parameter.parts ++ result

/-- A function type, the type of a constructor, or a union. -/
def plainTypeRule (grammar : Grammar) : Reading (List Node) := do
  let next ← peekSecond
  if ← atFunctionType grammar then
    functionType grammar
  else if (← atWord "abstract") && next.token = .word "new" then
    pass next
    functionType grammar
  else if ← acceptWord "new" then
    functionType grammar
  else
    unionType grammar

/-- A type, perhaps chosen by a condition. -/
def typeRule (grammar : Grammar) : Reading (List Node) := do
  let inComparison (value : Bool) : Reading (List Node) → Reading (List Node) :=
    withReader fun context => { context with inComparison := value }
  let compared ← inComparison false (plainTypeRule grammar)
  let lexeme ← peek
  if lexeme.token = .word "extends" && !lexeme.afterLineEnd then
    pass lexeme
    let comparison ← inComparison true (plainTypeRule grammar)
    expectMark "?"
    let first ← grammar.type
    expectMark ":"
    let second ← grammar.type
    return compared ++ comparison ++ first ++ second
  else
    return compared

end Script

end SourceMark
