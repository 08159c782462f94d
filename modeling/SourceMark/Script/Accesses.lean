import SourceMark.Script.Signatures

/-!
# Accesses, calls and tags

What may follow a value: the properties that are taken from it, the arguments
that it is called with, and the templates that it is the tag of.
-/

namespace SourceMark

namespace Script

open Reading

/-! ## Arguments and templates -/

/-- An expression, or all items of a list where an ellipsis stands. -/
def argument (grammar : Grammar) : Reading Node := do
  let _ ← acceptMark "..."
  return (← withIn grammar.assignment).node

/-- The arguments of a call, from the opening parenthesis on. -/
def callArguments (grammar : Grammar) : Reading (List Node) := do
  expectMark "("
  awaitingNoColon (separated ")" (argument grammar))

/-- The arguments that a module is loaded with.  Without types, no comma may
follow the last of them. -/
def importArguments (grammar : Grammar) : Reading (List Node) := do
  expectMark "("
  awaitingNoColon <| many do
    if ← acceptMark ")" then
      return none
    let result ← argument grammar
    unless ← atMark ")" do
      expectMark ","
      if (← atMark ")") && !(← typed) then
        fail
    return some result

/-- The values in a template, behind its opening mark. -/
def templateParts (grammar : Grammar) (isTagged : Bool) : Reading (List Node) :=
  substitutions isTagged do
    return [(← enclosed grammar.expression).node]

/-- A template with a tag. -/
def taggedTemplate (grammar : Grammar) (start : Nat) (tag : Node)
    (types : List Node) : Reading Term := do
  expectMark "\x60"
  let parts ← templateParts grammar true
  let extent : Extent := { start, stop := ← stopOffset }
  return .dropped (.taggedTemplate tag extent (types ++ parts)) .other

/-! ## Type arguments of values -/

/-- The operators that join two operands. -/
def joiningMarks : List String :=
  ["+", "-", "*", "/", "%", "**", "<<", ">>", ">>>", "<", ">", "<=", ">=",
    "==", "!=", "===", "!==", "&", "|", "^", "&&", "||", "??"]

/-- The marks that an expression may start with. -/
def startingMarks : List String :=
  ["(", "[", "\x7b", "\x60", "/", "/=", "<", "!", "~", "+", "-", "++", "--"]

/-- The keywords that an expression may start with. -/
def startingWords : List String :=
  ["this", "super", "null", "true", "false", "function", "class", "new",
    "import", "delete", "typeof", "void"]

/-- Whether an expression could start at a token. -/
def startsExpression : Token → Bool
  | .word text => !keywords.contains text || startingWords.contains text
  | .privateWord _ | .number | .text => true
  | .mark text => startingMarks.contains text
  | _ => false

/-- Whether a value may end behind type arguments.  In front of a parenthesis or
a template, the arguments belong to the call or the tag. -/
def atTypeArgumentsEnd : Reading Bool := do
  let lexeme ← peek
  match lexeme.token with
  | .mark text =>
      if ["<", ">", ">>", ">=", "+", "-", "(", "\x60"].contains text then
        return false
      else
        return lexeme.afterLineEnd || joiningMarks.contains text ||
          !startsExpression lexeme.token
  | token => return lexeme.afterLineEnd || !startsExpression token

/-- A value with type arguments that nothing uses. -/
def instantiated (start : Nat) (node : Node) (types : List Node) :
    Reading Term := do
  return .dropped (← groupFrom start (node :: types)) .place

/-- A value, with the type arguments behind it where the value may end behind
them. -/
def withTypeArguments (grammar : Grammar) (start : Nat) (term : Term) :
    Reading Term := do
  let arguments? : Reading (Option (List Node)) := do
    let types ← typeArguments grammar
    if ← atTypeArgumentsEnd then
      return some types
    else
      return none
  if (← typed) && (← atOpenAngle) then
    match ← attempt? arguments? with
    | some types => instantiated start term.node types
    | none => return term
  else
    return term

/-! ## Single steps -/

/-- Which steps may follow a value. -/
structure Steps where
  calls : Bool
  /-- Whether brackets may hold the property. -/
  brackets : Bool
deriving Repr, DecidableEq

/-- All steps. -/
def Steps.all : Steps := { calls := true, brackets := true }

/-- All steps but calls. -/
def Steps.withoutCalls : Steps := { calls := false, brackets := true }

/-- A value that was accessed or called, inside a chain with an optional access
or not. -/
def accessed (isOptional : Bool) (form : Form) (node : Node) : Term :=
  if isOptional then .dropped node .optional else .kept node form

/-- A call of a value. -/
def called (grammar : Grammar) (start : Nat) (isOptional : Bool) (callee : Node)
    (types : List Node) : Reading Term := do
  let arguments ← callArguments grammar
  return accessed isOptional .other
    (← groupFrom start (callee :: arguments ++ types))

/-- The property in brackets of a value. -/
def indexed (grammar : Grammar) (start : Nat) (isOptional : Bool)
    (object : Node) : Reading Term := do
  expectMark "["
  let index ← enclosed grammar.expression
  expectMark "]"
  let node ← groupFrom start [object, index.node]
  withTypeArguments grammar start (accessed isOptional .place node)

/-- The property of a value that is named next.  Only names that are not private
and no part of an optional access are of interest. -/
def propertyOf (grammar : Grammar) (start : Nat) (isOptional : Bool)
    (object : Node) : Reading Term := do
  let lexeme ← peek
  match lexeme.token with
  | .word text =>
      pass lexeme
      let extent : Extent := { start, stop := ← stopOffset }
      let node :=
        if isOptional then Node.group extent [object]
        else .member object text extent
      withTypeArguments grammar start (accessed isOptional .place node)
  | .privateWord _ =>
      pass lexeme
      let node ← groupFrom start [object]
      withTypeArguments grammar start (accessed isOptional .place node)
  | _ => fail

/-- What follows type arguments that belong to a call or a tag. -/
def typedStep? (grammar : Grammar) (steps : Steps) (start : Nat) (term : Term) :
    Reading (Option Term) := do
  let types ← typeArguments grammar
  if steps.calls && (← atMark "(") then
    some <$> called grammar start (term.form == .optional) term.node types
  else if ← atMark "\x60" then
    some <$> taggedTemplate grammar start term.node types
  else if (← atMark "=") || (← atWord "as") || (← atWord "satisfies") then
    some <$> instantiated start term.node types
  else
    return none

/-- What follows the mark of an optional access. -/
def optionalStep (grammar : Grammar) (start : Nat) (term : Term) :
    Reading Term := do
  if (← typed) && (← atOpenAngle) then
    let types ← typeArguments grammar
    called grammar start true term.node types
  else if ← atMark "(" then
    called grammar start true term.node []
  else if ← atMark "[" then
    indexed grammar start true term.node
  else
    propertyOf grammar start true term.node

/-- One more access, call or template behind a value. -/
def step? (grammar : Grammar) (steps : Steps) (start : Nat) (term : Term) :
    Reading (Option Term) := do
  let lexeme ← peek
  let isOptional := term.form == .optional
  if ← typed then
    if lexeme.token = .mark "!" && !lexeme.afterLineEnd then
      pass lexeme
      return some (.dropped (← groupFrom start [term.node]) .place)
    if ← atOpenAngle then
      return ← attempt? (typedStep? grammar steps start term)
  match lexeme.token with
  | .mark "?." =>
      pass lexeme
      some <$> optionalStep grammar start term
  | .mark "[" =>
      if steps.brackets then
        some <$> indexed grammar start isOptional term.node
      else
        return none
  | .mark "(" =>
      if steps.calls then
        some <$> called grammar start isOptional term.node []
      else
        return none
  | .mark "." =>
      pass lexeme
      some <$> propertyOf grammar start isOptional term.node
  | .mark "\x60" => some <$> taggedTemplate grammar start term.node []
  | _ => return none

/-- A value with all steps behind it. -/
def chained (grammar : Grammar) (steps : Steps) (start : Nat) (term : Term) :
    Reading Term :=
  grow (step? grammar steps start) term

/-! ## Names in chains -/

/-- The name of a variable as a value. -/
def nameTerm (text : String) (lexeme : Lexeme) : Term :=
  .kept (.name text { start := lexeme.start, stop := lexeme.behind.offset })
    .place

/-- The decorator that comes next: a chain of names with calls, or any
expression in parentheses. -/
def decoratorRule (grammar : Grammar) : Reading Node := do
  expectMark "@"
  let lexeme ← peek
  let start := lexeme.start
  if ← acceptMark "(" then
    let inner ← grammar.expression
    expectMark ")"
    return inner.node
  let name ← bindingName
  let chain ← chained grammar { calls := true, brackets := false } start
    (nameTerm name lexeme)
  if (← typed) && (← atOpenAngle) then
    let types ← typeArguments grammar
    return (← called grammar start false chain.node types).node
  else if ← atMark "(" then
    return (← called grammar start false chain.node []).node
  else
    return chain.node

/-- One of the types that a class or an interface builds on: a chain of names
with type arguments. -/
def ancestor (grammar : Grammar) : Reading (List Node) := do
  let lexeme ← peek
  let name ← anyWord
  let chain ← chained grammar { calls := false, brackets := false } lexeme.start
    (nameTerm name lexeme)
  return chain.node :: (← optionalTypeArguments grammar)

/-- The types that a class or an interface builds on, up to a brace or another
list. -/
def ancestors (grammar : Grammar) : Reading (List Node) := do
  let atEnd : Reading Bool := do
    return (← atMark "\x7b") || (← atWord "implements") || (← atWord "extends")
  let found ← many do
    if ← atEnd then
      return none
    let parts ← ancestor grammar
    unless ← atEnd do
      expectMark ","
    return some parts
  return found.flatten

end Script

end SourceMark
