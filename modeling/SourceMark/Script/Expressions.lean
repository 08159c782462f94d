import SourceMark.Script.Elements
import SourceMark.Script.Values

/-!
# Expressions

Operands with the operators in front of and behind them, choices, assignments
and lists of expressions.
-/

namespace SourceMark

namespace Script

open Reading

/-!
## Chains

Values with the accesses, calls and templates behind them.  A class of which an
object is made is a chain without calls, because the first list in parentheses
belongs to the object.
-/

/-- The object that a class extends.  Outside classes and records only its
constructor can be called, unless there are types. -/
def parentChain (grammar : Grammar) (steps : Steps) : Reading Term := do
  let start ← startOffset
  expectWord "super"
  let node := Node.group { start, stop := ← stopOffset } []
  let mayAccess := (← typed) || (← read).allowsSuper
  let first ←
    match (← peek).token with
    | .mark "." =>
        passAny
        match (← peek).token with
        | .word _ =>
            if mayAccess then propertyOf grammar start false node else fail
        | _ => fail
    | .mark "[" =>
        if mayAccess then indexed grammar start false node else fail
    | .mark "(" =>
        if steps.calls then called grammar start false node [] else fail
    | _ => fail
  chained grammar steps start first

/-- The words behind the dot of an import that loads a module at another time. -/
def importPhases : List String := ["defer", "source"]

/-- A module that is loaded, or what is known about this one. -/
def importChain (grammar : Grammar) (steps : Steps) : Reading Term := do
  let start ← startOffset
  expectWord "import"
  let load : Reading Term := do
    unless steps.calls do
      fail
    let arguments ← importArguments grammar
    return .kept (← groupFrom start arguments) .other
  let first ← do
    if ← acceptMark "." then
      if ← acceptWord "meta" then
        leaf start
      else
        unless importPhases.contains (← anyWord) do
          fail
        load
    else
      load
  chained grammar steps start first

/-- The type arguments of a call, where a call with any comes next. -/
def callTypes? (grammar : Grammar) : Reading (Option (List Node)) := do
  let types : Reading (List Node) := do
    let types ← typeArguments grammar
    unless ← atMark "(" do
      fail
    return types
  if (← typed) && (← atOpenAngle) then
    attempt types
  else
    return none

/-- A new object, whose arguments may be left out. -/
def newObject (grammar : Grammar) (start : Nat) : Reading Term := do
  expectWord "new"
  if ← acceptMark "." then
    expectWord "target"
    return ← chained grammar .withoutCalls start (← leaf start)
  let callee ← grammar.callee
  if callee.form = .arrow then
    return callee
  if callee.form = .optional then
    fail
  let types := (← callTypes? grammar).getD []
  if ← atMark "(" then
    let made ← called grammar start false callee.node types
    chained grammar .withoutCalls start made
  else
    return .kept (← groupFrom start (callee.node :: types)) .other

/-- A value with the accesses behind it, but no calls. -/
def calleeRule (grammar : Grammar) : Reading Term := do
  let start ← startOffset
  if ← atWord "new" then
    newObject grammar start
  else if ← atWord "super" then
    parentChain grammar .withoutCalls
  else if ← atWord "import" then
    importChain grammar .withoutCalls
  else
    let head ← value grammar
    if head.form = .arrow then
      return head
    chained grammar .withoutCalls start
      (← withTypeArguments grammar start head)

/-- A value with the accesses and calls behind it. -/
def chainRule (grammar : Grammar) : Reading Term := do
  let start ← startOffset
  if (← marked) && (← atMark "<") then
    return .dropped (← grammar.markup) .other
  if ← atWord "super" then
    return ← parentChain grammar .all
  if ← atWord "import" then
    return ← importChain grammar .all
  let callee ← calleeRule grammar
  if callee.form = .arrow then
    return callee
  let types ← callTypes? grammar
  if types.isSome || (← atMark "(") then
    let isOptional := callee.form == .optional
    let call ← called grammar start isOptional callee.node (types.getD [])
    chained grammar .all start call
  else
    return callee

/-! ## Operands -/

/-- A value that is taken to have a type in front of it. -/
def assertedOperand (grammar : Grammar) (start : Nat) : Reading Term := do
  expectMark "<"
  if ← acceptWord "const" then
    expectCloseAngle
    let inner ← grammar.operand
    return .dropped (← groupFrom start [inner.node]) .other
  else
    let type ← grammar.type
    expectCloseAngle
    let inner ← grammar.operand
    return .dropped (← groupFrom start (inner.node :: type)) .place

/-- The marks of an operator in front of its operand. -/
def prefixMarks : List String := ["+", "-", "~", "!"]

/-- The words that are operators in front of their operand. -/
def prefixWords : List String := ["delete", "void", "typeof"]

/-- Whether an operator comes next that stands in front of its operand. -/
def atPrefix : Reading Bool := do
  match (← peek).token with
  | .mark text => return prefixMarks.contains text
  | .word text => return prefixWords.contains text
  | _ => return false

/-- An operator with its operand, which may be missing. -/
def prefixedOperand (grammar : Grammar) (start : Nat) : Reading Term := do
  passAny
  let inner ← recover grammar.operand
  let parts := (inner.map Term.node).toList
  return .dropped (← groupFrom start parts) .prefixed

/-- A value that is waited for.  Outside asynchronous functions, the word may
stand alone. -/
def awaited (grammar : Grammar) (start : Nat) : Reading Term := do
  expectWord "await"
  if ← atMark "*" then
    fail
  let endsHere := (← atAnyMark [")", "]", ","]) || (← atStatementEnd)
  if !(← read).inAsync && endsHere then
    leaf start
  else
    let inner ← grammar.operand
    return .dropped (← groupFrom start [inner.node]) .prefixed

/-- A value with the operator that counts it up or down behind it. -/
def countedChain (grammar : Grammar) (start : Nat) : Reading Term := do
  let inner ← chainRule grammar
  let lexeme ← peek
  if inner.form != .arrow && !lexeme.afterLineEnd &&
      (lexeme.token = .mark "++" || lexeme.token = .mark "--") then
    pass lexeme
    return .dropped (← groupFrom start [inner.node]) .other
  else
    return inner

/-- An operand with the operators in front of and behind it. -/
def operandRule (grammar : Grammar) : Reading Term := do
  let start ← startOffset
  if (← typed) && !(← marked) && (← atMark "<") then
    assertedOperand grammar start
  else if ← atAnyMark ["++", "--"] then
    passAny
    let inner ← grammar.operand
    return .dropped (← groupFrom start [inner.node]) .other
  else if ← atPrefix then
    prefixedOperand grammar start
  else if ← atWord "await" then
    awaited grammar start
  else
    countedChain grammar start

/-! ## Choices and assignments -/

/-- An operation, or a choice between two expressions. -/
def choice (grammar : Grammar) : Reading Term := do
  let start ← startOffset
  let test ← operation grammar
  if test.form != .arrow && (← acceptMark "?") then
    let others ← alternatives grammar
    return .dropped (← groupFrom start (test.node :: others)) .other
  else
    return test

/-- The marks that the value of a `yield` may start with. -/
def yieldedMarks : List String := "*" :: "@" :: startingMarks

/-- Whether the value of a `yield` could start at a token. -/
def startsYielded : Token → Bool
  | .word text => text != "in" && text != "instanceof"
  | .number | .text => true
  | .mark text => yieldedMarks.contains text
  | _ => false

/-- The operator that gives a value out of a generator, which it cannot do from
its parameters. -/
def yielded (grammar : Grammar) : Reading Term := do
  let start ← startOffset
  expectWord "yield"
  let context ← read
  if context.inParameters && !context.inFunction then
    fail
  if (← atStatementEnd) || !startsYielded (← peek).token then
    leaf start
  else
    let _ ← acceptMark "*"
    let inner ← grammar.assignment
    return .dropped (← groupFrom start [inner.node]) .other

/-- Whether an arrow function could start at a token. -/
def startsArrow : Token → Bool
  | .word _ => true
  | .mark text => text = "("
  | _ => false

/-- One expression without type parameters in front of it. -/
def plainAssignment (grammar : Grammar) : Reading Term := do
  let lexeme ← peek
  let start := lexeme.start
  if (← read).inGenerator && (← atWord "yield") then
    return ← yielded grammar
  let arrowStart := if startsArrow lexeme.token then some start else none
  withReader (fun context => { context with arrowStart }) do
    let left ← choice grammar
    if left.form = .arrow then
      return left
    else
      withAssignment grammar start left

/-- An arrow function with type parameters. -/
def genericArrow (grammar : Grammar) : Reading Term :=
  awaitingNoColon do
    let start ← startOffset
    let quantified ← typeParameters grammar
    let inner ← plainAssignment grammar
    match inner.form, inner.node with
    | .arrow, .arrow _ parts => arrowTerm start (parts ++ quantified)
    | _, _ => fail

/-- One expression, as between commas.  What looks like an opening tag may be
the type parameters of an arrow function; the tag comes first. -/
def assignmentRule (grammar : Grammar) : Reading Term := do
  let mayBeGeneric :=
    match (← peekSecond).token with
    | .word _ => true
    | _ => false
  if (← typed) && (← atMark "<") && mayBeGeneric then
    if ← marked then
      either (plainAssignment grammar) (genericArrow grammar)
    else
      match ← attempt (genericArrow grammar) with
      | some arrow => return arrow
      | none => plainAssignment grammar
  else
    plainAssignment grammar

/-- Expressions separated by commas. -/
def expressionRule (grammar : Grammar) : Reading Term := do
  let start ← startOffset
  let first ← grammar.assignment
  let others ← many do
    if ← acceptMark "," then
      return some (← grammar.assignment).node
    else
      return none
  if others.isEmpty then
    return first
  else
    return .dropped (← groupFrom start (first.node :: others)) .other

end Script

end SourceMark
