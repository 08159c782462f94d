import SourceMark.Script.Types

/-!
# Functions

The parts of a function are its parameters, its decorators, its body, its type
parameters and its return type, in this order.
-/

namespace SourceMark

namespace Script

open Reading

/-- Statements between braces. -/
def block (grammar : Grammar) : Reading (List Node) := do
  expectMark "\x7b"
  withReader (fun context => { context with allowsIn := true, atTop := false }) <|
    many do
      if ← acceptMark "\x7d" then
        return none
      else
        return some (← grammar.listed)

/-- How a function runs. -/
structure Manner where
  isAsync : Bool
  isGenerator : Bool
deriving Repr, DecidableEq

/-- A function that runs when it is called. -/
def Manner.plain : Manner := { isAsync := false, isGenerator := false }

/-- Read a part of a function. -/
def insideFunction {α : Type} (manner : Manner) (reading : Reading α) :
    Reading α :=
  withReader
    (fun context =>
      { context with
        inAsync := manner.isAsync, inGenerator := manner.isGenerator })
    reading

/-- Read the parameters of a function. -/
def insideParameters {α : Type} (reading : Reading α) : Reading α :=
  withReader
    (fun context => { context with inParameters := true, inFunction := false })
    reading

/-- Read the body of a function. -/
def insideBody {α : Type} (reading : Reading α) : Reading α :=
  withReader (fun context => { context with inFunction := true }) reading

/-- Read where the word `super` may name an object, or where it may not. -/
def withSuper {α : Type} (allowed : Bool) (reading : Reading α) : Reading α :=
  withReader (fun context => { context with allowsSuper := allowed }) reading

/-- What makes up a function. -/
structure FunctionParts where
  quantified : List Node
  parameters : List Parameter
  result : List Node
  /-- The statements, unless the function has no body. -/
  body : Option (List Node)
deriving Repr

namespace FunctionParts

/-- The parts of a function with these decorators. -/
def inOrder (parts : FunctionParts) (decorations : List Node) : List Node :=
  parts.parameters.flatMap Parameter.parts ++ decorations ++
    parts.body.getD [] ++ parts.quantified ++ parts.result

end FunctionParts

/-- The body of a function; with types, it may be left out. -/
def functionBody? (grammar : Grammar) : Reading (Option (List Node)) := do
  if (← typed) && !(← atMark "\x7b") && (← acceptStatementEnd) then
    return none
  else
    return some (← insideBody (block grammar))

/-- A function behind its name. -/
def functionParts (grammar : Grammar) (manner : Manner) :
    Reading FunctionParts :=
  insideFunction manner do
    let quantified ← optionalTypeParameters grammar
    expectMark "("
    let parameters ← insideParameters (parameters grammar)
    let result ← optionalReturnType grammar
    let body ← functionBody? grammar
    return { quantified, parameters, result, body }

/-- The name of a function, which only a declaration needs. -/
def functionName? (role : FunctionRole) : Reading (Option String) := do
  if role = .declaration then
    return some (← bindingName)
  else
    optionalName?

/-- A function from the word `function` on.  Inside an expression it needs a
body. -/
def function (grammar : Grammar) (role : FunctionRole) (start : Nat)
    (isAsync : Bool) (decorations : List Node) : Reading Node := do
  expectWord "function"
  let isGenerator ← acceptMark "*"
  let name ← functionName? role
  let parts ← awaitingNoColon <| withSuper false <|
    functionParts grammar { isAsync, isGenerator }
  if role = .expression && parts.body.isNone then
    fail
  return .function role name { start, stop := ← stopOffset }
    (parts.inOrder decorations)

/-- Whether an asynchronous function comes next. -/
def atAsyncFunction : Reading Bool := do
  let next ← peekSecond
  return (← atWord "async") && next.token = .word "function" &&
    !next.afterLineEnd

/-- An asynchronous function, from the word `async` on. -/
def asyncFunction (grammar : Grammar) (role : FunctionRole) (start : Nat)
    (decorations : List Node) : Reading Node := do
  expectWord "async"
  function grammar role start true decorations

/-- The body of an arrow function: statements between braces, or one
expression. -/
structure ArrowBody where
  parts : List Node
  isBlock : Bool
deriving Repr

/-- The body of an arrow function. -/
def arrowBody (grammar : Grammar) (isAsync : Bool) : Reading ArrowBody :=
  insideFunction { isAsync, isGenerator := false } <| insideBody do
    if ← atMark "\x7b" then
      return { parts := ← block grammar, isBlock := true }
    else
      return { parts := [(← grammar.assignment).node], isBlock := false }

end Script

end SourceMark
