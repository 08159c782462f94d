import SourceMark.Script.Functions
import SourceMark.Script.Operations

/-!
# Lists in parentheses and arrow functions

Whether a list in parentheses holds values or parameters is known only behind
it.  Its items are read as values as long as possible, and every item keeps what
is left of it as a parameter.
-/

namespace SourceMark

namespace Script

open Reading

/-! ## Items -/

/-- An item of a list in parentheses. -/
structure ListItem where
  entry : Entry
  /-- Whether the item can only be a parameter. -/
  isParameter : Bool
deriving Repr

namespace ListItem

/-- An item that is a value. -/
def ofTerm (isSpread : Bool) (term : Term) : ListItem where
  entry := {
    kind := if isSpread then .spread else .single
    plain := [term.node]
    assigned := term.assigned
    bound := term.bound }
  isParameter := false

/-- An item that is a parameter. -/
def ofParameter (isSpread : Bool) (parts : List Node) : ListItem where
  entry := {
    kind := if isSpread then .spread else .single
    plain := []
    assigned := none
    bound := some parts }
  isParameter := true

/-- The items as the parameters of a function. -/
def parameterParts (items : List ListItem) : Option (List Node) :=
  Entry.listParts Entry.bound (items.map ListItem.entry)

end ListItem

/-- An arrow function with these parts that starts at an offset. -/
def arrowTerm (start : Nat) (parts : List Node) : Reading Term := do
  return .dropped (.arrow { start, stop := ← stopOffset } parts) .arrow

/-- The value of an item that starts with a name or an ellipsis and a name.  A
question mark behind it may belong to a parameter. -/
def namedItemValue (grammar : Grammar) (start : Nat) (isSpread : Bool) :
    Reading Term := do
  let value ← withIn (operation grammar)
  if isSpread then
    return value
  else
    withAssignment grammar start value

/-- Whether the question mark that comes next marks a parameter that may be left
out. -/
def atOptionalParameter : Reading Bool := do
  match (← peekSecond).token with
  | .mark text =>
      return (← atMark "?") && [",", ":", ")", "="].contains text
  | _ => return false

/-- An item behind its value, with types. -/
def typedItemRest (grammar : Grammar) (start : Nat) (isSpread : Bool)
    (value : Term) : Reading ListItem := do
  let isOptional ← atOptionalParameter
  if isOptional then
    passAny
    unless value.isName do
      fail
  let value ← do
    if !isOptional && !isSpread && (← acceptMark "?") then
      let others ← alternatives grammar
      pure (.dropped (← groupFrom start (value.node :: others)) .other)
    else
      pure value
  if isOptional || (← atMark ":") then
    match value.bound with
    | none => fail
    | some parts =>
        let type ← typeBehindColon grammar
        let default ← do
          if ← acceptMark "=" then
            pure [(← grammar.assignment).node]
          else
            pure []
        return .ofParameter isSpread (parts ++ type ++ default)
  else
    return .ofTerm isSpread value

/-- The item that comes next. -/
def listItem (grammar : Grammar) : Reading ListItem := do
  let start ← startOffset
  withReader (fun context => { context with arrowStart := some start }) do
    let _ ← acceptParameterModifier
    let namesSecond := namesValue (← peekSecond).token
    let isNamed := (← typed) &&
      ((← atValueName) || ((← atMark "...") && namesSecond))
    let isSpread ← acceptMark "..."
    let value ← do
      if isNamed then
        namedItemValue grammar start isSpread
      else
        withIn grammar.assignment
    if ← typed then
      typedItemRest grammar start isSpread value
    else
      return .ofTerm isSpread value

/-- The item that comes next, and the arrow function whose arrow stands on a
line behind it. -/
def listItems (grammar : Grammar) : Reading (List ListItem) := do
  let start ← startOffset
  let item ← listItem grammar
  let isName :=
    match item.entry.plain with
    | [.name _ _] => true
    | _ => false
  if isName && (← acceptMark "=>") then
    let body ← arrowBody grammar false
    return [item, .ofTerm false (← arrowTerm start body.parts)]
  else
    return [item]

/-! ## Arrow functions -/

/-- An arrow function behind its parameters, from the arrow on. -/
def arrowRest (grammar : Grammar) (start : Nat) (isAsync : Bool)
    (items : List ListItem) (result : List Node) :
    Reading (Term × ArrowBody) := do
  expectMark "=>"
  match ListItem.parameterParts items with
  | none => fail
  | some bound =>
      let body ← arrowBody grammar isAsync
      return (← arrowTerm start (bound ++ body.parts ++ result), body)

/-- An arrow function with a return type between the marks of a choice.  Its
colon may be that of the choice, which must then still follow. -/
def chosenArrow (grammar : Grammar) (start : Nat) (isAsync : Bool)
    (items : List ListItem) : Reading Term := do
  expectMark ":"
  let result ← returnType grammar
  let (term, _) ← arrowRest grammar start isAsync items result
  if (← read).awaitsColon && !(← atMark ":") then
    fail
  return term

/-- A return type with an arrow behind it, which is not passed. -/
def arrowResult (grammar : Grammar) : Reading (List Node) := do
  expectMark ":"
  let result ← returnType grammar
  unless ← atMark "=>" do
    fail
  return result

/-- An arrow function, where one may start and its arrow is on the same line.
An operator behind a body in braces makes the function its operand. -/
def listArrow (grammar : Grammar) (start : Nat) (isAsync : Bool)
    (items : List ListItem) (result : List Node) : Reading Term := do
  if (← peek).afterLineEnd || (← read).arrowStart ≠ some start then
    fail
  let (term, body) ← arrowRest grammar start isAsync items result
  match (← peek).token with
  | .mark text =>
      if body.isBlock && joiningMarks.contains text then
        operationFrom grammar start term
      else
        return term
  | _ => return term

/-- The value of a list that is no list of parameters: arguments of the function
`async`, or values in parentheses. -/
def listValue (start : Nat) (isAsync : Bool) (items : List ListItem) :
    Reading Term := do
  let entries := items.map ListItem.entry
  let node ← groupFrom start (entries.flatMap Entry.plain)
  if isAsync then
    return .kept node .other
  if entries.isEmpty || entries.any fun entry => entry.kind = .spread then
    fail
  return .kept node .place

/-- A list in parentheses, behind the word `async` or not. -/
def parenthesized (grammar : Grammar) (start : Nat) (isAsync : Bool) :
    Reading Term := do
  expectMark "("
  let items := (← enclosed (separated ")" (listItems grammar))).flatten
  let context ← read
  if (← typed) && context.inChoice && (← atMark ":") then
    if let some term ← attempt (chosenArrow grammar start isAsync items) then
      return term
  let result ← do
    if (← typed) && !context.awaitsColon && (← atMark ":") then
      attempt (arrowResult grammar)
    else
      pure none
  if items.any ListItem.isParameter || result.isSome || (← atMark "=>") then
    listArrow grammar start isAsync items (result.getD [])
  else
    listValue start isAsync items

/-- An arrow function with the name of its only parameter passed. -/
def nameArrow (grammar : Grammar) (start : Nat) (isAsync : Bool) :
    Reading Term := do
  expectMark "=>"
  let body ← arrowBody grammar isAsync
  arrowTerm start body.parts

/-- An asynchronous arrow function with type parameters. -/
def genericAsyncArrow (grammar : Grammar) : Reading Term := do
  let start ← startOffset
  expectWord "async"
  let quantified ← typeParameters grammar
  expectMark "("
  let bound ← parameters grammar
  let result ← optionalReturnType grammar
  expectMark "=>"
  let body ← arrowBody grammar true
  let bindings := bound.flatMap fun parameter => parameter.binding.parts
  arrowTerm start (bindings ++ body.parts ++ quantified ++ result)

end Script

end SourceMark
