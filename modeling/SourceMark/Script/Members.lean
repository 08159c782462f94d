import SourceMark.Script.Signatures

/-!
# Members of object types
-/

namespace SourceMark

namespace Script

open Reading

/-- Pass the end of a member. -/
def endMember : Reading Unit := do
  unless ← acceptMark "," do
    endStatement

/-- The name of a member: any word, a literal, or a value in brackets. -/
def memberName (grammar : Grammar) : Reading (List Node) := do
  let lexeme ← peek
  match lexeme.token with
  | .word _ | .privateWord _ =>
      pass lexeme
      return []
  | .text | .number => return [(← grammar.callee).node]
  | _ =>
      expectMark "["
      let key ← grammar.assignment
      expectMark "]"
      return [key.node]

/-- Whether a member comes next that describes all keys of a kind. -/
def atIndexMember : Reading Bool := do
  let name ← peekSecond
  let separator := name.behind.lexeme.token
  return (← atMark "[") && namesValue name.token &&
    (separator = .mark ":" || separator = .mark ",")

/-- A member that describes all keys of a kind. -/
def indexMember (grammar : Grammar) : Reading (List Node) := do
  expectMark "["
  passAny
  passAny
  let key ← grammar.type
  expectMark "]"
  let type ← typeBehindColon grammar
  endMember
  return key ++ type

/-- A member that is read or written by a function. -/
def accessorMember (grammar : Grammar) : Reading (List Node) := do
  if ← acceptWord "get" then
    let name ← memberName grammar
    expectMark "("
    expectMark ")"
    let type ← typeBehindColon grammar
    endMember
    return name ++ type
  else
    expectWord "set"
    let name ← memberName grammar
    match ← signatureParameters grammar with
    | [] => fail
    | written :: _ =>
        endMember
        return name ++ written.parts

/-- A field or a function.  A function cannot be kept from being assigned to. -/
def plainMember (grammar : Grammar) (isFixed : Bool) : Reading (List Node) := do
  let name ← memberName grammar
  let _ ← acceptMark "?"
  let rest ← do
    if (← atMark "(") || (← atMark "<") then
      if isFixed then
        fail
      signature grammar
    else
      typeBehindColon grammar
  endMember
  return name ++ rest

/-- One member of an object type. -/
def typeMember (grammar : Grammar) : Reading (List Node) := do
  let next := (← peekSecond).token
  if (← atMark "(") || (← atMark "<") then
    let called ← signature grammar
    endMember
    return called
  if (← atWord "new") && (next = .mark "(" || next = .mark "<") then
    passAny
    let made ← signature grammar
    endMember
    return made
  let isFixed ← acceptModifier ["readonly"]
  if ← atIndexMember then
    return ← indexMember grammar
  unless isFixed do
    if let some parts ← attempt (accessorMember grammar) then
      return parts
  plainMember grammar isFixed

/-- The members of an object type, behind the opening brace. -/
def typeMembers (grammar : Grammar) : Reading (List Node) := do
  let members ← many do
    if ← acceptMark "\x7d" then
      return none
    else
      return some (← typeMember grammar)
  return members.flatten

/-- Pass a sign that adds or removes a property of the members. -/
def acceptSign : Reading Bool :=
  acceptToken fun token => token = .mark "+" || token = .mark "-"

/-- Whether a type comes next that has a member for each of some keys. -/
def atMappedType : Reading Bool :=
  ahead do
    expectMark "\x7b"
    if ← acceptSign then
      atWord "readonly"
    else
      let _ ← acceptWord "readonly"
      expectMark "["
      unless ← atValueName do
        fail
      passAny
      atWord "in"

/-- A type that has a member for each of some keys. -/
def mappedType (grammar : Grammar) : Reading (List Node) := do
  expectMark "\x7b"
  if ← acceptSign then
    expectWord "readonly"
  else
    let _ ← acceptWord "readonly"
  expectMark "["
  let _ ← anyWord
  expectWord "in"
  let keys ← grammar.type
  let renamed ← do
    if ← acceptWord "as" then
      grammar.type
    else
      pure []
  expectMark "]"
  if ← acceptSign then
    expectMark "?"
  else
    let _ ← acceptMark "?"
  let type ← typeBehindColon grammar
  endStatement
  expectMark "\x7d"
  return keys ++ renamed ++ type

end Script

end SourceMark
