import SourceMark.Script.Variables

/-!
# Declarations of types and namespaces

Declarations that only files with types contain.
-/

namespace SourceMark

namespace Script

open Reading

/-! ## Enumerations -/

/-- The name of a member of an enumeration.  A value in brackets names no
member. -/
def enumeratedName (grammar : Grammar) : Reading Unit := do
  let lexeme ← peek
  match lexeme.token with
  | .word _ | .text | .number => pass lexeme
  | _ =>
      expectMark "["
      let _ ← grammar.expression
      expectMark "]"

/-- One member of an enumeration with its value.  A token and what follows it may
stand where the comma is missing. -/
def enumerated (grammar : Grammar) : Reading (List Node) := do
  enumeratedName grammar
  if ← acceptMark "=" then
    let value ← grammar.assignment
    let _ ← acceptMark ","
    return [value.node]
  if !(← atMark "\x7d") && !(← acceptMark ",") then
    passAny
    passAny
  return []

/-- An enumeration, behind the word `enum`. -/
def enumerationRest (grammar : Grammar) : Reading (List Node) := do
  let _ ← anyWord
  expectMark "\x7b"
  let members ← many do
    if ← acceptMark "\x7d" then
      return none
    else
      return some (← enumerated grammar)
  return members.flatten

/-! ## Interfaces and names of types -/

/-- An interface, behind its first word.  A second list of bases is dropped. -/
def interfaceRest (grammar : Grammar) : Reading (List Node) := do
  let _ ← anyWord
  let quantified ← optionalTypeParameters grammar
  let bases ← do
    if ← acceptWord "extends" then
      ancestors grammar
    else
      pure []
  if ← atWord "extends" then
    let _ ← many do
      if (← atMark "\x7b") || (← peek).token = .finish then
        return none
      else
        passAny
        return some ()
  expectMark "\x7b"
  return quantified ++ bases ++ (← typeMembers grammar)

/-- The name of a type and the type itself, behind the word `type`. -/
def typeNameRest (grammar : Grammar) : Reading (List Node) := do
  let _ ← anyWord
  let quantified ← optionalTypeParameters grammar
  expectMark "="
  let type ← grammar.type
  endStatement
  return quantified ++ type

/-! ## Namespaces -/

/-- Items of a module between braces. -/
def itemBlock (grammar : Grammar) : Reading (List Node) := do
  expectMark "\x7b"
  withReader (fun context => { context with atTop := false }) <|
    many do
      if ← acceptMark "\x7d" then
        return none
      else
        return some (← grammar.item)

/-- A namespace, behind its first word. -/
def namespaceRest (grammar : Grammar) : Reading (List Node) := do
  let _ ← anyWord
  let _ ← many do
    if ← acceptMark "." then
      return some (← anyWord)
    else
      return none
  itemBlock grammar

/-- The items of another module or of the whole program, behind its name. -/
def foreignItems (grammar : Grammar) : Reading (List Node) := do
  if ← atMark "\x7b" then
    itemBlock grammar
  else
    endStatement
    return []

/-! ## Declarations behind their first word -/

/-- The words that start a declaration. -/
def declaringWords : List String :=
  ["abstract", "enum", "interface", "module", "namespace", "type"]

/-- What a word declares.  It need not declare anything, unless that is
certain. -/
def declaredBy? (grammar : Grammar) (word : String) (isCertain : Bool)
    (start : Nat) (decorations : List Node) : Reading (Option Node) := do
  let next ← peek
  let onLine := isCertain || !next.afterLineEnd
  let isNamed := isCertain || namesValue next.token
  let grouped (rest : Reading (List Node)) : Reading (Option Node) := do
    return some (← groupFrom start (← rest))
  match word with
  | "abstract" =>
      if isCertain || (onLine && next.token = .word "class") then
        return some (← classRest grammar start true decorations)
      else
        return none
  | "enum" => if isNamed then grouped (enumerationRest grammar) else return none
  | "interface" => if isNamed then grouped (interfaceRest grammar) else return none
  | "module" =>
      if onLine && next.token = .text then
        passAny
        grouped (foreignItems grammar)
      else if onLine && isNamed then
        grouped (namespaceRest grammar)
      else
        return none
  | "namespace" => if isNamed then grouped (namespaceRest grammar) else return none
  | "type" =>
      if onLine && isNamed then grouped (typeNameRest grammar) else return none
  | _ => return none

/-- The declaration that comes next and starts with a word for it. -/
def certainDeclaration? (grammar : Grammar) (start : Nat)
    (decorations : List Node) : Reading (Option Node) := do
  match (← peek).token with
  | .word text =>
      if declaringWords.contains text then
        passAny
        declaredBy? grammar text true start decorations
      else
        return none
  | _ => return none

/-- What is declared as something defined elsewhere, behind the word
`declare`. -/
def declaration? (grammar : Grammar) (start : Nat) (decorations : List Node) :
    Reading (Option Node) :=
  withReader (fun context => { context with inDeclaration := true }) do
    let next ← peekSecond
    match (← peek).token with
    | .word "function" =>
        return some (← function grammar .declaration start false decorations)
    | .word "class" => return some (← classRest grammar start true decorations)
    | .word "global" =>
        passAny
        return some (← groupFrom start (← foreignItems grammar))
    | .word text =>
        if text = "const" && next.token = .word "enum" then
          pass next
          return some (← groupFrom start (← enumerationRest grammar))
        match VariableKind.ofWord? text with
        | some kind =>
            return some (← groupFrom start (← variableStatement grammar kind))
        | none => certainDeclaration? grammar start decorations
    | _ => return none

/-- What a name declares that was read as an expression. -/
def declaredByName? (grammar : Grammar) (name : String) (start : Nat)
    (decorations : List Node) : Reading (Option Node) := do
  if name = "declare" then
    declaration? grammar start decorations
  else if name = "global" then
    if ← atMark "\x7b" then
      return some (← groupFrom start (← itemBlock grammar))
    else
      return none
  else if let some node ← declaredBy? grammar name false start decorations then
    return some node
  else if ["public", "static", "abstract"].contains name &&
      (← acceptWord "interface") then
    return some (← groupFrom start (← interfaceRest grammar))
  else
    return none

end Script

end SourceMark
