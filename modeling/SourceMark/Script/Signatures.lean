import SourceMark.Script.Bindings

/-!
# Signatures

What functions and types are applied to, and what functions give back.  All
rules give the values in the types that they pass: keys in brackets may hold
any expression.
-/

namespace SourceMark

namespace Script

open Reading

/-- Type arguments, from the opening angle bracket on. -/
def typeArguments (grammar : Grammar) : Reading (List Node) := do
  expectOpenAngle
  return (← separatedInAngles grammar.type).flatten

/-- Type arguments, where there are any. -/
def optionalTypeArguments (grammar : Grammar) : Reading (List Node) := do
  if (← typed) && (← atOpenAngle) then
    typeArguments grammar
  else
    return []

/-- Type arguments on the line of the name before them. -/
def typeArgumentsOnLine (grammar : Grammar) : Reading (List Node) := do
  if (← peek).afterLineEnd then
    return []
  else
    optionalTypeArguments grammar

/-- The words that modify a type parameter. -/
def typeParameterWords : List String :=
  ["public", "private", "protected", "readonly", "abstract", "const",
    "override", "in", "out"]

/-- One type parameter with its bound and its default. -/
def typeParameter (grammar : Grammar) : Reading (List Node) := do
  let _ ← many (modifier? typeParameterWords)
  let _ ← anyWord
  let bound ← do
    if ← acceptWord "extends" then
      grammar.type
    else
      pure []
  let default ← do
    if ← acceptMark "=" then
      grammar.type
    else
      pure []
  return bound ++ default

/-- Type parameters, from the opening angle bracket on. -/
def typeParameters (grammar : Grammar) : Reading (List Node) := do
  expectMark "<"
  return (← separatedInAngles (typeParameter grammar)).flatten

/-- Type parameters, where there are any. -/
def optionalTypeParameters (grammar : Grammar) : Reading (List Node) := do
  if (← typed) && (← atMark "<") then
    typeParameters grammar
  else
    return []

/-- What a function returns: a type, a test of an argument or the assertion that
an argument passes one. -/
def returnType (grammar : Grammar) : Reading (List Node) := do
  let asserts := (← atWord "asserts") && namesValue (← peekSecond).token
  if asserts then
    passAny
  let next ← peekSecond
  let tests := (← atValueName) && next.token = .word "is" && !next.afterLineEnd
  if tests then
    pass next
    grammar.type
  else if asserts then
    passAny
    return []
  else
    grammar.type

/-- The return type of a function, where one is given. -/
def optionalReturnType (grammar : Grammar) : Reading (List Node) := do
  if (← typed) && (← acceptMark ":") then
    returnType grammar
  else
    return []

/-- The parameters of a function that has no body; they have no defaults. -/
def signatureParameters (grammar : Grammar) : Reading (List Parameter) := do
  expectMark "("
  let found ← parameters grammar
  if found.any fun parameter => parameter.binding.hasDefault then
    fail
  return found

/-- The parameters and the return type of a function that has no body. -/
def signature (grammar : Grammar) : Reading (List Node) := do
  let quantified ← optionalTypeParameters grammar
  let bound ← signatureParameters grammar
  let result ← optionalReturnType grammar
  return quantified ++ bound.flatMap Parameter.parts ++ result

/-- Further names behind dots.  Nothing needs to follow the last dot. -/
def qualifiers (name : Reading String) : Reading Unit := do
  let _ ← many do
    if ← acceptMark "." then
      match (← peek).token with
      | .word _ | .privateWord _ =>
          let _ ← name
          return some ()
      | _ => return none
    else
      return none

/-- A name with further names behind dots, all of them any words. -/
def entityName : Reading Unit := do
  let _ ← anyWord
  qualifiers anyWord

/-- A name with further names behind dots, which are no words of the
language. -/
def plainEntityName : Reading Unit := do
  let _ ← anyWord
  qualifiers bindingName

end Script

end SourceMark
