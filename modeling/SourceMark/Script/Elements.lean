import SourceMark.Script.Signatures

/-!
# Elements of a script

An element is read from its opening angle bracket on.  Between its tags, blanks
and comment marks are text.
-/

namespace SourceMark

namespace Script

open Reading

/-- Whether this character comes next, behind blanks and comments. -/
def atCharacter (character : Char) : Reading Bool := do
  return (← peek).place.rest.head? = some character

/-- Pass this character, with the blanks and comments before it. -/
def acceptCharacter (character : Char) : Reading Bool := do
  if ← atCharacter character then
    moveTo ((← peek).place.skip 1)
    return true
  else
    return false

/-- Pass this character, with the blanks and comments before it. -/
def expectCharacter (character : Char) : Reading Unit := do
  unless ← acceptCharacter character do
    fail

/-- A name inside a tag. -/
def tagWord : Reading String := do
  match tagWord? (← peek).place with
  | some (word, behind) =>
      moveTo behind
      return word
  | none => fail

/-- The name of a tag. -/
structure TagName where
  /-- The parts of the name joined by dots. -/
  dotted : String
  /-- The parts with the marks between them, by which tags are matched. -/
  spelled : String
deriving Repr, DecidableEq

/-- The name of a tag: a word, words joined by dots, or a word behind a
namespace, which no dot may follow. -/
def tagName : Reading TagName := do
  let first ← tagWord
  if ← acceptCharacter ':' then
    let second ← tagWord
    if ← atCharacter '.' then
      throw .aborted
    return { dotted := first ++ "." ++ second
             spelled := first ++ ":" ++ second }
  let dotted ← grow
    (fun name => do
      if ← acceptCharacter '.' then
        return some (name ++ "." ++ (← tagWord))
      else
        return none)
    first
  return { dotted, spelled := dotted }

/-! ## Attributes -/

/-- One attribute: its name unless it has a namespace or is a spread, and the
values in it. -/
structure Attribute where
  name : Option String
  parts : List Node
deriving Repr

/-- An expression between braces, behind the opening one.  An ellipsis in front
of it changes nothing. -/
def bracedExpression (grammar : Grammar) : Reading Node := do
  let _ ← acceptMark "..."
  let inner ← withIn grammar.expression
  expectMark "\x7d"
  return inner.node

/-- Read an attribute value, which no choice surrounds. -/
def insideValue {α : Type} (reading : Reading α) : Reading α :=
  withReader
    (fun context => { context with inChoice := false, awaitsColon := false })
    reading

/-- The value of an attribute. -/
def attributeValue (grammar : Grammar) : Reading (List Node) :=
  insideValue do
    let next := (← peek).place
    match next.rest with
    | '{' :: _ =>
        moveTo (next.skip 1)
        return [← bracedExpression grammar]
    | '<' :: _ => return [← grammar.markup]
    | quote :: rest =>
        if quote = '"' ∨ quote = '\x27' then
          match closeAttribute? quote (next.offset + 1) rest with
          | some behind =>
              moveTo behind
              return []
          | none => fail
        else
          fail
    | [] => fail

/-- The attribute that comes next, unless the tag ends. -/
def tagAttribute? (grammar : Grammar) : Reading (Option Attribute) := do
  if (← atCharacter '/') || (← atCharacter '>') then
    return none
  if ← acceptCharacter '{' then
    expectMark "..."
    let spread ← grammar.assignment
    expectMark "\x7d"
    return some { name := none, parts := [spread.node] }
  let first ← tagWord
  let name ← do
    if ← acceptCharacter ':' then
      let _ ← tagWord
      pure none
    else
      pure (some first)
  if ← acceptCharacter '=' then
    return some { name, parts := ← attributeValue grammar }
  else
    return some { name, parts := [] }

/-! ## Children -/

/-- An expression among the children, behind the opening brace; it may be left
out. -/
def childExpression (grammar : Grammar) : Reading (List Node) := do
  if ← acceptMark "\x7d" then
    return []
  else
    return [← bracedExpression grammar]

/-- The next child, or nothing when the closing tag starts, of which the
opening bracket and the slash are passed. -/
def child? (grammar : Grammar) : Reading (Option (List Node)) := do
  let cursor := (← get).behind
  match cursor.rest with
  | '{' :: _ =>
      moveTo (cursor.skip 1)
      return some (← childExpression grammar)
  | '<' :: _ =>
      moveTo cursor
      let inside := (cursor.skip 1).lexeme.place
      if inside.rest.head? = some '/' then
        moveTo (inside.skip 1)
        return none
      -- a comment in the manner of markup is none here
      unless (← peek).place.offset = cursor.offset do
        fail
      return some [← grammar.markup]
  | [] => fail
  | _ =>
      moveTo (closeTagText cursor)
      return some []

/-- The children up to the closing tag. -/
def children (grammar : Grammar) : Reading (List Node) := do
  return (← many (child? grammar)).flatten

/-! ## Elements -/

/-- The type arguments of an element. -/
structure ElementTypes where
  parts : List Node
  /-- The offset behind them. -/
  stop : Nat
deriving Repr

/-- The type arguments behind the name of an element. -/
def elementTypes? (grammar : Grammar) : Reading (Option ElementTypes) := do
  let types : Reading ElementTypes := do
    let parts ← typeArguments grammar
    return { parts, stop := ← stopOffset }
  if (← typed) && (← atCharacter '<') then
    attempt types
  else
    return none

/-- A fragment or an element. -/
def markupRule (grammar : Grammar) : Reading Node := do
  let start ← startOffset
  expectCharacter '<'
  if ← acceptCharacter '>' then
    let parts ← children grammar
    expectCharacter '>'
    return ← groupFrom start parts
  let name ← tagName
  let nameStop ← stopOffset
  let types ← elementTypes? grammar
  let attributes ← many (tagAttribute? grammar)
  let isClosed ← acceptCharacter '/'
  expectCharacter '>'
  let opening : Opening := {
    name := name.dotted
    extent := { start, stop := ← stopOffset }
    nameStop
    typeArgumentsStop := types.map ElementTypes.stop
    attributes := attributes.filterMap Attribute.name }
  let outer := attributes.flatMap Attribute.parts ++
    (types.map ElementTypes.parts).getD []
  if isClosed then
    return .element opening outer
  let inside ← children grammar
  let closing ← tagName
  expectCharacter '>'
  if closing.spelled = name.spelled then
    return .element opening (outer ++ inside)
  else
    fail

end Script

end SourceMark
