import SourceMark.Script.Accesses

/-!
# Operators between operands

Operators leave no trace in the tree: an operation is the group of its operands,
from left to right.  Which operator binds more tightly is of no interest, except
that an operand behind an operator cannot be raised to a power.
-/

namespace SourceMark

namespace Script

open Reading

/-- What was read of an operation. -/
structure Operation where
  term : Term
  /-- The form of the last operand. -/
  last : Form
  /-- Whether an operator joined two operands. -/
  isJoined : Bool
deriving Repr

/-- Whether an operator comes next that joins two operands. -/
def atJoiningOperator : Reading Bool := do
  match (← peek).token with
  | .mark text => return joiningMarks.contains text
  | .word "instanceof" => return true
  | .word "in" => return (← read).allowsIn
  | _ => return false

/-- One more operator with its operand. -/
def joinOperand (grammar : Grammar) (start : Nat) (operation : Operation) :
    Reading Operation := do
  if operation.last = .prefixed && (← atMark "**") then
    fail
  passAny
  let right ← grammar.operand
  let node ← groupFrom start [operation.term.node, right.node]
  return { term := .dropped node .other, last := right.form, isJoined := true }

/-- The type that a value is taken to have, behind the operator word. -/
def joinType (grammar : Grammar) (start : Nat) (word : String)
    (operation : Operation) : Reading Operation := do
  passAny
  let inner := operation.term.node
  let term ← do
    if word = "as" && (← acceptWord "const") then
      pure (.dropped (← groupFrom start [inner]) .other)
    else
      let type ← grammar.type
      let node ← groupFrom start (inner :: type)
      if operation.isJoined then
        pure (.dropped node .other)
      else if word = "as" then
        pure (.kept node .place)
      else
        pure (.dropped node .place)
  return { operation with term, last := .other }

/-- One more operator with its operand or its type. -/
def operationStep (grammar : Grammar) (start : Nat) (operation : Operation) :
    Reading (Option Operation) := do
  let lexeme ← peek
  if (← typed) && !lexeme.afterLineEnd then
    match lexeme.token with
    | .word "as" => return some (← joinType grammar start "as" operation)
    | .word "satisfies" =>
        return some (← joinType grammar start "satisfies" operation)
    | _ => pure ()
  if ← atJoiningOperator then
    return some (← joinOperand grammar start operation)
  else
    return none

/-- The operation that a value starts. -/
def operationFrom (grammar : Grammar) (start : Nat) (first : Term) :
    Reading Term := do
  let operation ← grow (operationStep grammar start)
    { term := first, last := first.form, isJoined := false }
  return operation.term

/-- Operands joined by operators.  Where the first operand is missing, the
operator goes without it. -/
def operation (grammar : Grammar) : Reading Term := do
  let start ← startOffset
  let first ← do
    match ← recover grammar.operand with
    | some term => pure term
    | none =>
        unless ← atJoiningOperator do
          fail
        pure (.dropped (.group { start, stop := start } []) .other)
  if first.form = .arrow then
    return first
  else
    operationFrom grammar start first

/-- The operators that assign. -/
def assigningMarks : List String :=
  ["=", "+=", "-=", "*=", "/=", "%=", "**=", "<<=", ">>=", ">>>=", "&=", "|=",
    "^=", "&&=", "||=", "??="]

/-- An assignment to a value that can be assigned to. -/
def assignedTo (grammar : Grammar) (start : Nat) (left : Term) :
    Reading Term := do
  let isSimple ← acceptMark "="
  unless isSimple do
    passAny
  let right ← grammar.assignment
  let node ← groupFrom start [left.node, right.node]
  let behind (parts : List Node) : List Node := parts ++ [right.node]
  return {
    node
    form := .other
    assigned := if isSimple then left.assigned.map behind else some []
    bound := if isSimple then left.bound.map behind else some [] }

/-- An assignment that takes a value apart. -/
def assignedApart (grammar : Grammar) (start : Nat) (left : Term) :
    Reading Term := do
  match left.assigned with
  | none => fail
  | some parts =>
      expectMark "="
      let right ← grammar.assignment
      let all := parts ++ [right.node]
      return {
        node := ← groupFrom start all
        form := .other, assigned := some all, bound := some all }

/-- A value, with what is assigned to it. -/
def withAssignment (grammar : Grammar) (start : Nat) (left : Term) :
    Reading Term := do
  match (← peek).token with
  | .mark text =>
      if !assigningMarks.contains text then
        return left
      match left.form with
      | .place | .optional => assignedTo grammar start left
      | .literal =>
          if text = "=" then assignedApart grammar start left else fail
      | _ => fail
  | _ => return left

/-- The two values of a choice, behind the question mark. -/
def alternatives (grammar : Grammar) : Reading (List Node) := do
  let first ← withReader
    (fun context =>
      { context with allowsIn := true, inChoice := true, awaitsColon := true })
    grammar.assignment
  expectMark ":"
  let second ← withReader
    (fun context => { context with inChoice := true, awaitsColon := false })
    grammar.assignment
  return [first.node, second.node]

end Script

end SourceMark
