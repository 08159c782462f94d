import SourceMark.Script.Exports

/-!
# Modules

A module is a list of statements, imports and exports.  `readModule` ties the
rules of the grammar together.
-/

namespace SourceMark

namespace Script

open Reading

/-- Whether an expression starts with the word for an import. -/
def atImportExpression : Reading Bool := do
  let next := (← peekSecond).token
  return (← atWord "import") && (next = .mark "(" || next = .mark ".")

/-- A statement, an import or an export.  Without types, no decorators may stand
in front of an export. -/
def itemRule (grammar : Grammar) : Reading Node := do
  let decorations ← decorators grammar
  let start ← startOffset
  if ← atImportExpression then
    importStatement grammar
  else if ← acceptWord "import" then
    groupFrom start (← importRest grammar)
  else if ← atWord "export" then
    unless decorations.isEmpty || (← typed) do
      fail
    passAny
    groupFrom start (← exportRest grammar decorations)
  else
    statementBehind grammar true decorations

/-- The grammar whose rules call one another at most `depth` deep. -/
def grammarWithin : Nat → Grammar
  | 0 => Grammar.exhausted
  | depth + 1 => {
      expression := fun context place =>
        expressionRule (grammarWithin depth) context place
      assignment := fun context place =>
        assignmentRule (grammarWithin depth) context place
      operand := fun context place =>
        operandRule (grammarWithin depth) context place
      chain := fun context place =>
        chainRule (grammarWithin depth) context place
      callee := fun context place =>
        calleeRule (grammarWithin depth) context place
      literal := fun context place =>
        recordLiteral (grammarWithin depth) context place
      target := fun context place =>
        targetRule (grammarWithin depth) context place
      decorator := fun context place =>
        decoratorRule (grammarWithin depth) context place
      type := fun context place =>
        typeRule (grammarWithin depth) context place
      plainType := fun context place =>
        plainTypeRule (grammarWithin depth) context place
      markup := fun context place =>
        markupRule (grammarWithin depth) context place
      statement := fun context place =>
        statementRule (grammarWithin depth) false context place
      listed := fun context place =>
        statementRule (grammarWithin depth) true context place
      item := fun context place =>
        itemRule (grammarWithin depth) context place }

/-- The items up to the end of the script. -/
def items (grammar : Grammar) : Reading (List Node) :=
  many do
    if (← peek).token = .finish then
      return none
    else
      return some (← grammar.item)

/-- The script behind an interpreter line. -/
def behindInterpreter (text : List Char) : Cursor :=
  match text with
  | '#' :: '!' :: rest =>
      (Cursor.takeWhile (fun character => !isLineEnd character) 2 rest).2
  | _ => Cursor.ofText text

/-- Read a module.  Every rule passes a token at the latest when the eighth rule
inside it is called, so the length of the text bounds how deep rules call one
another. -/
def readModule (dialect : Dialect) (text : List Char) :
    Except Fault (List Node) :=
  let bound := text.length + 2
  match items (grammarWithin (8 * bound)) (Context.ofModule dialect bound)
      (Place.ofCursor (behindInterpreter text)) with
  | .ok (nodes, _) => .ok nodes
  | .error fault => .error fault

end Script

end SourceMark
