import SourceMark.Script.Expressions

/-!
# Variables

Statements that declare variables.  A declaration that does not end where it
should is given up, and the rest of its line goes with it.
-/

namespace SourceMark

namespace Script

open Reading

/-- The words that declare variables. -/
inductive VariableKind where
  /-- Known in the whole function around them. -/
  | wide
  /-- Known in the block around them. -/
  | narrow
  /-- Known in the block around them, with a value that stays. -/
  | fixed
deriving Repr, DecidableEq

namespace VariableKind

/-- The kind of variables that a word declares. -/
def ofWord? : String → Option VariableKind
  | "var" => some wide
  | "let" => some narrow
  | "const" => some fixed
  | _ => none

end VariableKind

/-- Whether a token may start the first variable behind the word `let`. -/
def startsNarrow : Token → Bool
  | .word text =>
      !keywords.contains text &&
        (!moduleWords.contains text || ["let", "yield", "await"].contains text)
  | .mark text => text = "[" || text = "\x7b"
  | _ => false

/-- The kind of variables that are declared here. -/
def variableKind? : Reading (Option VariableKind) := do
  match (← peek).token with
  | .word text =>
      match VariableKind.ofWord? text with
      | some .narrow =>
          if startsNarrow (← peekSecond).token then
            return some .narrow
          else
            return none
      | kind => return kind
  | _ => return none

/-- What a variable stands for: its name with the marks behind it, or a target
that takes a value apart. -/
def variableTarget (grammar : Grammar) (kind : VariableKind) :
    Reading Target := do
  if kind ≠ .wide && (← atWord "let") then
    fail
  let target ← grammar.target
  if (← typed) && target.name.isSome then
    let _ ← acceptMark "!"
  let type ← typeBehindColon grammar
  return { target with parts := target.parts ++ type }

/-- Whether a variable may go without a value. -/
def mayLackValue (kind : VariableKind) (inLoop : Bool) (target : Target) :
    Reading Bool := do
  let context ← read
  return context.inDeclaration || target.name.isSome ||
    (kind = .fixed && !inLoop)

/-- Whether the subject of a loop comes next. -/
def atLoopSubject : Reading Bool := do
  return (← atWord "of") || (← atWord "in")

/-- One variable. -/
def declarator (grammar : Grammar) (kind : VariableKind) (inLoop : Bool) :
    Reading Node := do
  let start ← startOffset
  let target ← variableTarget grammar kind
  let value ← do
    if inLoop && (← atLoopSubject) then
      pure none
    else if ← acceptMark "=" then
      pure (some (← grammar.assignment).node)
    else
      unless ← mayLackValue kind inLoop target do
        fail
      pure none
  return .declarator target.name { start, stop := ← stopOffset } target.parts
    value

/-- Variables separated by commas.  The last comma, or the first word, may stand
in front of a semicolon. -/
def declarators (grammar : Grammar) (kind : VariableKind) (inLoop : Bool) :
    Reading (List Node) := do
  let atGap : Reading Bool := do
    return (← atMark ";") || (← peek).token = .finish
  if ← atGap then
    return []
  let first ← declarator grammar kind inLoop
  let others ← many do
    if !(← acceptMark ",") then
      return none
    else if ← atGap then
      return none
    else
      return some (← declarator grammar kind inLoop)
  return first :: others

/-- Pass tokens up to the end of the statement. -/
def skipStatement : Reading Unit := do
  let _ ← many do
    if ← acceptStatementEnd then
      return none
    else if (← peek).token = .invalid then
      return none
    else
      passAny
      return some ()

/-- Pass the end of a variable statement.  What stands in front of it is
dropped. -/
def endVariables (grammar : Grammar) : Reading Unit := do
  unless ← acceptStatementEnd do
    let _ ← recover grammar.expression
    skipStatement

/-- A variable statement, from its first word on. -/
def variableStatement (grammar : Grammar) (kind : VariableKind) :
    Reading (List Node) := do
  passAny
  let declared ← withIn (declarators grammar kind false)
  endVariables grammar
  return declared

/-- Whether variables are declared here that are disposed of at the end. -/
def atDisposed : Reading Bool := do
  let next ← peekSecond
  return (← atWord "using") && namesValue next.token && !next.afterLineEnd

/-- Variables that are disposed of at the end, from the word `using` on. -/
def disposedVariables (grammar : Grammar) : Reading (List Node) := do
  expectWord "using"
  let declared ← withIn (declarators grammar .wide false)
  endStatement
  return declared

end Script

end SourceMark
