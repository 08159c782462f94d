import SourceMark.Script.Declarations
import SourceMark.Script.Variables

/-!
# Statements

A statement is the group of its parts in the order in which they are written,
except that a loop with its test behind its body lists the test first.
-/

namespace SourceMark

namespace Script

open Reading

/-!
## Loops over and with variables

A loop that starts with the word `for` goes through the parts of a value, or it
has a start, a test and a step.
-/

/-- What a loop starts with. -/
structure LoopStart where
  parts : List Node
  /-- What is left of the start where every part of a value is assigned to it;
  nothing when it cannot be assigned to. -/
  assigned : Option (List Node)
deriving Repr

namespace LoopStart

/-- A start that declares variables. -/
def ofVariables (declared : List Node) : LoopStart :=
  { parts := declared, assigned := some declared }

end LoopStart

/-- Whether the word that declares variables is missing a name, as in front of
the subject of a loop. -/
def atNamelessLoop (grammar : Grammar) : Reading Bool :=
  ahead do
    unless ← typed do
      fail
    unless (← acceptWord "of") || (← acceptWord "in") do
      fail
    let _ ← grammar.assignment
    expectMark ")"
    return true

/-- The variables that a loop starts with, from their first word on. -/
def loopVariables (grammar : Grammar) (kind : VariableKind) :
    Reading (List Node) := do
  passAny
  if ← atNamelessLoop grammar then
    return []
  let inside :=
    if kind = .wide then withoutIn (α := List Node) else withIn
  inside (declarators grammar kind true)

/-- Whether a variable comes next that is disposed of after each turn of the
loop, behind the word for it. -/
def atDisposedName (start : Term) (isWaiting : Bool) : Reading Bool := do
  let next ← peekSecond
  let isUsing :=
    match start.node with
    | .name text _ => text = "using"
    | .group _ [.name text _] => isWaiting && text = "using"
    | _ => false
  return (← typed) && isUsing && !(← atLoopSubject) &&
    (next.token = .word "of" || next.token = .word "in")

/-- The expression or the disposed variable that a loop starts with. -/
def loopExpression (grammar : Grammar) : Reading LoopStart := do
  let isWaiting ← atWord "await"
  let start ← withReader (fun context => { context with inLoopHead := true })
    (withoutIn grammar.expression)
  if ← atDisposedName start isWaiting then
    let offset ← startOffset
    let name ← bindingName
    let extent : Extent := { start := offset, stop := ← stopOffset }
    return .ofVariables [.declarator (some name) extent [] none]
  else
    return { parts := [start.node], assigned := start.assigned }

/-- The rest of a loop with a start, a test and a step, behind the first
semicolon. -/
def countingRest (grammar : Grammar) (start : List Node) :
    Reading (List Node) := do
  let clause (close : String) : Reading (List Node) := do
    if ← acceptMark close then
      return []
    let inner ← withIn grammar.expression
    expectMark close
    return [inner.node]
  let test ← clause ";"
  let step ← clause ")"
  return start ++ test ++ step ++ [← grammar.statement]

/-- The rest of a loop through the parts of a value. -/
def throughRest (grammar : Grammar) (isWaiting : Bool) (start : LoopStart) :
    Reading (List Node) := do
  match start.assigned with
  | none => fail
  | some target =>
      let subject ← do
        if ← acceptWord "of" then
          withIn grammar.assignment
        else
          if isWaiting then
            fail
          expectWord "in"
          withIn grammar.expression
      expectMark ")"
      return target ++ [subject.node, ← grammar.statement]

/-- What a loop starts with, unless a semicolon comes first. -/
def loopStart (grammar : Grammar) : Reading LoopStart := do
  match ← variableKind? with
  | some kind => return .ofVariables (← loopVariables grammar kind)
  | none =>
      if ← atMark ";" then
        return .ofVariables []
      else
        loopExpression grammar

/-- A loop, behind the word `for`.  Only the parts of a value can be waited
for. -/
def loopRest (grammar : Grammar) : Reading (List Node) := do
  let isWaiting ← acceptWord "await"
  expectMark "("
  let start ← loopStart grammar
  if ← atLoopSubject then
    throughRest grammar isWaiting start
  else
    if isWaiting then
      fail
    expectMark ";"
    countingRest grammar start.parts

/-! ## Statements with a word of their own -/

/-- An expression between parentheses. -/
def condition (grammar : Grammar) : Reading Node := do
  expectMark "("
  let inner ← withIn grammar.expression
  expectMark ")"
  return inner.node

/-- The statements of one case, up to the next one. -/
def caseBody (grammar : Grammar) : Reading (List Node) := do
  expectMark ":"
  withReader (fun context => { context with atTop := false }) <|
    many do
      if (← atWord "case") || (← atWord "default") || (← atMark "\x7d") then
        return none
      else
        return some (← grammar.listed)

/-- A case: its test, unless it stands for all others, and its statements. -/
structure Case where
  test : Option Node
  body : List Node
deriving Repr

/-- One case, unless the last one was read. -/
def case? (grammar : Grammar) : Reading (Option Case) := do
  if ← acceptMark "\x7d" then
    return none
  else if ← acceptWord "default" then
    return some { test := none, body := ← caseBody grammar }
  else
    expectWord "case"
    let test ← withIn grammar.expression
    return some { test := some test.node, body := ← caseBody grammar }

/-- A choice between cases, behind its first word.  Only one of them may stand
for all others. -/
def casesRest (grammar : Grammar) : Reading (List Node) := do
  let subject ← condition grammar
  expectMark "\x7b"
  let cases ← many (case? grammar)
  if 1 < cases.countP fun item => item.test.isNone then
    fail
  return subject :: cases.flatMap fun item => item.test.toList ++ item.body

/-- The handler of what was thrown, when there is one. -/
def handler (grammar : Grammar) : Reading (List Node) := do
  unless ← acceptWord "catch" do
    return []
  let caught ← do
    if ← acceptMark "(" then
      let target ← grammar.target
      let type ← typeBehindColon grammar
      expectMark ")"
      pure (target.parts ++ type)
    else
      pure []
  return caught ++ (← block grammar)

/-- The statements that are run in the end, when there are any. -/
def finalizer (grammar : Grammar) : Reading (List Node) := do
  if ← acceptWord "finally" then
    block grammar
  else
    return []

/-- Statements with a handler, behind the word `try`. -/
def handledRest (grammar : Grammar) : Reading (List Node) := do
  let body ← block grammar
  let handled ← handler grammar
  let final ← finalizer grammar
  return body ++ handled ++ final

/-- A handler without statements that it handles, which is dropped. -/
def strayHandler (grammar : Grammar) : Reading (List Node) := do
  let _ ← recover (handler grammar)
  let _ ← recover (finalizer grammar)
  return []

/-- A statement that starts with a word of its own, behind the word. -/
def wordStatement? (grammar : Grammar) (word : String) :
    Option (Reading (List Node)) :=
  match word with
  | "if" => some do
      let test ← condition grammar
      let first ← grammar.statement
      if ← acceptWord "else" then
        return [test, first, ← grammar.statement]
      else
        return [test, first]
  | "for" => some (loopRest grammar)
  | "while" | "with" => some do
      let subject ← condition grammar
      return [subject, ← grammar.statement]
  | "do" => some do
      let body ← grammar.statement
      expectWord "while"
      let test ← condition grammar
      let _ ← acceptStatementEnd
      return [test, body]
  | "switch" => some (casesRest grammar)
  | "try" => some (handledRest grammar)
  | "return" => some do
      if ← acceptStatementEnd then
        return []
      let value ← withIn grammar.expression
      endStatement
      return [value.node]
  | "throw" => some do
      if (← peek).afterLineEnd then
        fail
      let value ← withIn grammar.expression
      endStatement
      return [value.node]
  | "break" | "continue" => some do
      unless ← acceptStatementEnd do
        let _ ← bindingName
        endStatement
      return []
  | "debugger" => some do
      endStatement
      return []
  | _ => none

/-! ## Statements that are expressions -/

/-- An expression as a statement.  An operator behind it goes on with it. -/
def endExpression (grammar : Grammar) (start : Nat) (value : Term) :
    Reading Node := do
  if ← acceptStatementEnd then
    return ← groupFrom start [value.node]
  match (← peek).token with
  | .mark text =>
      if joiningMarks.contains text then
        let joined ← withIn (operationFrom grammar start value)
        groupFrom start [joined.node]
      else
        fail
  | _ => fail

/-- The statement behind a label. -/
def labelled (grammar : Grammar) : Reading Node := do
  if ← atWord "function" then
    function grammar .declaration (← startOffset) false []
  else
    grammar.statement

/-- An expression, or what a name declares or labels. -/
def expressionStatement (grammar : Grammar) (decorations : List Node) :
    Reading Node := do
  let start ← startOffset
  let value ← withIn grammar.expression
  if let .name text _ := value.node then
    if ← acceptMark ":" then
      return ← groupFrom start [← labelled grammar]
    if text = "interface" && (← peek).afterLineEnd then
      let _ ← acceptStatementEnd
      return ← groupFrom start []
    if ← typed then
      if let some node ← declaredByName? grammar text start decorations then
        return node
  endExpression grammar start value

/-- What is waited for in a statement of the module itself.  Nothing but
operators may go on with it, and no semicolon is needed behind it. -/
def awaitedStatement (grammar : Grammar) : Reading Node := do
  let start ← startOffset
  let first ← awaited grammar start
  let value ← withIn (operationFrom grammar start first)
  let _ ← acceptMark ";"
  groupFrom start [value.node]

/-- A module that is loaded by a statement. -/
def importStatement (grammar : Grammar) : Reading Node := do
  let start ← startOffset
  let next := (← peekSecond).token
  unless next = .mark "(" || next = .mark "." do
    fail
  let value ← grammar.expression
  let _ ← acceptMark ";"
  groupFrom start [value.node]

/-! ## All statements -/

/-- Whether variables come next that are disposed of after waiting. -/
def atAwaitedDisposal : Reading Bool := do
  let second ← peekSecond
  let third := second.behind.lexeme
  return (← atWord "await") && second.token = .word "using" &&
    namesValue third.token && !third.afterLineEnd

/-- The declaration that comes next where statements are listed. -/
def listedDeclaration? (grammar : Grammar) : Reading (Option (List Node)) := do
  match ← variableKind? with
  | some kind => return some (← variableStatement grammar kind)
  | none =>
      if ← atDisposed then
        return some (← disposedVariables grammar)
      else
        return none

/-- The declaration of a type that comes next, with its name on the line of its
first word. -/
def namedDeclaration? (grammar : Grammar) : Reading (Option (List Node)) := do
  let next ← peekSecond
  let isNamed := namesValue next.token && !next.afterLineEnd
  unless (← typed) && isNamed do
    return none
  if ← acceptWord "interface" then
    return some (← interfaceRest grammar)
  else if ← acceptWord "type" then
    return some (← typeNameRest grammar)
  else if ← acceptWord "enum" then
    return some (← enumerationRest grammar)
  else
    return none

/-- A statement that starts with a word. -/
def statementOfWord (grammar : Grammar) (isListed : Bool)
    (decorations : List Node) (lexeme : Lexeme) (word : String) :
    Reading Node := do
  let start := lexeme.start
  if let some rest := wordStatement? grammar word then
    pass lexeme
    return ← groupFrom start (← rest)
  if word = "function" then
    return ← function grammar .declaration start false decorations
  if ← atAsyncFunction then
    return ← asyncFunction grammar .declaration start decorations
  if word = "class" then
    return ← classRest grammar start true decorations
  if word = "catch" || word = "finally" then
    return ← groupFrom start (← strayHandler grammar)
  if isListed || word = "var" then
    if let some declared ← listedDeclaration? grammar then
      return ← groupFrom start declared
  if let some declared ← namedDeclaration? grammar then
    return ← groupFrom start declared
  expressionStatement grammar decorations

/-- A statement behind its decorators. -/
def statementBehind (grammar : Grammar) (isListed : Bool)
    (decorations : List Node) : Reading Node :=
  awaitingNoColon do
    let lexeme ← peek
    let start := lexeme.start
    let next ← peekSecond
    let atTop := (← read).atTop
    match lexeme.token with
    | .mark "\x7b" => groupFrom start (← block grammar)
    | .mark ";" =>
        pass lexeme
        groupFrom start []
    | .word "import" => importStatement grammar
    | .word "export" => fail
    | .word word =>
        if (← typed) && word = "const" && next.token = .word "enum" then
          pass next
          groupFrom start (← enumerationRest grammar)
        else if (isListed || atTop) && (← atAwaitedDisposal) then
          passAny
          groupFrom start (← disposedVariables grammar)
        else if atTop && word = "await" then
          awaitedStatement grammar
        else
          statementOfWord grammar isListed decorations lexeme word
    | _ => expressionStatement grammar decorations

/-- A statement, which may be a declaration where statements are listed. -/
def statementRule (grammar : Grammar) (isListed : Bool) : Reading Node := do
  let decorations ← decorators grammar
  statementBehind grammar isListed decorations

end Script

end SourceMark
