import SourceMark.Script.Lexeme
import SourceMark.Script.Tree
import SourceMark.Text.Search

/-!
# Reading a script

The rules of the grammar are readings: they take what surrounds a construct,
move through the script and either give a result or a fault.  A fault tells
where it arose, so that a rule that knows how to go on can go on from there.
-/

namespace SourceMark

namespace Script

/-! ## Dialects of a script -/

/-- Which extensions of the language a file may use. -/
inductive Dialect where
  /-- Markup, no types. -/
  | markup
  /-- Types, no markup. -/
  | typed
  /-- Types and markup. -/
  | typedMarkup
deriving Repr, DecidableEq

namespace Dialect

/-- Whether type annotations are read. -/
def hasTypes : Dialect → Bool
  | markup => false
  | _ => true

/-- Whether elements are read. -/
def hasMarkup : Dialect → Bool
  | typed => false
  | _ => true

/-- The dialect of a file, by what follows the last dot of its name; a name
without a dot counts as a whole. -/
def ofFilename (filename : String) : Dialect :=
  let extension :=
    match Text.splitLast? ['.'] filename.toList with
    | some (_, extension) => String.ofList extension
    | none => filename
  if extension = "ts" ∨ extension = "mts" ∨ extension = "cts" then typed
  else if extension = "tsx" then typedMarkup
  else markup

end Dialect

/-! ## Readings -/

/-- What surrounds the construct that is being read. -/
structure Context where
  dialect : Dialect
  /-- Whether the word `in` is an operator here. -/
  allowsIn : Bool
  inGenerator : Bool
  inAsync : Bool
  /-- Whether the body of a function is the innermost around this place that is
  either a body or a list of parameters. -/
  inFunction : Bool
  inParameters : Bool
  /-- Whether the construct is only declared, as something defined elsewhere. -/
  inDeclaration : Bool
  /-- Whether a choice between two expressions surrounds this place. -/
  inChoice : Bool
  /-- Whether a question mark still waits for its colon. -/
  awaitsColon : Bool
  /-- Whether a type is read that another one is compared with. -/
  inComparison : Bool
  /-- Whether the word `super` may name an object here. -/
  allowsSuper : Bool
  /-- Whether the start of a loop head is read. -/
  inLoopHead : Bool
  /-- Whether a statement here is one of the module itself. -/
  atTop : Bool
  /-- The offset at which an arrow function may start. -/
  arrowStart : Option Nat
  /-- More steps than any repetition can take: every step but the last passes a
  character of the script. -/
  bound : Nat
deriving Repr

/-- What surrounds the items of a module. -/
def Context.ofModule (dialect : Dialect) (bound : Nat) : Context where
  dialect := dialect
  allowsIn := true
  inGenerator := false
  inAsync := false
  inFunction := false
  inParameters := false
  inDeclaration := false
  inChoice := false
  awaitsColon := false
  inComparison := false
  allowsSuper := false
  inLoopHead := false
  atTop := true
  arrowStart := none
  bound := bound

/-- A place between two tokens. -/
structure Place where
  /-- Directly behind the last token. -/
  behind : Cursor
  /-- The next token. -/
  lexeme : Lexeme
deriving Repr

/-- The place directly behind which a cursor stands. -/
def Place.ofCursor (cursor : Cursor) : Place :=
  { behind := cursor, lexeme := cursor.lexeme }

/-- Why a script could not be read. -/
inductive Fault where
  /-- The token at this place fits no rule. -/
  | unexpected (place : Place)
  /-- A namespaced tag name is continued by a dot; nothing recovers from it. -/
  | aborted
deriving Repr

/-- A step through a script. -/
abbrev Reading (α : Type) : Type :=
  ReaderT Context (StateT Place (Except Fault)) α

namespace Reading

variable {α : Type}

/-! ## Tokens -/

/-- The next token, which stays in place. -/
def peek : Reading Lexeme :=
  return (← get).lexeme

/-- The token after the next one. -/
def peekSecond : Reading Lexeme :=
  return (← get).lexeme.behind.lexeme

/-- Give up at this place. -/
def fail : Reading α := do
  throw (.unexpected (← get))

/-- Go on behind a cursor. -/
def moveTo (cursor : Cursor) : Reading Unit :=
  set (Place.ofCursor cursor)

/-- Move behind a token. -/
def pass (lexeme : Lexeme) : Reading Unit :=
  moveTo lexeme.behind

/-- Pass the next token, whatever it is. -/
def passAny : Reading Unit := do
  pass (← peek)

/-- The offset of the next token. -/
def startOffset : Reading Nat :=
  return (← get).lexeme.start

/-- The offset behind the last token. -/
def stopOffset : Reading Nat :=
  return (← get).behind.offset

/-- Whether the next token is this mark. -/
def atMark (text : String) : Reading Bool :=
  return (← peek).token = .mark text

/-- Whether the next token is one of these marks. -/
def atAnyMark (texts : List String) : Reading Bool := do
  match (← peek).token with
  | .mark text => return texts.contains text
  | _ => return false

/-- Whether the next token is this word. -/
def atWord (text : String) : Reading Bool :=
  return (← peek).token = .word text

/-- Pass a token that satisfies a test. -/
def acceptToken (test : Token → Bool) : Reading Bool := do
  let lexeme ← peek
  if test lexeme.token then
    pass lexeme
    return true
  else
    return false

/-- Pass this mark when it comes next. -/
def acceptMark (text : String) : Reading Bool :=
  acceptToken (· == .mark text)

/-- Pass this word when it comes next. -/
def acceptWord (text : String) : Reading Bool :=
  acceptToken (· == .word text)

/-- Pass this mark. -/
def expectMark (text : String) : Reading Unit := do
  unless ← acceptMark text do
    fail

/-- Pass this word. -/
def expectWord (text : String) : Reading Unit := do
  unless ← acceptWord text do
    fail

/-! ## Trying and repeating -/

/-- Go back to where the reading started when it fails. -/
def attempt (reading : Reading α) : Reading (Option α) :=
  fun context place =>
    match reading context place with
    | .ok (result, next) => .ok (some result, next)
    | .error .aborted => .error .aborted
    | .error (.unexpected _) => .ok (none, place)

/-- Go back to where the reading started when it fails or gives nothing. -/
def attempt? (reading : Reading (Option α)) : Reading (Option α) :=
  fun context place =>
    match reading context place with
    | .ok (some result, next) => .ok (some result, next)
    | .ok (none, _) => .ok (none, place)
    | .error .aborted => .error .aborted
    | .error (.unexpected _) => .ok (none, place)

/-- Go on where the reading failed when it fails. -/
def recover (reading : Reading α) : Reading (Option α) :=
  fun context place =>
    match reading context place with
    | .ok (result, next) => .ok (some result, next)
    | .error .aborted => .error .aborted
    | .error (.unexpected failed) => .ok (none, failed)

/-- Read in a second way when the first one fails.  When both fail, the first
failure counts. -/
def either (first second : Reading α) : Reading α :=
  fun context place =>
    match first context place with
    | .error (.unexpected failed) =>
        match second context place with
        | .error (.unexpected _) => .error (.unexpected failed)
        | outcome => outcome
    | outcome => outcome

/-- Whether a reading would succeed with `true`; the place stays. -/
def ahead (reading : Reading Bool) : Reading Bool :=
  fun context place =>
    match reading context place with
    | .ok (result, _) => .ok (result, place)
    | .error .aborted => .error .aborted
    | .error (.unexpected _) => .ok (false, place)

/-- Repeat a step until it gives nothing. -/
def manyWithin (step : Reading (Option α)) : Nat → Reading (List α)
  | 0 => fail
  | fuel + 1 => do
      match ← step with
      | none => return []
      | some item => return item :: (← manyWithin step fuel)

/-- Repeat a step until it gives nothing. -/
def many (step : Reading (Option α)) : Reading (List α) := do
  manyWithin step (← read).bound

/-- Let a step grow a value until it gives nothing. -/
def growWithin (step : α → Reading (Option α)) : Nat → α → Reading α
  | 0, _ => fail
  | fuel + 1, value => do
      match ← step value with
      | none => return value
      | some grown => growWithin step fuel grown

/-- Let a step grow a value until it gives nothing. -/
def grow (step : α → Reading (Option α)) (value : α) : Reading α := do
  growWithin step (← read).bound value

/-- Items separated by commas up to a closing mark, which is passed.  A comma
may follow the last item. -/
def separated (close : String) (item : Reading α) : Reading (List α) :=
  many do
    if ← acceptMark close then
      return none
    let result ← item
    unless ← atMark close do
      expectMark ","
    return some result

/-! ## Angle brackets -/

/-- Whether a single closing angle bracket comes next, be it the start of a
longer mark. -/
def atCloseAngle : Reading Bool := do
  return (← peek).place.rest.head? = some '>'

/-- Pass a single closing angle bracket. -/
def expectCloseAngle : Reading Unit := do
  if ← atCloseAngle then
    moveTo ((← peek).place.skip 1)
  else
    fail

/-- Whether a list in angle brackets can start here. -/
def atOpenAngle : Reading Bool := do
  return (← atMark "<") || (← atMark "<<")

/-- Pass a single opening angle bracket, be it half of a doubled one. -/
def expectOpenAngle : Reading Unit := do
  if ← atOpenAngle then
    moveTo ((← peek).place.skip 1)
  else
    fail

/-- Items separated by commas up to a closing angle bracket, which is passed. -/
def separatedInAngles (item : Reading α) : Reading (List α) :=
  many do
    if ← atCloseAngle then
      expectCloseAngle
      return none
    let result ← item
    unless ← atCloseAngle do
      expectMark ","
    return some result

/-! ## Templates -/

/-- The substitutions of a template, behind its opening mark.  Unless the
template is handed to a tag, all its escapes must mean something. -/
def substitutions (isTagged : Bool) (item : Reading (List Node)) :
    Reading (List Node) := do
  let found ← many do
    match templatePiece? (← get).behind with
    | none => fail
    | some piece =>
        unless isTagged || piece.isSound do
          fail
        moveTo piece.behind
        match piece.stop with
        | .closed => return none
        | .substitution =>
            let parts ← item
            expectMark "\x7d"
            return some parts
  return found.flatten

/-! ## Statements -/

/-- Whether a statement may end here without a semicolon, or with one. -/
def atStatementEnd : Reading Bool := do
  let lexeme ← peek
  return lexeme.afterLineEnd || lexeme.token = .mark ";" ||
    lexeme.token = .mark "\x7d" || lexeme.token = .finish

/-- Pass the end of a statement when the statement may end here. -/
def acceptStatementEnd : Reading Bool := do
  if ← acceptMark ";" then
    return true
  else
    atStatementEnd

/-- Pass the end of a statement. -/
def endStatement : Reading Unit := do
  unless ← acceptStatementEnd do
    fail

/-! ## Surroundings -/

/-- Whether the file may contain type annotations. -/
def typed : Reading Bool :=
  return (← read).dialect.hasTypes

/-- Whether the file may contain elements. -/
def marked : Reading Bool :=
  return (← read).dialect.hasMarkup

/-- Read where the word `in` is an operator. -/
def withIn (reading : Reading α) : Reading α :=
  withReader (fun context => { context with allowsIn := true }) reading

/-- Read where the word `in` is no operator. -/
def withoutIn (reading : Reading α) : Reading α :=
  withReader (fun context => { context with allowsIn := false }) reading

/-- Read where no colon of a choice is awaited. -/
def awaitingNoColon (reading : Reading α) : Reading α :=
  withReader (fun context => { context with awaitsColon := false }) reading

/-- Read inside brackets. -/
def enclosed (reading : Reading α) : Reading α :=
  withIn (awaitingNoColon reading)

/-- A group of parts that ends at the last token. -/
def groupFrom (start : Nat) (parts : List Node) : Reading Node := do
  return .group { start, stop := ← stopOffset } parts

end Reading

end Script

end SourceMark
