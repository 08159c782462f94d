import SourceMark.Script.Reading

/-!
# The rules of the grammar

The rules call one another through a record, so that each of them can be defined
by itself.  What a rule gives back tells its caller how the construct may be
used: a value may later turn out to be the target of an assignment or the
parameter of a function.
-/

namespace SourceMark

namespace Script

/-- What may stand around a value. -/
inductive Form where
  /-- Something that can be assigned to. -/
  | place
  /-- A chain with an optional access.  It can be assigned to, but no object can
  be made of it. -/
  | optional
  /-- A list or record literal, which may stand for a target. -/
  | literal
  /-- An operand behind an operator, which cannot be raised to a power. -/
  | prefixed
  /-- An arrow function, which no operator follows. -/
  | arrow
  | other
deriving Repr, DecidableEq

/-- A value that was read. -/
structure Term where
  node : Node
  form : Form
  /-- What is left of the value where it is assigned to; nothing when it cannot
  stand there. -/
  assigned : Option (List Node)
  /-- What is left of the value where it is a parameter; nothing when it cannot
  stand there. -/
  bound : Option (List Node)
deriving Repr

namespace Term

/-- A value that stays what it is where it is assigned to. -/
def kept (node : Node) (form : Form) : Term :=
  { node, form, assigned := some [node], bound := some [] }

/-- A value that is dropped where it is assigned to. -/
def dropped (node : Node) (form : Form) : Term :=
  { node, form, assigned := some [], bound := some [] }

/-- Whether the value is a name. -/
def isName (term : Term) : Bool :=
  match term.node with
  | .name _ _ => true
  | _ => false

end Term

/-- What an entry of a literal is. -/
inductive EntryKind where
  /-- Nothing stands in front of the comma. -/
  | hole
  | single
  /-- All items of another list or record. -/
  | spread
deriving Repr, DecidableEq

/-- An entry of a list or record literal. -/
structure Entry where
  kind : EntryKind
  plain : List Node
  /-- What is left of the entry where the literal is assigned to. -/
  assigned : Option (List Node)
  /-- What is left of the entry where the literal is a parameter. -/
  bound : Option (List Node)
deriving Repr

namespace Entry

/-- The parts of a list as a target.  Only its last entry may take all the items
that are left; others that would are dropped. -/
def listParts (choose : Entry → Option (List Node)) :
    List Entry → Option (List Node)
  | [] => some []
  | [last] => choose last
  | entry :: entries => do
      let parts ← if entry.kind = .spread then some [] else choose entry
      return parts ++ (← listParts choose entries)

/-- The parts of a record as a target. -/
def recordParts (choose : Entry → Option (List Node)) (entries : List Entry) :
    Option (List Node) :=
  (entries.mapM choose).map List.flatten

end Entry

/-- What takes a value apart or gives it a name. -/
structure Target where
  /-- The values in it. -/
  parts : List Node
  /-- The name, unless the value is taken apart. -/
  name : Option String
deriving Repr

/-- The rules that call one another. -/
structure Grammar where
  /-- Expressions separated by commas. -/
  expression : Reading Term
  /-- One expression, as between commas. -/
  assignment : Reading Term
  /-- An operand with the operators around it. -/
  operand : Reading Term
  /-- A value with the accesses and calls behind it. -/
  chain : Reading Term
  /-- A value with the accesses behind it, but no calls. -/
  callee : Reading Term
  /-- A record literal. -/
  literal : Reading Term
  target : Reading Target
  /-- A decorator, from its sign on. -/
  decorator : Reading Node
  /-- A type; the values in it are given. -/
  type : Reading (List Node)
  /-- A type without a condition. -/
  plainType : Reading (List Node)
  markup : Reading Node
  /-- A statement that may not be a declaration. -/
  statement : Reading Node
  /-- A statement or a declaration. -/
  listed : Reading Node
  /-- An item of a module. -/
  item : Reading Node

/-- The grammar in which no rule holds. -/
def Grammar.exhausted : Grammar where
  expression := Reading.fail
  assignment := Reading.fail
  operand := Reading.fail
  chain := Reading.fail
  callee := Reading.fail
  literal := Reading.fail
  target := Reading.fail
  decorator := Reading.fail
  type := Reading.fail
  plainType := Reading.fail
  markup := Reading.fail
  statement := Reading.fail
  listed := Reading.fail
  item := Reading.fail

/-! ## Names -/

/-- Whether a token names a value. -/
def namesValue : Token → Bool
  | .word text => !isReserved text
  | _ => false

/-- Whether a word may name something where a name is required.  Most words of
a module do, although they name no value. -/
def fitsName (context : Context) (word : String) : Bool :=
  if word = "this" then context.dialect.hasTypes
  else if word = "await" then context.inDeclaration
  else !keywords.contains word

namespace Reading

/-- The name that comes next where one is required. -/
def bindingName : Reading String := do
  let lexeme ← peek
  match lexeme.token with
  | .word text =>
      if fitsName (← read) text then
        pass lexeme
        return text
      else
        fail
  | _ => fail

/-- The name of a function or class that may go without one. -/
def optionalName? : Reading (Option String) := do
  let lexeme ← peek
  match lexeme.token with
  | .word text =>
      if !isReserved text || (text = "this" && (← typed)) then
        pass lexeme
        return some text
      else
        return none
  | _ => return none

/-- A word, whatever it means elsewhere. -/
def anyWord : Reading String := do
  let lexeme ← peek
  match lexeme.token with
  | .word text =>
      pass lexeme
      return text
  | _ => fail

/-- Whether the next token names a value. -/
def atValueName : Reading Bool :=
  return namesValue (← peek).token

end Reading

end Script

end SourceMark
