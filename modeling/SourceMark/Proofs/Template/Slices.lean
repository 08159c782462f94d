import SourceMark.Proofs.Template.Elements
import SourceMark.Proofs.Template.Runs
import SourceMark.Template.Annotation

/-!
# Reading by byte offsets

The readers of a component file once more, as they work on its bytes: places
are byte offsets, tags are scanned byte by byte, and every piece is sliced out
of the file between two offsets.  A slice breaks the reading when its offsets
are out of order, past the end or inside a character, and so does a loop that
does not get on.
-/

namespace SourceMark

namespace Template

namespace Sliced

/-- Why a reading ends early. -/
inductive Halt where
  | fault (fault : Fault)
  | broken
deriving Repr, DecidableEq

/-- The piece of a text between two byte offsets. -/
def slice (text : List Char) (start stop : Nat) : Except Halt (List Char) :=
  match Text.slice? text start stop with
  | some piece => .ok piece
  | none => .error .broken

/-- The byte offset of the first occurrence of a mark. -/
def find? (mark text : List Char) : Option Nat :=
  (Cursor.find? mark 0 text).map fun found => found.2.offset

/-- What one round of a loop comes to. -/
inductive Round (State Result : Type) where
  | next (offset : Nat) (state : State)
  | done (result : Result)

/-- Do rounds up to the one that ends the loop. -/
def loop {State Result : Type} (limit : Nat)
    (round : Nat → State → Except Halt (Round State Result)) (offset : Nat)
    (state : State) : Except Halt Result :=
  match round offset state with
  | .error halt => .error halt
  | .ok (.done result) => .ok result
  | .ok (.next later state) =>
      if offset < later ∧ later ≤ limit then
        loop limit round later state
      else
        .error .broken
termination_by limit - offset

/-! ## Tags -/

section Tags

variable (source : List Char) (bytes : List UInt8) (tag : String)

/-- The value behind a quote, and the offset behind its closing quote. -/
def quotedValue (quote : Char) (start : Nat) :
    Except Halt (List Char × Nat) := do
  let close := Text.scan (· != quote) bytes start
  if close < bytes.length then
    let value ← slice source start close
    return (value, close + 1)
  else
    throw (.fault (.openAttributeValue tag))

/-- The value at an offset, and the offset behind it. -/
def valueAt (start : Nat) : Except Halt (List Char × Nat) := do
  if Text.stands (· = '"') bytes start then
    quotedValue source bytes tag '"' (start + 1)
  else if Text.stands (· = '\x27') bytes start then
    quotedValue source bytes tag '\x27' (start + 1)
  else
    let close := Text.scan isValuePart bytes start
    let value ← slice source start close
    return (value, close)

/-- The attribute at an offset, and the offset behind it. -/
def attributeAt (start : Nat) : Except Halt (TagAttribute × Nat) := do
  let stop := Text.scan isAttributeNamePart bytes start
  let name ← slice source start stop
  let sign := Text.scan Text.isAsciiBlank bytes stop
  if Text.stands (· = '=') bytes sign then
    let (value, behind) ← valueAt source bytes tag
      (Text.scan Text.isAsciiBlank bytes (sign + 1))
    return (TagAttribute.ofText name (some value), behind)
  else
    return (TagAttribute.ofText name none, stop)

/-- Read what stands at an offset inside a tag; the attributes so far are
given. -/
def insidePart (place : Nat) (given : List TagAttribute) :
    Except Halt (Round (List TagAttribute)
      (List TagAttribute × Bool × Nat)) := do
  if bytes.length ≤ place then
    throw (.fault (.openStartTag tag))
  else if Text.stands (· = '>') bytes place then
    return .done (given, false, place + 1)
  else if Text.stands (· = '/') bytes place &&
      Text.stands (· = '>') bytes (place + 1) then
    return .done (given, true, place + 2)
  else if Text.stands (fun character => character = '/' || character = '=')
      bytes place then
    return .next (place + 1) given
  else
    let (read, behind) ← attributeAt source bytes tag place
    return .next behind (given ++ [read])

/-- Read what comes next inside a tag behind blanks. -/
def insideRound (start : Nat) (given : List TagAttribute) :
    Except Halt (Round (List TagAttribute)
      (List TagAttribute × Bool × Nat)) :=
  insidePart source bytes tag (Text.scan Text.isAsciiBlank bytes start) given

end Tags

/-- The opening tag whose bracket stands at an offset, and the offset behind
it. -/
def openTag (source : List Char) (stop start : Nat) :
    Except Halt (Option (OpenTag × Nat)) := do
  if Text.byteLength source < stop then
    throw .broken
  else
    let bytes := (Text.bytes source).take stop
    if Text.stands Text.isAsciiLetter bytes (start + 1) then
      let behindName := Text.scan isTagNamePart bytes (start + 1)
      let named ← slice source (start + 1) behindName
      let name := String.ofList named
      let (attributes, selfClosing, behind) ←
        loop stop (insideRound source bytes name) behindName []
      return some ({ name, attributes, selfClosing }, behind)
    else
      return none

/-- A character that may follow the name of an end tag. -/
def endsEndName (character : Char) : Bool :=
  character = '>' || Text.isAsciiBlank character

/-- The mark of the end tag of a name, in lower case. -/
def endMark (name : List Char) : List Char :=
  '<' :: '/' :: Text.lowerAscii name

/-- Search a text in lower case for an end tag by its mark. -/
def endTagRound (text mark : List Char) (start : Nat) (_ : Unit) :
    Except Halt (Round Unit (Option Nat)) := do
  let rest ← slice text start (Text.byteLength text)
  match find? mark rest with
  | none => return .done none
  | some found =>
      let place := start + found
      let behind := place + Text.byteLength mark
      if Text.byteLength text ≤ behind ||
          Text.stands endsEndName (Text.bytes text) behind then
        return .done (some place)
      else
        return .next behind ()

/-- The offset of the first end tag of that name between two offsets. -/
def endTag (source name : List Char) (stop start : Nat) :
    Except Halt (Option Nat) := do
  let part ← slice source start stop
  let text := Text.lowerAscii part
  let found ← loop (Text.byteLength text) (endTagRound text (endMark name)) 0 ()
  return found.map (start + ·)

/-- The offset behind the next closing bracket, or the end. -/
def behindEnd (source : List Char) (stop start : Nat) : Except Halt Nat := do
  let rest ← slice source start stop
  match find? ['>'] rest with
  | some found => return start + found + 1
  | none => return stop

/-! ## Tokens -/

section Tokens

variable (source : List Char) (stop : Nat)

/-- A text of which so many bytes are taken whatever they are. -/
def text (rest : List Char) (skip : Nat) : Except Halt (List Char) := do
  let searched ← slice rest skip (Text.byteLength rest)
  let plain := skip + Text.byteLength (searched.takeWhile isPlain)
  slice rest 0 (max 1 plain)

/-- What follows an opening tag: its body comes along when it is text. -/
def opened (tag : OpenTag) (behind : Nat) : Except Halt (Token × Nat) := do
  if tag.selfClosing || isVoid tag.name || !isRaw tag.name then
    return (.opening tag, behind)
  else
    match ← endTag source tag.name.toList stop behind with
    | none => throw (.fault (.missingEndTag tag.name))
    | some close =>
        let body ← slice source behind close
        let after ← behindEnd source stop close
        return (.raw tag body, after)

/-- The token at an offset, and the offset behind it. -/
def token (start : Nat) : Except Halt (Token × Nat) := do
  let rest ← slice source start stop
  if ['{', '{'].isPrefixOf rest then
    match find? ['}', '}'] rest with
    | none => throw (.fault (.openInterpolation start))
    | some close =>
        let value ← slice rest 2 close
        return (.interpolation (Text.trim value), start + close + 2)
  else if commentOpening.isPrefixOf rest then
    match find? commentClosing rest with
    | none => throw (.fault (.openComment start))
    | some close =>
        let value ← slice rest 4 close
        return (.comment value, start + close + 3)
  else if ['<', '!'].isPrefixOf rest then
    let close := (find? ['>'] rest).getD (Text.byteLength rest)
    let value ← slice rest 2 close
    return (.comment value, start + min (close + 1) (Text.byteLength rest))
  else if ['<', '/'].isPrefixOf rest then
    let named ← slice rest 2 (Text.byteLength rest)
    let name := named.takeWhile isEndNamePart
    match find? ['>'] rest with
    | none => throw (.fault (.openEndTag start))
    | some close =>
        if name.isEmpty then
          throw (.fault (.namelessEndTag start))
        else
          return (.closing name, start + close + 1)
  else if ['<'].isPrefixOf rest then
    match ← openTag source stop start with
    | some (tag, behind) => opened source stop tag behind
    | none =>
        let value ← text rest 1
        return (.text value, start + Text.byteLength value)
  else
    let value ← text rest 0
    return (.text value, start + Text.byteLength value)

/-- Go on with the token at an offset. -/
def tokenRound (locate : Nat → Position) (start : Nat) (draft : Draft) :
    Except Halt (Round Draft Draft) := do
  if start < stop then
    let (read, behind) ← token source stop start
    match draft.add locate start read with
    | .ok draft => return .next behind draft
    | .error fault => throw (.fault fault)
  else
    return .done draft

end Tokens

/-- The tree of a template between two offsets of its file. -/
def parse (source : List Char) (start stop : Nat) :
    Except Halt (List Node) := do
  let stop := min stop (Text.byteLength source)
  let locate := (LineIndex.ofText source).location
  let draft ← loop stop (tokenRound source stop locate) start Draft.empty
  match draft.finish with
  | .ok nodes => return nodes
  | .error fault => throw (.fault fault)

/-! ## Blocks -/

/-- A block whose body is given by its offsets. -/
structure Span where
  kind : String
  attributes : List TagAttribute
  start : Nat
  stop : Nat
deriving Repr, DecidableEq

namespace Span

/-- The offsets of a block. -/
def ofBlock (block : Block) : Span where
  kind := block.kind
  attributes := block.attributes
  start := block.start
  stop := block.stop

/-- Whether the block is the template of its file. -/
def isTemplate (span : Span) : Bool :=
  span.kind = "template"

/-- Whether the body is plain markup. -/
def isMarkup (span : Span) : Bool :=
  match span.attributes.find? fun given => given.name == "lang" with
  | none => true
  | some lang =>
      match lang.value with
      | none => true
      | some value => value = "html"

end Span

/-- A character that may follow the name of a tag. -/
def endsName (character : Char) : Bool :=
  character = '>' || character = '/' || Text.isAsciiBlank character

/-- Whether a text starts with this opening of a tag, and the name ends
there. -/
def startsTag (opening text : List Char) : Except Halt Bool := do
  if opening.isPrefixOf text then
    let rest ← slice text (Text.byteLength opening) (Text.byteLength text)
    return Text.stands endsName (Text.bytes rest) 0
  else
    return false

section Blocks

variable (source : List Char)

/-- The offset of the next bracket. -/
def bracketFrom (start : Nat) : Except Halt (Option Nat) := do
  let rest ← slice source start (Text.byteLength source)
  return (find? ['<'] rest).map (start + ·)

/-- Go on with what a bracket opens in the body of a template in which some
template elements are open. -/
def bodyBracket (place depth : Nat) :
    Except Halt (Round Nat (Option (Nat × Nat))) := do
  let rest ← slice source place (Text.byteLength source)
  if commentOpening.isPrefixOf rest then
    match find? commentClosing rest with
    | some close => return .next (place + close + 3) depth
    | none => return .done none
  else if ← startsTag "</template".toList rest then
    match find? ['>'] rest with
    | none => return .done none
    | some close =>
        let behind := place + close + 1
        if depth = 1 then
          return .done (some (place, behind))
        else
          return .next behind (depth - 1)
  else if ← startsTag "<template".toList rest then
    match openTag source (Text.byteLength source) place with
    | .error .broken => throw .broken
    | .error (.fault _) => return .done none
    | .ok none => return .done none
    | .ok (some (tag, behind)) =>
        return .next behind (if tag.selfClosing then depth else depth + 1)
  else
    return .next (place + 1) depth

/-- Go on with the body of a template. -/
def bodyRound (start depth : Nat) :
    Except Halt (Round Nat (Option (Nat × Nat))) := do
  match ← bracketFrom source start with
  | none => return .done none
  | some place => bodyBracket source place depth

/-- The offset behind the body of a block, and the one behind the block. -/
def bodyEnds (tag : OpenTag) (start : Nat) : Except Halt (Nat × Nat) := do
  if tag.selfClosing then
    return (start, start)
  else if tag.name = "template" then
    match ← loop (Text.byteLength source) (bodyRound source) start 1 with
    | some ends => return ends
    | none => throw (.fault (.missingEndTag "template"))
  else
    match ← endTag source tag.name.toList (Text.byteLength source) start with
    | none => throw (.fault (.missingEndTag tag.name))
    | some close =>
        let after ← behindEnd source (Text.byteLength source) close
        return (close, after)

/-- Go on with what a bracket opens between blocks; the blocks so far are
given. -/
def blockBracket (place : Nat) (given : List Span) :
    Except Halt (Round (List Span) (List Span)) := do
  let rest ← slice source place (Text.byteLength source)
  if commentOpening.isPrefixOf rest then
    match find? commentClosing rest with
    | some close => return .next (place + close + 3) given
    | none => throw (.fault (.openComment place))
  else
    match ← openTag source (Text.byteLength source) place with
    | none => return .next (place + 1) given
    | some (tag, behind) =>
        let (stop, after) ← bodyEnds source tag behind
        let span : Span := {
          kind := tag.name
          attributes := tag.attributes
          start := behind
          stop }
        if span.isTemplate && given.any Span.isTemplate then
          throw (.fault .secondTemplate)
        else
          return .next after (given ++ [span])

/-- Go on with the next block. -/
def blockRound (start : Nat) (given : List Span) :
    Except Halt (Round (List Span) (List Span)) := do
  match ← bracketFrom source start with
  | none => return .done given
  | some place => blockBracket source place given

/-- The blocks of a component file. -/
def splitBlocks : Except Halt (List Span) :=
  loop (Text.byteLength source) (blockRound source) 0 []

end Blocks

/-! ## Files -/

/-- Carry out one insertion in a text that has grown behind it; one past the end
of the body or inside a character is left out. -/
def insertAt (body : List Char) (insertion : Insertion)
    (grown : List Char) : Except Halt (List Char) :=
  match Text.cutAt? body insertion.offset with
  | none => .ok grown
  | some _ =>
      match Text.cutAt? grown insertion.offset with
      | some (before, after) =>
          .ok (before ++ (insertion.text.toList ++ after))
      | none => .error .broken

/-- Mark the elements of the template between two offsets.  An element in front
of the template would break the marking: its insertion counts from there. -/
def annotateBlock (source : List Char) (options : FileOptions)
    (start stop : Nat) : Except Halt (Option (List Char)) := do
  let nodes ← parse source start stop
  if countNodes options nodes = 0 then
    return none
  else if (Node.elementsAll nodes).any fun element =>
      element.place.offset < start then
    throw .broken
  else
    let filename := options.filename
    let marked := annotateNodes filename options nodes
    let insertions := insertionsOfNodes filename start marked
    let body ← slice source start stop
    let grown ← (Insertion.sorted insertions).foldrM (insertAt body) body
    let before ← slice source 0 start
    let after ← slice source stop (Text.byteLength source)
    return some (before ++ (grown ++ after))

/-- Mark the elements of the template of a component file. -/
def annotateFile (source : List Char) (options : FileOptions) :
    Except Halt (Option (List Char)) := do
  let spans ← splitBlocks source
  match spans.find? Span.isTemplate with
  | none => return none
  | some span =>
      if span.isMarkup then
        annotateBlock source options span.start span.stop
      else
        return none

/-- Mark the elements of the template of a component file, which is left alone
when its markup is faulty. -/
def annotate (source : String) (options : FileOptions) : Annotation := do
  let _ ← options.requireFilename
  match annotateFile source.toList options with
  | .ok code => return code.map String.ofList
  | .error (.fault _) => return none
  | .error .broken => throw .aborted

end Sliced

end Template

end SourceMark
