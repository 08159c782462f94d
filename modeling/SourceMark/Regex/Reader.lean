import SourceMark.Regex.Escape
import SourceMark.Regex.Size

/-!
# Reading regular expressions

A text that is not a regular expression is refused, and so is one that would
become too large or too deep.  Looking around and referring back to a group are not part of
the language.
-/

namespace SourceMark

namespace Regex

/-- Something that was read, and how many brackets, groups and other signs lie
around its innermost part. -/
structure Nested (kind : Type) where
  value : kind
  depth : Nat

namespace Nested

/-- Something with nothing in it. -/
def leaf {kind : Type} (value : kind) : Nested kind :=
  { value, depth := 0 }

/-- The depth of things side by side, which lie in something only if there are
several of them. -/
def depthOf (depths : List Nat) : Nat :=
  depths.foldl max 0 + if depths.length ≤ 1 then 0 else 1

end Nested

/-! ## Sets in brackets -/

/-- Read a set named between colons, of which the bracket has been read. -/
def colonSetAt? (flags : Flags) (text : List Char) :
    Option (Option CharSet × List Char) :=
  match text with
  | ':' :: rest =>
      let isOther := rest.head? == some '^'
      let named := if isOther then rest.drop 1 else rest
      let name := named.takeWhile (· != ':')
      match named.dropWhile (· != ':'), colonSet? (String.ofList name) with
      | ':' :: ']' :: later, some set =>
          some (signed? flags isOther (folded flags set), later)
      | _, _ => none
  | _ => none

/-- Read one member, which is a character or a set. -/
def member? (flags : Flags) : List Char → Option (Atom × List Char)
  | [] => none
  | '\\' :: rest => escape? flags rest
  | character :: rest => some (.character character, rest)

/-- Whether a character may be named as a member; without Unicode it must not
have several bytes. -/
def mayBeMember (flags : Flags) (character : Char) : Bool :=
  flags.has .unicode || character.toNat < 0x80

/-- The set of one member; a condition is no member. -/
def memberSet? (flags : Flags) : Atom → Option CharSet
  | .character value =>
      if mayBeMember flags value then some (.single value) else none
  | .set members => some members
  | .anchor _ => none

/-- The set from one character to another one, which must not come first. -/
def rangeSet? (flags : Flags) : Atom → Atom → Option CharSet
  | .character first, .character last =>
      if first ≤ last && mayBeMember flags last then some (.range first last)
      else none
  | _, _ => none

/-- Read a member or a range of members.  A hyphen in front of the closing
bracket or of another hyphen makes no range. -/
def members? (flags : Flags) (text : List Char) :
    Option (CharSet × List Char) :=
  match member? flags text with
  | none => none
  | some (first, behind) =>
      match flags.skip behind with
      | [] => none
      | '-' :: after =>
          match flags.skip after with
          | [] => none
          | next :: rest =>
              if next = ']' || next = '-' then
                (memberSet? flags first).map fun set => (set, '-' :: after)
              else
                match member? flags (next :: rest) with
                | none => none
                | some (last, later) =>
                    (rangeSet? flags first last).map fun set => (set, later)
      | rest => (memberSet? flags first).map fun set => (set, rest)

/-- What a doubled sign does with the sets on its sides. -/
def setOperation? : List Char → Option (CharSet → CharSet → CharSet)
  | '&' :: '&' :: _ => some CharSet.intersection
  | '-' :: '-' :: _ => some CharSet.difference
  | '~' :: '~' :: _ => some CharSet.symmetricDifference
  | _ => none

/-- What was read of a set: the set on the left of a doubled sign with what the
sign does, and the members behind it. -/
structure SetDraft where
  left : Option (Nested CharSet × (CharSet → CharSet → CharSet))
  members : List (Nested CharSet)

namespace SetDraft

/-- Nothing read yet. -/
def start : SetDraft :=
  { left := none, members := [] }

/-- One more member. -/
def add (draft : SetDraft) (member : Nested CharSet) : SetDraft :=
  { draft with members := member :: draft.members }

/-- The set that was read. -/
def result (flags : Flags) (draft : SetDraft) : Nested CharSet :=
  let right : Nested CharSet :=
    { value := folded flags (.unions (draft.members.map Nested.value))
      depth := Nested.depthOf (draft.members.map Nested.depth) }
  match draft.left with
  | none => right
  | some (left, operation) =>
      { value := operation left.value right.value
        depth := max left.depth right.depth + 1 }

/-- Go on behind a doubled sign. -/
def operate (flags : Flags) (draft : SetDraft)
    (operation : CharSet → CharSet → CharSet) : SetDraft :=
  { left := some (draft.result flags, operation), members := [] }

/-- The set in brackets, or of all other characters. -/
def closed? (flags : Flags) (isOther : Bool) (draft : SetDraft) :
    Option (Nested CharSet) :=
  let set := draft.result flags
  (signed? flags isOther set.value).map fun value =>
    { value, depth := set.depth + 1 }

/-- Read the leading hyphens, and the closing bracket when it comes first:
these are members. -/
def leading (flags : Flags) (draft : SetDraft) : List Char →
    SetDraft × List Char
  | [] => (draft, [])
  | character :: rest =>
      if character = '-' then
        leading flags (draft.add (.leaf (.single '-'))) rest
      else if flags.has .extended && Text.isBlank character then
        leading flags draft rest
      else if character = ']' && draft.members.isEmpty then
        (draft.add (.leaf (.single ']')), rest)
      else
        (draft, character :: rest)

end SetDraft

/-- Read the beginning of a set of which the opening bracket has been read:
whether all other characters are meant, and the leading members. -/
def setStart (flags : Flags) (text : List Char) :
    Bool × SetDraft × List Char :=
  match flags.skip text with
  | '^' :: rest => (true, SetDraft.leading flags .start (flags.skip rest))
  | other => (false, SetDraft.leading flags .start other)

/-- Read the members up to the closing bracket. -/
def setBody? (flags : Flags) : Nat → SetDraft → List Char →
    Option (SetDraft × List Char)
  | 0, _, _ => none
  | fuel + 1, draft, text =>
      let text := flags.skip text
      match setOperation? text with
      | some operation =>
          setBody? flags fuel (draft.operate flags operation) (text.drop 2)
      | none =>
          match text with
          | [] => none
          | ']' :: rest => some (draft, rest)
          | '[' :: rest =>
              match colonSetAt? flags rest with
              | some (some set, later) =>
                  setBody? flags fuel (draft.add (.leaf set)) later
              | some (none, _) => none
              | none =>
                  let (isOther, started, inner) := setStart flags rest
                  match setBody? flags fuel started inner with
                  | none => none
                  | some (nested, later) =>
                      match nested.closed? flags isOther with
                      | some set => setBody? flags fuel (draft.add set) later
                      | none => none
          | other =>
              match members? flags other with
              | some (set, later) =>
                  setBody? flags fuel (draft.add (.leaf set)) later
              | none => none

/-- Read a set of which the opening bracket has been read. -/
def bracketSet? (flags : Flags) (text : List Char) :
    Option (Nested CharSet × List Char) :=
  let (isOther, started, inner) := setStart flags text
  match setBody? flags (text.length + 1) started inner with
  | some (draft, later) =>
      (draft.closed? flags isOther).map fun set => (set, later)
  | none => none

/-! ## Repetitions -/

/-- One more than the largest count of a repetition. -/
def countBound : Nat := Nat.pow 2 32

/-- Read a count with blanks around it; no digit gives no count. -/
def count? (flags : Flags) (text : List Char) :
    Option (Option Nat × List Char) :=
  let started := Text.trimStart text
  let digits := started.takeWhile fun character =>
    Text.isAsciiDigit character ||
      (flags.has .extended && Text.isBlank character)
  let rest := Text.trimStart (started.drop digits.length)
  let digits := digits.filter Text.isAsciiDigit
  if digits.isEmpty then
    some (none, rest)
  else if Text.digitsValue digits < countBound then
    some (some (Text.digitsValue digits), rest)
  else
    none

/-- Read the counts of a repetition of which the opening brace has been
read. -/
def counts? (flags : Flags) (text : List Char) :
    Option ((Nat × Option Nat) × List Char) :=
  match count? flags (flags.skip text) with
  | none => none
  | some (least, rest) =>
      match least, rest with
      | some least, '\x7d' :: later => some ((least, some least), later)
      | some least, ',' :: after =>
          match flags.skip after with
          | '\x7d' :: later => some ((least, none), later)
          | other =>
              match count? flags other with
              | some (some most, '\x7d' :: later) =>
                  if least ≤ most then some ((least, some most), later)
                  else none
              | _ => none
      | _, _ => none

/-- The text behind the question mark of a repetition that prefers fewer. -/
def skipLazy : List Char → List Char
  | '?' :: rest => rest
  | text => text

/-! ## Groups and the whole expression -/

/-- Whether the inside of a group begins by looking around. -/
def looksAround (text : List Char) : Bool :=
  ["?=", "?!", "?<=", "?<!"].any fun sign => sign.toList.isPrefixOf text

/-- Whether the name of a group may begin with the character. -/
def isNameStart (character : Char) : Bool :=
  character = '_' ||
    (Unicode.namedMembers? "alphabetic").any fun set => set.contains character

/-- Whether the character may stand inside the name of a group. -/
def isNamePart (character : Char) : Bool :=
  isNameStart character || character = '.' || character = '[' ||
    character = ']' ||
    (Unicode.namedMembers? "number").any fun set => set.contains character

/-- Read the name of a group up to the closing angle bracket. -/
def groupName? (text : List Char) : Option (List Char × List Char) :=
  let name := text.takeWhile (· != '>')
  match name, text.dropWhile (· != '>') with
  | first :: others, _ :: later =>
      if isNameStart first && others.all isNamePart then some (name, later)
      else none
  | _, _ => none

/-- How a group begins. -/
inductive GroupStart where
  | plain
  | named (name : List Char)
  /-- The group has flags of its own. -/
  | flagged (flags : Flags)
  /-- There is no group: the flags hold from here on. -/
  | flags (flags : Flags)

/-- Read how a group begins of which the parenthesis has been read. -/
def groupStart? (flags : Flags) (text : List Char) :
    Option (GroupStart × List Char) :=
  if looksAround text then
    none
  else
    match text with
    | '?' :: 'P' :: '<' :: rest | '?' :: '<' :: rest =>
        (groupName? rest).map fun (name, later) => (.named name, later)
    | '?' :: rest =>
        match flags.read? [] false false rest with
        | some (changed, _, ':', later) => some (.flagged changed, later)
        | some (changed, true, _, later) => some (.flags changed, later)
        | _ => none
    | other => some (.plain, other)

/-- The expression for a character. -/
def literal (flags : Flags) (character : Char) : Regex :=
  .one (folded flags (.single character))

/-- The expression for an atom. -/
def ofAtom (flags : Flags) : Atom → Regex
  | .character value => literal flags value
  | .set members => .one members
  | .anchor condition => .anchor condition

/-- The expression for a dot, which without Unicode would match parts of
characters. -/
def dot? (flags : Flags) : Option Regex :=
  if !flags.has .unicode then none
  else if flags.has .dotAll then some (.one .all)
  else if flags.has .crlf then
    some (.one (.complement (.union (.single '\n') (.single '\r'))))
  else some (.one (.complement (.single '\n')))

/-- The anchor for a caret. -/
def caret (flags : Flags) : Anchor :=
  if flags.has .multiLine then .lineStart (flags.has .crlf) else .textStart

/-- The anchor for a dollar sign. -/
def dollar (flags : Flags) : Anchor :=
  if flags.has .multiLine then .lineStop (flags.has .crlf) else .textStop

/-- Read an expression that is no group. -/
def atom? (flags : Flags) : List Char → Option (Nested Regex × List Char)
  | [] => none
  | '\\' :: rest =>
      (escape? flags rest).map fun (atom, later) =>
        (.leaf (ofAtom flags atom), later)
  | '.' :: rest => (dot? flags).map fun regex => (.leaf regex, rest)
  | '^' :: rest => some (.leaf (.anchor (caret flags)), rest)
  | '$' :: rest => some (.leaf (.anchor (dollar flags)), rest)
  | '[' :: rest =>
      (bracketSet? flags rest).map fun (set, later) =>
        ({ value := .one set.value, depth := set.depth }, later)
  | character :: rest => some (.leaf (literal flags character), rest)

/-- Read a sign of repetition: the counts and what follows it. -/
def repetition? (flags : Flags) : List Char →
    Option ((Nat × Option Nat) × List Char)
  | '*' :: rest => some ((0, none), skipLazy rest)
  | '+' :: rest => some ((1, none), skipLazy rest)
  | '?' :: rest => some ((0, some 1), skipLazy rest)
  | '\x7b' :: rest =>
      (counts? flags rest).map fun (counts, later) =>
        (counts, skipLazy (flags.skip later))
  | _ => none

/-- Whether the text begins with a sign of repetition. -/
def beginsRepetition : List Char → Bool
  | character :: _ =>
      character = '*' || character = '+' || character = '?' ||
        character = '\x7b'
  | [] => false

/-- What was read of an expression: the branches and the parts of the last one,
both backwards.  A part that only sets flags has no expression. -/
structure Draft where
  branches : List (Nested Regex)
  parts : List (Nested (Option Regex))
  /-- The names of all groups so far. -/
  names : List (List Char)

namespace Draft

/-- Nothing read yet but the names of groups. -/
def start (names : List (List Char)) : Draft :=
  { branches := [], parts := [], names }

/-- One more part. -/
def add (draft : Draft) (part : Nested (Option Regex)) : Draft :=
  { draft with parts := part :: draft.parts }

/-- One more expression as a part. -/
def addRegex (draft : Draft) (part : Nested Regex) : Draft :=
  draft.add { value := some part.value, depth := part.depth }

/-- The branch that the parts make up. -/
def branch (draft : Draft) : Nested Regex :=
  { value := sequenceOf (draft.parts.reverse.filterMap Nested.value)
    depth := Nested.depthOf (draft.parts.map Nested.depth) }

/-- Begin another branch. -/
def next (draft : Draft) : Draft :=
  { draft with branches := draft.branch :: draft.branches, parts := [] }

/-- The expression that was read. -/
def regex (draft : Draft) : Nested Regex :=
  let branches := draft.branch :: draft.branches
  { value := choiceOf (branches.reverse.map Nested.value)
    depth := Nested.depthOf (branches.map Nested.depth) }

/-- The expression as a group. -/
def grouped (draft : Draft) (isKept : Bool) : Nested Regex :=
  let inner := draft.regex
  { value := if isKept then .group inner.value else inner.value
    depth := inner.depth + 1 }

/-- Repeat the last part. -/
def repeated? (draft : Draft) (counts : Nat × Option Nat) : Option Draft :=
  match draft.parts with
  | { value := some part, depth } :: parts =>
      some { draft with
        parts := { value := some (.repeated part counts.1 counts.2),
                   depth := depth + 1 } :: parts }
  | _ => none

/-- Take a name for a group; each name may be taken once. -/
def named? (draft : Draft) : GroupStart → Option Draft
  | .named name =>
      if draft.names.contains name then none
      else some { draft with names := name :: draft.names }
  | _ => some draft

end Draft

/-- The flags inside a group that begins like this. -/
def GroupStart.flagsInside (flags : Flags) : GroupStart → Flags
  | flagged changed => changed
  | _ => flags

/-- Whether the place of the group could be asked for. -/
def GroupStart.isKept : GroupStart → Bool
  | plain | named _ => true
  | _ => false

/-- Read up to the end of the text or to a closing parenthesis that has no
partner. -/
def parts? : Nat → Flags → Draft → List Char → Option (Draft × List Char)
  | 0, _, _, _ => none
  | fuel + 1, flags, draft, text =>
      let text := flags.skip text
      if beginsRepetition text then
        match repetition? flags text with
        | none => none
        | some (counts, later) =>
            match draft.repeated? counts with
            | some draft => parts? fuel flags draft later
            | none => none
      else
        match text with
        | [] => some (draft, [])
        | ')' :: _ => some (draft, text)
        | '|' :: rest => parts? fuel flags draft.next rest
        | '(' :: rest =>
            match groupStart? flags (flags.skip rest) with
            | none => none
            | some (.flags changed, later) =>
                parts? fuel changed (draft.add (.leaf none)) later
            | some (start, inner) =>
                match draft.named? start with
                | none => none
                | some draft =>
                    match parts? fuel (start.flagsInside flags)
                        (.start draft.names) inner with
                    | some (inside, ')' :: later) =>
                        parts? fuel flags
                          ({ draft with names := inside.names }.addRegex
                            (inside.grouped start.isKept)) later
                    | _ => none
        | other =>
            match atom? flags other with
            | some (part, later) =>
                parts? fuel flags (draft.addRegex part) later
            | none => none

/-- How deeply the parts of an expression may be nested. -/
def depthBound : Nat := 250

/-- Read a regular expression. -/
def read? (text : List Char) : Option Regex :=
  match parts? (text.length + 1) Flags.standard (.start []) text with
  | some (draft, []) =>
      let read := draft.regex
      if read.depth ≤ depthBound && read.value.fits then some read.value
      else none
  | _ => none

end Regex

end SourceMark
