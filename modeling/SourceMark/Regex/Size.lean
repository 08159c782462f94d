import SourceMark.Regex.Syntax
import SourceMark.Text.CharSet

/-!
# Sizes

To be searched for, an expression is written out as two automata on the bytes of
UTF-8, of which one reads forwards and the other one backwards.  `totalSize`
tells how much memory an automaton takes.
-/

namespace SourceMark

/-!
## Spans of bytes

The UTF-8 forms of a run of characters are few lists of spans: each span tells
which bytes may stand at its place, and any choice gives one of the characters.
-/

namespace Text

/-- The bytes from a first to a last one, for each place of a form. -/
abbrev Spans : Type := List (Nat × Nat)

/-- The forms of all numbers from `low` to `high` that have one leading digit,
which `mark` is added to, and so many digits of six bits behind it. -/
def digitSpans (mark : Nat) : Nat → (low high : Nat) → List Spans
  | 0, low, high => [[(mark + low, mark + high)]]
  | count + 1, low, high =>
      let unit := Nat.pow 64 (count + 1)
      let first := low / unit
      let last := high / unit
      let under := fun lead low high =>
        (digitSpans 0x80 count low high).map ((mark + lead, mark + lead) :: ·)
      if first = last then
        under first (low % unit) (high % unit)
      else
        let startsWhole := low % unit = 0
        let stopsWhole := high % unit = unit - 1
        let start := if startsWhole then first else first + 1
        let stop := if stopsWhole then last + 1 else last
        (if startsWhole then [] else under first (low % unit) (unit - 1)) ++
          (if start < stop then
            (digitSpans 0x80 count 0 (unit - 1)).map
              ((mark + start, mark + (stop - 1)) :: ·)
          else
            []) ++
          (if stopsWhole then [] else under last 0 (high % unit))

/-- The code points whose forms are equally long: the first and the last, the
mark of the leading byte and the number of further bytes. -/
def formLengths : List (Nat × Nat × Nat × Nat) :=
  [(0x0, 0x7F, 0, 0), (0x80, 0x7FF, 0xC0, 1), (0x800, 0xFFFF, 0xE0, 2),
    (0x10000, 0x10FFFF, 0xF0, 3)]

/-- The forms of all code points from `low` to `high`. -/
def codeSpans (low high : Nat) : List Spans :=
  formLengths.flatMap fun (first, last, mark, count) =>
    if max low first ≤ min high last then
      digitSpans mark count (max low first) (min high last)
    else
      []

end Text

/-- The forms of all members of a set. -/
def CharSet.spans (set : CharSet) : List Text.Spans :=
  set.ranges.flatMap fun (low, high) => Text.codeSpans low high

/-! ## Automata -/

namespace Regex

/-- Memory for one state. -/
def stateSize : Nat := 32

/-- Memory for a state that goes on to several ones without reading. -/
def forkSize (count : Nat) : Nat :=
  stateSize + 4 * count

/-- Memory for a state that picks one of several ways by the next byte. -/
def pickSize (count : Nat) : Nat :=
  stateSize + 8 * count

/-- The memory for several parts. -/
def total (sizes : List Nat) : Nat :=
  sizes.foldl (· + ·) 0

/-! ## Sets -/

/-- The forms among some that begin with the same span, for each such span. -/
def commonStarts (forms : List Text.Spans) : List (List Text.Spans) :=
  forms.splitBy fun first second => first.head? == second.head?

/-- What may follow one span of the forms, unless the forms end there. -/
def followers (forms : List Text.Spans) : List (List Text.Spans) :=
  ((commonStarts forms).map fun group => group.map List.tail).filter
    fun rests => rests.any fun rest => !rest.isEmpty

/-- All that may stand between two bytes, down to so many bytes. -/
def nodes : Nat → List (List Text.Spans) → List (List Text.Spans)
  | 0, _ => []
  | depth + 1, level => level ++ nodes depth (level.flatMap followers)

/-- The bytes of the only member of a set. -/
def onlyBytes? (set : CharSet) : Option (List Nat) :=
  match set.ranges with
  | [(first, last)] =>
      if first = last then some (set.spans.flatMap fun form => form.map Prod.fst)
      else none
  | _ => none

/-- Memory for a set.  Forwards, equal rests of forms share their states;
backwards, equal beginnings do. -/
def setSize (isBackward : Bool) (set : CharSet) : Nat :=
  match onlyBytes? set with
  | some bytes => stateSize * bytes.length
  | none =>
      let forms := set.spans
      let nodes := nodes 4 [forms]
      let ways := fun node => (commonStarts node).length
      if set.isAscii then
        stateSize + pickSize forms.length
      else if isBackward then
        forkSize forms.length + stateSize + stateSize * total (nodes.map ways)
      else
        stateSize +
          total (nodes.eraseDups.map fun node => pickSize (ways node))

/-! ## Plain texts -/

/-- The bytes with which texts begin, each once. -/
def firstBytes (texts : List (List Nat)) : List Nat :=
  (texts.filterMap List.head?).eraseDups

/-- What follows the first byte of the texts, for each such byte. -/
def restsOf (texts : List (List Nat)) : List (List (List Nat)) :=
  (firstBytes texts).map fun first =>
    (texts.filter fun text => text.head? == some first).map List.tail

/-- Memory for choosing among plain texts, which share their beginnings.  The
texts behind one that ends here begin anew.  No text may be as long as the
depth. -/
def textsSize : Nat → List (List Nat) → Nat
  | 0, _ => 0
  | depth + 1, texts =>
      let chunks := texts.splitOnP List.isEmpty
      let filled := chunks.filter fun chunk => !chunk.isEmpty
      let pick := fun chunk =>
        match firstBytes chunk with
        | [_] => stateSize
        | bytes => pickSize bytes.length
      let longer := (filled.flatMap restsOf).filter fun rests =>
        rests.any fun text => !text.isEmpty
      forkSize (filled.length + (chunks.length - 1)) + total (filled.map pick) +
        total (longer.map (textsSize depth))

/-! ## Expressions -/

/-- Whether the expression can match the empty text. -/
def canBeEmpty : Regex → Bool
  | empty => true
  | one _ => false
  | anchor _ => true
  | sequence first second => first.canBeEmpty && second.canBeEmpty
  | choice first second => first.canBeEmpty || second.canBeEmpty
  | repeated body least _ => least = 0 || body.canBeEmpty
  | group body => body.canBeEmpty

/-- Whether the expression can match nothing but the empty text. -/
def isAlwaysEmpty : Regex → Bool
  | empty => true
  | one _ => false
  | anchor _ => true
  | sequence first second => first.isAlwaysEmpty && second.isAlwaysEmpty
  | choice first second => first.isAlwaysEmpty && second.isAlwaysEmpty
  | repeated body _ most => most == some 0 || body.isAlwaysEmpty
  | group body => body.isAlwaysEmpty

/-- Memory for repeating a body of the given size. -/
def repeatedSize (body : Nat) (canBeEmpty : Bool) : Nat → Option Nat → Nat
  | 0, none =>
      if canBeEmpty then body + 2 * forkSize 2 + stateSize
      else body + forkSize 2
  | least, none => least * body + forkSize 2
  | 0, some 0 => stateSize
  | 0, some 1 => body + forkSize 2 + stateSize
  | least, some most =>
      if least = most then
        least * body
      else
        (if least = 0 then stateSize else least * body) + stateSize +
          (most - least) * (body + forkSize 2)

/-- What the memory for an expression depends on. -/
structure Shape where
  /-- Whether the expression chooses among branches. -/
  isChoice : Bool
  /-- Memory for the expression or, if it is a choice, for all branches. -/
  memory : Nat
  /-- The set of which it matches one character, if that is all. -/
  set? : Option CharSet
  /-- The texts that it matches, if it only names them. -/
  texts? : Option (List (List Nat))

namespace Shape

/-- An expression that is no choice. -/
def plain (memory : Nat) : Shape :=
  { isChoice := false, memory, set? := none, texts? := none }

/-- Memory for the expression on its own. -/
def size (isBackward : Bool) (shape : Shape) : Nat :=
  if shape.isChoice then
    match shape.set?, shape.texts? with
    | some set, _ => setSize isBackward set
    | none, some texts =>
        let texts := if isBackward then texts.map List.reverse else texts
        let longest := (texts.map List.length).foldl max 0
        stateSize + textsSize (longest + 1) texts
    | none, none => 2 * stateSize + shape.memory
  else
    shape.memory

/-- Memory for the expression as one branch of a choice, or as several ones. -/
def branches (isBackward : Bool) (shape : Shape) : Nat :=
  if shape.isChoice && shape.set?.isNone then shape.memory
  else shape.size isBackward + 4

end Shape

/-- What the memory for an expression depends on. -/
def shape (isBackward : Bool) : Regex → Shape
  | empty => .plain stateSize
  | one set =>
      { isChoice := false
        memory := setSize isBackward set
        set? := some set
        texts? := (onlyBytes? set).map ([·]) }
  | anchor _ => .plain stateSize
  | sequence first second =>
      let first := shape isBackward first
      let second := shape isBackward second
      { isChoice := false
        memory := first.size isBackward + second.size isBackward
        set? := none
        texts? :=
          match first.texts?, second.texts? with
          | some [text], some [rest] => some [text ++ rest]
          | _, _ => none }
  | choice first second =>
      let first := shape isBackward first
      let second := shape isBackward second
      { isChoice := true
        memory := first.branches isBackward + second.branches isBackward
        set? :=
          match first.set?, second.set? with
          | some set, some other => some (set.union other)
          | _, _ => none
        texts? :=
          match first.texts?, second.texts? with
          | some texts, some others => some (texts ++ others)
          | _, _ => none }
  | repeated body least most =>
      let once := body.isAlwaysEmpty
      .plain (repeatedSize ((shape isBackward body).size isBackward)
        body.canBeEmpty
        (if once then min least 1 else least)
        (if once then most.map (min · 1) else most))
  | group body =>
      .plain ((shape isBackward body).size isBackward +
        if isBackward then 0 else 2 * stateSize)

/-- Memory for the whole automaton, which besides the expression finds its start
and its end. -/
def totalSize (isBackward : Bool) (regex : Regex) : Nat :=
  forkSize 2 + stateSize + pickSize 1 + stateSize +
    (shape isBackward (group regex)).size isBackward

/-- The memory that an automaton may take: ten mebibytes. -/
def sizeBound : Nat := 10 * Nat.pow 2 20

/-- Whether both automata fit. -/
def fits (regex : Regex) : Bool :=
  regex.totalSize false ≤ sizeBound && regex.totalSize true ≤ sizeBound

end Regex

end SourceMark
