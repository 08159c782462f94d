import SourceMark.Proofs.Template.Annotation
import SourceMark.Proofs.Template.Choices
import SourceMark.Proofs.Template.Relabelling
import SourceMark.Proofs.Template.SlicedEndTags
import SourceMark.Proofs.Text.Pieces

/-!
# Plain forests

A plain forest is made of texts, interpolations, comments and elements with an
end tag, and none of them holds the mark that ends it.  Written down, it is
read back as the same forest whatever it holds and however deep it is nested,
with every element at the place where it has been written.
-/

namespace SourceMark

/-! ## Searching -/

namespace Cursor

/-- A mark is found behind a text without its first character. -/
theorem find?_of_absent {first : Char} {before : List Char}
    (absent : first ∉ before) (mark later : List Char) (offset : Nat) :
    find? (first :: mark) offset (before ++ ((first :: mark) ++ later)) =
      some (before, {
        rest := (first :: mark) ++ later
        offset := offset + Text.byteLength before }) := by
  induction before generalizing offset with
  | nil => simp [find?, Text.byteLength]
  | cons character before induction =>
      rw [List.mem_cons, not_or] at absent
      obtain ⟨other, further⟩ := absent
      have later := induction further
      simp only [List.cons_append] at later ⊢
      simp [find?, other, later, Text.byteLength, Nat.add_assoc]

end Cursor

namespace Template

/-! ## Forests as they are written -/

/-- An attribute with a value. -/
structure PlainAttribute where
  name : List Char
  value : List Char
deriving Repr, DecidableEq

/-- A forest: nothing, or a node and the forest behind it. -/
inductive Forest where
  | nil
  | text (value : List Char) (later : Forest)
  | interpolation (value : List Char) (later : Forest)
  | comment (value : List Char) (later : Forest)
  | element (tag : List Char) (attributes : List PlainAttribute)
      (children later : Forest)
deriving Repr, DecidableEq

/-- An ASCII letter, an ASCII digit or a hyphen. -/
def isWordPart (character : Char) : Bool :=
  Text.isAsciiLetter character || Text.isAsciiDigit character ||
    character = '-'

/-- A name that is no directive, and a value that does not end early. -/
structure PlainAttribute.IsPlain (given : PlainAttribute) : Prop where
  named : given.name ≠ []
  word : ∀ character ∈ given.name, isWordPart character = true
  undirected : String.ofList given.name ∉ directiveNames
  quoteless : '"' ∉ given.value

/-- The name of a tag: a letter, and letters, digits and hyphens behind it. -/
structure IsTagWord (tag : List Char) : Prop where
  letter : ∃ first ∈ tag.head?, Text.isAsciiLetter first = true
  word : ∀ character ∈ tag, isWordPart character = true

/-- The tag of an element that has children and an end tag. -/
structure IsPlainTag (tag : List Char) : Prop where
  letter : ∃ first ∈ tag.head?, Text.isAsciiLetter first = true
  word : ∀ character ∈ tag, isWordPart character = true
  paired : isVoid (String.ofList tag) = false
  nested : isRaw (String.ofList tag) = false

theorem IsPlainTag.isTagWord {tag : List Char} (named : IsPlainTag tag) :
    IsTagWord tag where
  letter := named.letter
  word := named.word

namespace Forest

def startsWithText : Forest → Bool
  | text _ _ => true
  | _ => false

/-- Nothing in the forest holds a mark that ends it, and no text stands beside
another one. -/
inductive IsPlain : Forest → Prop where
  | nil : IsPlain nil
  | text {value : List Char} {later : Forest} (filled : value ≠ [])
      (markless : '<' ∉ value ∧ '{' ∉ value)
      (apart : later.startsWithText = false) (rest : IsPlain later) :
      IsPlain (text value later)
  | interpolation {value : List Char} {later : Forest} (filled : value ≠ [])
      (trimmed : Text.trim value = value) (markless : '}' ∉ value)
      (rest : IsPlain later) : IsPlain (interpolation value later)
  | comment {value : List Char} {later : Forest}
      (markless : '-' ∉ value ∧ '>' ∉ value) (rest : IsPlain later) :
      IsPlain (comment value later)
  | element {tag : List Char} {attributes : List PlainAttribute}
      {children later : Forest} (named : IsPlainTag tag)
      (plain : ∀ given ∈ attributes, given.IsPlain)
      (inside : IsPlain children) (rest : IsPlain later) :
      IsPlain (element tag attributes children later)

end Forest

def writtenInterpolation (value : List Char) : List Char :=
  '{' :: '{' :: ' ' :: (value ++ [' ', '}', '}'])

def writtenComment (value : List Char) : List Char :=
  '<' :: '!' :: '-' :: '-' :: (value ++ ['-', '-', '>'])

def PlainAttribute.written (given : PlainAttribute) : List Char :=
  ' ' :: (given.name ++ '=' :: '"' :: (given.value ++ ['"']))

def writtenStartTag (tag : List Char) (attributes : List PlainAttribute) :
    List Char :=
  '<' :: (tag ++ (attributes.flatMap PlainAttribute.written ++ ['>']))

def writtenEndTag (tag : List Char) : List Char :=
  '<' :: '/' :: (tag ++ ['>'])

/-- The attribute of a tag. -/
def PlainAttribute.read (given : PlainAttribute) : TagAttribute :=
  TagAttribute.ofText given.name (some given.value)

/-- The opening tag of an element that has an end tag. -/
def plainTag (tag : List Char) (attributes : List PlainAttribute) :
    OpenTag where
  name := String.ofList tag
  attributes := attributes.map PlainAttribute.read
  selfClosing := false

namespace Forest

/-- The text of a forest. -/
def written : Forest → List Char
  | nil => []
  | text value later => value ++ later.written
  | interpolation value later => writtenInterpolation value ++ later.written
  | comment value later => writtenComment value ++ later.written
  | element tag attributes children later =>
      writtenStartTag tag attributes ++
        (children.written ++ (writtenEndTag tag ++ later.written))

/-- The nodes of a forest that is written at a byte offset. -/
def tree (locate : Nat → Position) (offset : Nat) : Forest → List Node
  | nil => []
  | text value later =>
      .text (String.ofList value) ::
        later.tree locate (offset + Text.byteLength value)
  | interpolation value later =>
      .interpolation (String.ofList value) ::
        later.tree locate
          (offset + Text.byteLength (writtenInterpolation value))
  | comment value later =>
      .comment (String.ofList value) ::
        later.tree locate (offset + Text.byteLength (writtenComment value))
  | element tag attributes children later =>
      let inside := offset + Text.byteLength (writtenStartTag tag attributes)
      let ended := inside + Text.byteLength children.written
      .element (String.ofList tag) (attributes.map PlainAttribute.read)
          { offset, position := locate offset } false
          (children.tree locate inside) ::
        later.tree locate (ended + Text.byteLength (writtenEndTag tag))

/-- The parts that the tags of a forest nest in. -/
def parts (offset : Nat) : Forest → List Part
  | nil => []
  | text value later =>
      .single offset (.text value) ::
        later.parts (offset + Text.byteLength value)
  | interpolation value later =>
      .single offset (.interpolation value) ::
        later.parts (offset + Text.byteLength (writtenInterpolation value))
  | comment value later =>
      .single offset (.comment value) ::
        later.parts (offset + Text.byteLength (writtenComment value))
  | element tag attributes children later =>
      let inside := offset + Text.byteLength (writtenStartTag tag attributes)
      let ended := inside + Text.byteLength children.written
      .pair offset (plainTag tag attributes) (children.parts inside) ::
        later.parts (ended + Text.byteLength (writtenEndTag tag))

end Forest

/-! ## Words -/

section Words

variable {character : Char}

theorem isTagNamePart_of_isWordPart (word : isWordPart character = true) :
    isTagNamePart character = true :=
  isTagNamePart_of_test (by decide) word

theorem isAttributeNamePart_of_isWordPart (word : isWordPart character = true) :
    isAttributeNamePart character = true := by
  have named := isTagNamePart_of_isWordPart word
  have sign : character ≠ '=' := by
    rintro rfl
    exact absurd word (by decide)
  simp_all [isTagNamePart, isAttributeNamePart]

theorem isEndNamePart_of_isWordPart (word : isWordPart character = true) :
    isEndNamePart character = true := by
  have bracket : character ≠ '>' := by
    rintro rfl
    exact absurd word (by decide)
  have bounds : 45 ≤ character.toNat ∧ character.toNat ≤ 122 := by
    simp only [isWordPart, Text.isAsciiLetter, Text.isAsciiDigit,
      Bool.or_eq_true, Bool.and_eq_true, decide_eq_true_eq, Char.le_def,
      UInt32.le_iff_toNat_le] at word
    rcases word with ((lower | upper) | digit) | rfl
    · have low : 97 ≤ character.toNat := lower.1
      have high : character.toNat ≤ 122 := lower.2
      omega
    · have low : 65 ≤ character.toNat := upper.1
      have high : character.toNat ≤ 90 := upper.2
      omega
    · have low : 48 ≤ character.toNat := digit.1
      have high : character.toNat ≤ 57 := digit.2
      omega
    · decide
  have visible : Text.isBlank character = false := by
    apply Bool.eq_false_iff.mpr
    intro blank
    simp only [Text.isBlank, Text.blankRanges, List.any_cons, List.any_nil,
      Bool.or_eq_true, Bool.and_eq_true, decide_eq_true_eq, Bool.or_false]
      at blank
    omega
  simp [isEndNamePart, visible, bracket]

end Words

/-! ## Elements behind others -/

namespace Node

/-- An element without directives comes behind other nodes as it is. -/
theorem addElement_of_plain {attributes : List PlainAttribute}
    (plain : ∀ given ∈ attributes, given.IsPlain) (tag : String)
    (place : Place) (selfClosing : Bool) (children nodes : List Node) :
    addElement tag (attributes.map PlainAttribute.read) place selfClosing
        children nodes =
      .ok (nodes ++ [element tag (attributes.map PlainAttribute.read) place
        selfClosing children]) := by
  have absent : ∀ name ∈ directiveNames,
      findAttribute? (attributes.map PlainAttribute.read) name = none := by
    intro name directive
    rw [findAttribute?, List.find?_eq_none]
    intro given member
    obtain ⟨ordinary, inside, rfl⟩ := List.mem_map.mp member
    have undirected := (plain ordinary inside).undirected
    intro same
    have named : String.ofList ordinary.name = name := by
      simpa [PlainAttribute.read, TagAttribute.ofText] using same
    exact undirected (named ▸ directive)
  have free : ∀ name ∈ directiveNames,
      directive? (attributes.map PlainAttribute.read) name = none := by
    intro name directive
    rw [directive?, absent name directive, Option.map_none]
  simp [addElement, withRepetition, free "v-for" (by decide),
    free "v-if" (by decide), free "v-else-if" (by decide),
    absent "v-else" (by decide)]

end Node

/-! ## Reading what is written -/

/-- A text is one token in front of another text. -/
def Token.Spells (token : Token) (text later : List Char) : Prop :=
  ∀ offset, tokens offset (text ++ later) =
    (offset, token) :: tokens (offset + Text.byteLength text) later

section Spelling

variable {value later : List Char}

theorem spells_of_step {token : Token} {first : Char} {rest : List Char}
    (taken : ∀ offset, step first (rest ++ later) offset = (token, {
      rest := later
      offset := offset + Text.byteLength (first :: rest) })) :
    token.Spells (first :: rest) later :=
  fun offset => tokens_cons (taken offset)

theorem spells_text (filled : value ≠ [])
    (markless : '<' ∉ value ∧ '{' ∉ value)
    (stops : ∀ character ∈ later.head?, isPlain character = false) :
    (Token.text value).Spells value later := by
  have plain : ∀ character ∈ value, isPlain character = true := by
    intro character member
    have bracket : character ≠ '<' := fun same => markless.1 (same ▸ member)
    have brace : character ≠ '{' := fun same => markless.2 (same ▸ member)
    simp [isPlain, bracket, brace]
  cases value with
  | nil => exact absurd rfl filled
  | cons first rest =>
      refine spells_of_step fun offset => ?_
      have silent : opensMarkup first (rest ++ later).head? = false := by
        have here := plain first List.mem_cons_self
        simp_all [isPlain, opensMarkup]
      have run := Cursor.takeWhile_append
        (fun character member =>
          plain character (List.mem_cons_of_mem _ member))
        stops (offset + first.utf8Size)
      rw [step_eq_textStep silent, textStep, run]
      simp only [Text.byteLength, Nat.add_assoc]

theorem spells_interpolation (trimmed : Text.trim value = value)
    (markless : '}' ∉ value) :
    (Token.interpolation value).Spells (writtenInterpolation value) later := by
  refine spells_of_step fun offset => ?_
  have absent : '}' ∉ '{' :: '{' :: ' ' :: (value ++ [' ']) := by
    simp [markless]
  have found := Cursor.find?_of_absent absent ['}'] later offset
  have behind (place : Nat) : Cursor.skip 2
      { rest := '}' :: '}' :: later, offset := place } =
      { rest := later, offset := place + Text.byteLength ['}', '}'] } :=
    Cursor.skip_append ['}', '}'] later place
  simp only [List.cons_append, List.append_assoc, List.nil_append] at found ⊢
  rw [step_interpolation, interpolationStep, found]
  have space : Text.isBlankText [' '] = true := by decide
  have inner : Text.trim (' ' :: (value ++ [' '])) = value :=
    (Text.trim_between_blanks space space value).trans trimmed
  simp only [behind, List.drop_succ_cons, List.drop_zero, inner]
  simp [Text.byteLength, Nat.add_assoc]

/-- The end of a comment is found behind its text, and not in its opening
mark. -/
theorem find?_writtenComment (markless : '-' ∉ value ∧ '>' ∉ value)
    (offset : Nat) :
    Cursor.find? ['-', '-', '>'] offset (writtenComment value ++ later) =
      some ('<' :: '!' :: '-' :: '-' :: value, {
        rest := '-' :: '-' :: '>' :: later
        offset := offset +
          Text.byteLength ('<' :: '!' :: '-' :: '-' :: value) }) := by
  have found (offset : Nat) :=
    Cursor.find?_of_absent markless.1 ['-', '>'] later offset
  -- Neither hyphen of the opening mark starts the closing one.
  have first : ['-', '-', '>'].isPrefixOf
      ('-' :: '-' :: (value ++ '-' :: '-' :: '>' :: later)) = false := by
    cases value with
    | nil => simp [List.isPrefixOf]
    | cons character rest =>
        have bracket : '>' ≠ character := by
          rintro rfl
          exact markless.2 List.mem_cons_self
        simp [List.isPrefixOf, bracket]
  have second : ['-', '-', '>'].isPrefixOf
      ('-' :: (value ++ '-' :: '-' :: '>' :: later)) = false := by
    cases value with
    | nil => simp [List.isPrefixOf]
    | cons character rest =>
        have hyphen : '-' ≠ character := by
          rintro rfl
          exact markless.1 List.mem_cons_self
        simp [List.isPrefixOf, hyphen]
  simp only [writtenComment, List.cons_append, List.append_assoc,
    List.nil_append] at found ⊢
  rw [Cursor.find?, if_neg (by simp), Cursor.find?, if_neg (by simp),
    Cursor.find?, first, Cursor.find?, second, found]
  simp [Text.byteLength, Nat.add_assoc]

theorem spells_comment (markless : '-' ∉ value ∧ '>' ∉ value) :
    (Token.comment value).Spells (writtenComment value) later := by
  refine spells_of_step fun offset => ?_
  have found : Cursor.find? ['-', '-', '>'] offset
      (writtenComment value ++ later) = some (_, _) :=
    find?_writtenComment markless offset
  have behind (place : Nat) : Cursor.skip 3
      { rest := '-' :: '-' :: '>' :: later, offset := place } =
      { rest := later, offset := place + Text.byteLength ['-', '-', '>'] } :=
    Cursor.skip_append ['-', '-', '>'] later place
  simp only [writtenComment, List.cons_append, List.append_assoc,
    List.nil_append] at found ⊢
  rw [step_comment, commentStep, found]
  simp only [behind, List.length_cons]
  rw [if_neg (by omega)]
  simp [Text.byteLength, Nat.add_assoc]

theorem readInside_written {attributes : List PlainAttribute}
    (plain : ∀ given ∈ attributes, given.IsPlain) (tag : String)
    (offset : Nat) :
    readInside tag (.between false) offset
        (attributes.flatMap PlainAttribute.written ++ '>' :: later) =
      .ok (attributes.map PlainAttribute.read, false, {
        rest := later
        offset := offset + Text.byteLength
          (attributes.flatMap PlainAttribute.written ++ ['>']) }) := by
  induction attributes generalizing offset with
  | nil => simp [readInside, TagPlace.move, Text.byteLength]
  | cons given attributes induction =>
      have here := plain given List.mem_cons_self
      have further := induction fun other member =>
        plain other (List.mem_cons_of_mem _ member)
      have read (rest : List Char) :
          readInside tag (.between false) offset (given.written ++ rest) =
            (readInside tag (.between false)
              (offset + Text.byteLength given.written) rest).map
              fun read => (given.read :: read.1, read.2) :=
        readInside_quoted here.named
          (fun character member =>
            isAttributeNamePart_of_isWordPart (here.word character member))
          here.quoteless tag offset rest
      rw [List.flatMap_cons, List.append_assoc, read, further]
      simp [Except.map, Nat.add_assoc]

variable {tag : List Char} {attributes : List PlainAttribute}

theorem readOpenTag_written (named : IsTagWord tag)
    (plain : ∀ given ∈ attributes, given.IsPlain) (offset : Nat) :
    readOpenTag { rest := writtenStartTag tag attributes ++ later, offset } =
      .ok (some (plainTag tag attributes, {
        rest := later
        offset := offset +
          Text.byteLength (writtenStartTag tag attributes) })) := by
  obtain ⟨letter, first, isLetter⟩ := named.letter
  have stops : ∀ character ∈
      (attributes.flatMap PlainAttribute.written ++ '>' :: later).head?,
      isTagNamePart character = false := by
    cases attributes with
    | nil => simp [isTagNamePart]
    | cons given attributes =>
        simp [PlainAttribute.written, isTagNamePart, Text.isAsciiBlank]
  have run := Cursor.takeWhile_append
    (fun character member =>
      isTagNamePart_of_isWordPart (named.word character member))
    stops (offset + 1)
  cases tag with
  | nil => simp at first
  | cons head rest =>
      obtain rfl : head = letter := by simpa using first
      simp only [writtenStartTag, List.cons_append, List.append_assoc,
        List.nil_append] at run ⊢
      simp only [readOpenTag, isLetter, if_true, run,
        readInside_written plain]
      have bracket : '<'.utf8Size = 1 := rfl
      simp [plainTag, Text.byteLength, Nat.add_assoc, bracket]

/-- A written tag is read, and then what follows a tag. -/
theorem step_startTag (named : IsTagWord tag)
    (plain : ∀ given ∈ attributes, given.IsPlain) (offset : Nat) :
    step '<' (tag ++ (attributes.flatMap PlainAttribute.written ++ ['>']) ++
        later) offset =
      openedStep (plainTag tag attributes) {
        rest := later
        offset := offset +
          Text.byteLength (writtenStartTag tag attributes) } := by
  have read : readOpenTag
      { rest := writtenStartTag tag attributes ++ later, offset } = _ :=
    readOpenTag_written named plain offset
  obtain ⟨letter, first, isLetter⟩ := named.letter
  cases tag with
  | nil => simp at first
  | cons head rest =>
      obtain rfl : head = letter := by simpa using first
      simp only [writtenStartTag, List.cons_append] at read ⊢
      rw [step_bracket isLetter, bracketStep, read]

theorem spells_startTag (named : IsTagWord tag)
    (nested : isRaw (String.ofList tag) = false)
    (plain : ∀ given ∈ attributes, given.IsPlain) :
    (Token.opening (plainTag tag attributes)).Spells
      (writtenStartTag tag attributes) later := by
  refine spells_of_step fun offset => ?_
  have textless : (plainTag tag attributes).selfClosing = false ∧
      isRaw (plainTag tag attributes).name = false := ⟨rfl, nested⟩
  rw [step_startTag named plain]
  exact openedStep_opening (by simp [textless]) _

/-- The end of a tag is found behind its name. -/
theorem find?_writtenEndTag (named : IsTagWord tag) (offset : Nat) :
    Cursor.find? ['>'] offset (writtenEndTag tag ++ later) =
      some ('<' :: '/' :: tag, {
        rest := '>' :: later
        offset := offset + Text.byteLength ('<' :: '/' :: tag) }) := by
  have absent : '>' ∉ '<' :: '/' :: tag := by
    intro member
    have inside : '>' ∈ tag := by simpa using member
    exact absurd (named.word _ inside) (by decide)
  have found := Cursor.find?_of_absent absent [] later offset
  simpa only [writtenEndTag, List.cons_append, List.append_assoc,
    List.nil_append] using found

theorem spells_endTag (named : IsTagWord tag) :
    (Token.closing tag).Spells (writtenEndTag tag) later := by
  refine spells_of_step fun offset => ?_
  have filled : tag ≠ [] := by
    rintro rfl
    simpa using named.letter
  have found : Cursor.find? ['>'] offset (writtenEndTag tag ++ later) = _ :=
    find?_writtenEndTag named offset
  have behind (place : Nat) : Cursor.skip 1
      { rest := '>' :: later, offset := place } =
      { rest := later, offset := place + Text.byteLength ['>'] } :=
    Cursor.skip_append ['>'] later place
  have name : (tag ++ '>' :: later).takeWhile isEndNamePart = tag := by
    rw [List.takeWhile_append_of_pos fun character member =>
      isEndNamePart_of_isWordPart (named.word character member)]
    simp [isEndNamePart]
  simp only [writtenEndTag, List.cons_append, List.append_assoc,
    List.nil_append] at found ⊢
  rw [step_endTag, endTagStep]
  simp [found, behind, name, filled, Text.byteLength, Nat.add_assoc]

/-! ## Bodies of text -/

/-- A mark without a bracket does not reach over one. -/
theorem isPrefix_of_absent {mark : List Char} {bracket : Char}
    (absent : bracket ∉ mark)
    (leads : mark <+: value ++ bracket :: later) : mark <+: value := by
  obtain ⟨rest, whole⟩ := leads
  rcases List.append_eq_append_iff.mp whole with
    ⟨more, inside, _⟩ | ⟨more, inside, behind⟩
  · exact ⟨more, inside.symm⟩
  · cases more with
    | nil => exact ⟨[], by simpa using inside⟩
    | cons head more =>
        obtain ⟨rfl, -⟩ := by simpa using behind
        exact absurd (by simp [inside]) absent

theorem notMem_of_isTagWord (named : IsTagWord tag) : '<' ∉ Text.lowerAscii tag := by
  rw [mem_lowerAscii_iff (by decide)]
  intro member
  exact absurd (named.word _ member) (by decide)

theorem startsEndTag_written (tag later : List Char) :
    startsEndTag tag (writtenEndTag tag ++ later) = true := by
  simp [writtenEndTag, startsEndTag, Text.sameIgnoringCase]

/-- A body of text that does not hold the mark of its end tag ends at that
tag. -/
theorem findEndTag?_written (named : IsTagWord tag) {body : List Char}
    (markless : ¬ Sliced.endMark tag <:+: Text.lowerAscii body)
    (later : List Char) (offset : Nat) :
    findEndTag? tag offset (body ++ (writtenEndTag tag ++ later)) =
      some (body, {
        rest := writtenEndTag tag ++ later
        offset := offset + Text.byteLength body }) := by
  induction body generalizing offset with
  | nil =>
      exact Sliced.findEndTagBehind?_here (startsEndTag_written tag later)
  | cons character body induction =>
      have unmarked : startsEndMark tag
          (character :: (body ++ (writtenEndTag tag ++ later))) = false := by
        rw [← Sliced.isPrefixOf_endMark, Bool.eq_false_iff, ne_eq,
          List.isPrefixOf_iff_prefix]
        intro leads
        have shape : Text.lowerAscii
              (character :: (body ++ (writtenEndTag tag ++ later))) =
            character.toLower :: (Text.lowerAscii body ++
              '<' :: Text.lowerAscii ('/' :: (tag ++ ['>']) ++ later)) := by
          rw [← List.cons_append, Text.lowerAscii_append, Text.lowerAscii_append]
          simp [Text.lowerAscii, writtenEndTag]
        rw [shape, Sliced.endMark, List.cons_prefix_cons] at leads
        have absent : '<' ∉ '/' :: Text.lowerAscii tag := by
          simp [notMem_of_isTagWord named]
        have inside := isPrefix_of_absent absent leads.2
        refine markless (List.IsPrefix.isInfix ?_)
        exact List.cons_prefix_cons.mpr ⟨leads.1, inside⟩
      have untagged : startsEndTag tag
          (character :: (body ++ (writtenEndTag tag ++ later))) = false :=
        Bool.eq_false_iff.mpr fun starts =>
          Bool.eq_false_iff.mp unmarked
            (Sliced.startsEndMark_of_startsEndTag starts)
      have further := induction
        (fun inside => markless (List.infix_cons inside))
        (offset + character.utf8Size)
      rw [findEndTag?] at further ⊢
      rw [List.cons_append, Sliced.findEndTagBehind?_cons untagged, unmarked,
        if_neg Bool.false_ne_true, further]
      simp [Text.byteLength, Nat.add_assoc]

theorem behindBracket_written (named : IsTagWord tag) (later : List Char)
    (offset : Nat) :
    behindBracket { rest := writtenEndTag tag ++ later, offset } =
      { rest := later
        offset := offset + Text.byteLength (writtenEndTag tag) } := by
  have behind (place : Nat) : Cursor.skip 1
      { rest := '>' :: later, offset := place } =
      { rest := later, offset := place + Text.byteLength ['>'] } :=
    Cursor.skip_append ['>'] later place
  have wide : Text.byteLength (writtenEndTag tag) =
      Text.byteLength ('<' :: '/' :: tag) + Text.byteLength ['>'] := by
    rw [← Text.byteLength_append]
    rfl
  simp only [behindBracket, find?_writtenEndTag named, behind, wide,
    Nat.add_assoc]
end Spelling

/-! ## Reading a forest -/

namespace Forest

variable {forest : Forest}

/-- A text ends where a forest that starts otherwise begins. -/
theorem head?_written (starts : forest.startsWithText = false)
    {later : List Char}
    (stops : ∀ character ∈ later.head?, Template.isPlain character = false) :
    ∀ character ∈ (forest.written ++ later).head?,
      Template.isPlain character = false := by
  have brace : Template.isPlain '{' = false := by decide
  have bracket : Template.isPlain '<' = false := by decide
  cases forest with
  | nil => exact stops
  | text value rest => simp [startsWithText] at starts
  | interpolation value rest => simp [written, writtenInterpolation, brace]
  | comment value rest => simp [written, writtenComment, bracket]
  | element tag attributes children rest =>
      simp [written, writtenStartTag, bracket]

/-- The tags of a forest nest in its parts, whatever is written behind it that
ends a text. -/
theorem IsPlain.tokens_written (plain : forest.IsPlain) {later : List Char}
    (stops : ∀ character ∈ later.head?, Template.isPlain character = false)
    (offset : Nat) :
    ∃ entries, Nests entries (forest.parts offset) ∧
      tokens offset (forest.written ++ later) =
        entries ++ tokens (offset + Text.byteLength forest.written) later := by
  induction plain generalizing later offset with
  | nil => exact ⟨[], .nil, rfl⟩
  | @text value rest filled markless apart _ induction =>
      obtain ⟨entries, nests, read⟩ :=
        induction stops (offset + Text.byteLength value)
      have spells := spells_text filled markless (head?_written apart stops)
      refine ⟨(offset, .text value) :: entries, .single rfl nests, ?_⟩
      rw [written, List.append_assoc, spells offset, read,
        Text.byteLength_append, Nat.add_assoc, List.cons_append]
  | @interpolation value rest _ trimmed markless _ induction =>
      obtain ⟨entries, nests, read⟩ := induction stops
        (offset + Text.byteLength (writtenInterpolation value))
      refine ⟨(offset, .interpolation value) :: entries, .single rfl nests, ?_⟩
      rw [written, List.append_assoc,
        spells_interpolation trimmed markless offset, read,
        Text.byteLength_append, Nat.add_assoc, List.cons_append]
  | @comment value rest markless _ induction =>
      obtain ⟨entries, nests, read⟩ := induction stops
        (offset + Text.byteLength (writtenComment value))
      refine ⟨(offset, .comment value) :: entries, .single rfl nests, ?_⟩
      rw [written, List.append_assoc, spells_comment markless offset, read,
        Text.byteLength_append, Nat.add_assoc, List.cons_append]
  | @element tag attributes children rest named plain _ _ inner outer =>
      -- The end tag ends a text that comes last among the children.
      have ended : ∀ character ∈
          (writtenEndTag tag ++ (rest.written ++ later)).head?,
          Template.isPlain character = false := by
        simp [writtenEndTag, Template.isPlain]
      obtain ⟨inside, nestsInside, readInside⟩ := inner ended
        (offset + Text.byteLength (writtenStartTag tag attributes))
      obtain ⟨entries, nests, read⟩ := outer stops (offset +
        Text.byteLength (writtenStartTag tag attributes) +
        Text.byteLength children.written +
        Text.byteLength (writtenEndTag tag))
      have left : ((plainTag tag attributes).selfClosing ||
          isVoid (plainTag tag attributes).name) = false := named.paired
      have same : Text.sameIgnoringCase (plainTag tag attributes).name.toList
          tag = true := by
        simp [plainTag, Text.sameIgnoringCase]
      let place := offset +
        Text.byteLength (writtenStartTag tag attributes) +
        Text.byteLength children.written
      refine ⟨(offset, .opening (plainTag tag attributes)) ::
        (inside ++ (place, .closing tag) :: entries),
        .pair left nestsInside same nests, ?_⟩
      rw [written, List.append_assoc, List.append_assoc, List.append_assoc,
        spells_startTag named.isTagWord named.nested plain offset, readInside,
        spells_endTag named.isTagWord, read]
      simp [place, Nat.add_assoc]

/-- The parts of a forest make its nodes, unless a text would come behind
another one. -/
theorem IsPlain.addAllTo_parts (plain : forest.IsPlain)
    (locate : Nat → Position) {nodes : List Node}
    (apart : forest.startsWithText = true → ¬ Node.EndsInText nodes)
    (offset : Nat) :
    Part.addAllTo locate nodes (forest.parts offset) =
      .ok (nodes ++ forest.tree locate offset) := by
  induction plain generalizing nodes offset with
  | nil => simp [parts, tree, Part.addAllTo]
  | @text value rest filled markless alone _ induction =>
      -- The nodes end in a text now, but no other one follows.
      have behind : rest.startsWithText = true →
          ¬ Node.EndsInText (nodes ++ [.text (String.ofList value)]) := by
        simp [alone]
      rw [parts, Part.addAllTo, Part.addTo, Node.addToken,
        Node.addText_of_not_endsInText (apart rfl) (String.ofList value)]
      simp only [induction behind, tree, List.append_assoc, List.cons_append,
        List.nil_append]
  | @interpolation value rest _ _ _ _ induction =>
      have behind := Node.not_endsInText_concat nodes
        (.interpolation (String.ofList value)) (by simp)
      rw [parts, Part.addAllTo, Part.addTo, Node.addToken]
      simp only [induction fun _ => behind, tree, List.append_assoc,
        List.cons_append, List.nil_append]
  | @comment value rest _ _ induction =>
      have behind := Node.not_endsInText_concat nodes
        (.comment (String.ofList value)) (by simp)
      rw [parts, Part.addAllTo, Part.addTo, Node.addToken]
      simp only [induction fun _ => behind, tree, List.append_assoc,
        List.cons_append, List.nil_append]
  | @element tag attributes children rest _ plain _ _ inner outer =>
      have added := Node.addElement_of_plain plain
      rw [parts, Part.addAllTo, Part.addTo, inner fun _ => Node.not_endsInText_nil]
      simp only [plainTag, added, List.nil_append]
      rw [outer fun _ => Node.not_endsInText_concat nodes _ (by simp)]
      simp only [tree, List.append_assoc, List.cons_append, List.nil_append]

end Forest

/-- A plain forest in a file is read back as it was written. -/
theorem parseRange_of_isPlain {forest : Forest} (plain : forest.IsPlain)
    (before after : List Char) :
    let source := before ++ (forest.written ++ after)
    let start := Text.byteLength before
    parseRange source start (start + Text.byteLength forest.written) =
      .ok (forest.tree (LineIndex.ofText source).location start) := by
  intro source start
  have silent : ∀ character ∈ ([] : List Char).head?,
      isPlain character = false := by simp
  obtain ⟨entries, nests, read⟩ := plain.tokens_written silent start
  have cut : parseRange source start _ = parse _ start forest.written :=
    parseRange_of_cut before forest.written after
  rw [cut]
  refine parse_eq_ok_iff.mpr ⟨forest.parts start, ?_, ?_⟩
  · rw [List.append_nil, tokens, List.append_nil] at read
    rw [read]
    exact nests
  · exact plain.addAllTo_parts _ (fun _ => Node.not_endsInText_nil) start

/-- An element with a text and an interpolation inside, and a comment behind
it. -/
theorem parseRange_of_isPlain_list :
    let given : PlainAttribute :=
      { name := "class".toList, value := "a > b".toList }
    let forest : Forest := .element "ul".toList [given]
      (.text "é ".toList (.interpolation "x".toList .nil))
      (.comment " c ".toList .nil)
    let source := "<template>".toList ++
      (forest.written ++ "</template>".toList)
    let start := Text.byteLength "<template>".toList
    forest.IsPlain ∧
      forest.written =
        "<ul class=\"a > b\">é \x7b\x7b x \x7d\x7d</ul><!-- c -->".toList ∧
      parseRange source start (start + Text.byteLength forest.written) =
        .ok (forest.tree (LineIndex.ofText source).location start) := by
  intro given forest source start
  have plainGiven : given.IsPlain := {
    named := by decide
    word := List.all_eq_true.mp (by decide)
    undirected := by decide
    quoteless := by decide }
  have named : IsPlainTag "ul".toList := {
    letter := ⟨'u', rfl, by decide⟩
    word := List.all_eq_true.mp (by decide)
    paired := by decide +kernel
    nested := by decide +kernel }
  have plain : forest.IsPlain :=
    .element named (by simpa using plainGiven)
      (.text (by decide) (by decide) rfl
        (.interpolation (by decide) (by decide) (by decide) .nil))
      (.comment (by decide) .nil)
  refine ⟨plain, by decide +kernel, ?_⟩
  exact parseRange_of_isPlain plain "<template>".toList "</template>".toList

end Template

end SourceMark
