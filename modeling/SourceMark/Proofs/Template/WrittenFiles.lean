import SourceMark.Proofs.Template.Brackets
import SourceMark.Proofs.Template.PlainForests
import SourceMark.Proofs.Template.Resplitting

/-!
# Files written block by block

A file that is written block by block is split into these blocks again, whatever
their bodies hold: every body is taken as a unit.  The body of a template may
nest template elements, which are counted by their tags alone.  So these tags
have to be spelled as such, and no tag of another element may hold such a mark,
not even in the name of an attribute.
-/

namespace SourceMark

namespace Template

/-! ## Nested bodies -/

/-- An end tag of that name in any case, with blanks behind the name. -/
def IsEndTag (name text : List Char) : Prop :=
  ∃ written blanks, text = '<' :: '/' :: (written ++ (blanks ++ ['>'])) ∧
    Text.sameIgnoringCase written name = true ∧
    ∀ character ∈ blanks, Text.isAsciiBlank character = true

/-- Elements with nested bodies, texts and comments, whose tags fit. -/
inductive Nested (fits : OpenTag → List Char → Prop) : List Char → Prop where
  | nil : Nested fits []
  | text {value later : List Char} (bracketless : '<' ∉ value)
      (rest : Nested fits later) : Nested fits (value ++ later)
  | comment {value later : List Char} (starts : commentOpening <+: value)
      (ends : EndsAtFirst commentClosing value) (rest : Nested fits later) :
      Nested fits (value ++ later)
  | childless {tag : OpenTag} {opening later : List Char}
      (whole : IsOpenTag tag ('<' :: opening))
      (closed : (tag.selfClosing || isVoid tag.name) = true)
      (fit : fits tag ('<' :: opening)) (rest : Nested fits later) :
      Nested fits ('<' :: opening ++ later)
  | element {tag : OpenTag} {opening inner ending later : List Char}
      (whole : IsOpenTag tag ('<' :: opening))
      (left : (tag.selfClosing || isVoid tag.name) = false)
      (ends : IsEndTag tag.name.toList ending)
      (fit : fits tag ('<' :: opening)) (fitEnd : fits tag ending)
      (inside : Nested fits inner) (rest : Nested fits later) :
      Nested fits ('<' :: opening ++ (inner ++ (ending ++ later)))

/-- The tags of a template element are spelled so, and a tag of another element
holds no mark that counts. -/
def IsVisibleTag (tag : OpenTag) (text : List Char) : Prop :=
  if tag.name = "template" then startsPiece text = true
  else holdsPiece text = false

section Balance

variable {depth : Nat} {later : List Char}

theorem balanced_text {value : List Char} (bracketless : '<' ∉ value)
    (balanced : Balanced depth later) : Balanced depth (value ++ later) := by
  induction value with
  | nil => exact balanced
  | cons first rest induction =>
      rw [List.mem_cons, not_or] at bracketless
      exact .character (startsPiece_of_ne (Ne.symm bracketless.1) _)
        (induction bracketless.2)

/-- A tag that holds no mark is passed over. -/
theorem balanced_tag {text : List Char} (plain : holdsPiece text = false)
    (last : text.getLast? = some '>') (balanced : Balanced depth later) :
    Balanced depth (text ++ later) :=
  balanced_append plain (.inl ⟨'>', last, .inl rfl⟩) balanced

variable {tag : OpenTag} {opening ending : List Char}

/-- An opening tag is its name and an inside that ends with a bracket. -/
theorem IsOpenTag.parts (whole : IsOpenTag tag ('<' :: opening)) :
    ∃ inside, opening = tag.name.toList ++ inside ∧
      inside.getLast? = some '>' ∧
      (∃ letter ∈ tag.name.toList.head?, Text.isAsciiLetter letter = true) ∧
      ∀ character ∈ tag.name.toList, isTagNamePart character = true := by
  obtain ⟨behind, read, nothing⟩ := whole
  obtain ⟨inside, last, letter, named, _, reaches, _⟩ := readOpenTag_local read
  have text := reaches.rest
  rw [nothing, List.append_nil] at text
  exact ⟨inside, (List.cons.inj text).2, last, letter, named⟩

theorem IsOpenTag.getLast? (whole : IsOpenTag tag ('<' :: opening)) :
    ('<' :: opening).getLast? = some '>' := by
  obtain ⟨inside, rfl, last, _⟩ := whole.parts
  simp [List.getLast?_cons, last]

theorem IsOpenTag.startsTag_of_startsPiece
    (whole : IsOpenTag tag ('<' :: opening))
    (starts : startsPiece ('<' :: opening) = true) :
    startsTag "<template".toList ('<' :: opening) = true := by
  obtain ⟨inside, rfl, _, ⟨letter, head, isLetter⟩, _⟩ := whole.parts
  obtain ⟨rest, name⟩ := List.head?_eq_some_iff.mp head
  have other : letter ≠ '!' ∧ letter ≠ '/' := by
    constructor
    · rintro rfl
      exact absurd isLetter (by decide)
    · rintro rfl
      exact absurd isLetter (by decide)
  rw [name] at starts ⊢
  simpa [startsPiece, commentOpening, startsTag, List.isPrefixOf,
    Ne.symm other.1, Ne.symm other.2] using starts

theorem IsEndTag.endsAtFirst (whole : IsOpenTag tag ('<' :: opening))
    (ends : IsEndTag tag.name.toList ending) : EndsAtFirst ['>'] ending := by
  obtain ⟨_, _, _, _, named⟩ := whole.parts
  obtain ⟨written, blanks, rfl, same, blank⟩ := ends
  have known : '>' ∉ tag.name.toList := by
    intro member
    exact absurd (named '>' member) (by decide)
  have bracketless : '>' ∉ written :=
    notMem_of_sameIgnoringCase (by decide) same known
  have solid : '>' ∉ blanks := by
    intro member
    exact absurd (blank '>' member) (by decide)
  have absent : '>' ∉ '<' :: '/' :: (written ++ blanks) := by
    simp [bracketless, solid]
  have found := Cursor.find?_of_absent absent [] [] 0
  simp only [List.append_nil, List.cons_append, List.append_assoc] at found
  exact ⟨_, _, found, rfl⟩

theorem IsEndTag.startsTag_of_startsPiece {name : List Char}
    (ends : IsEndTag name ending) (starts : startsPiece ending = true) :
    startsTag "</template".toList ending = true := by
  obtain ⟨written, blanks, rfl, _, _⟩ := ends
  simpa [startsPiece, commentOpening, startsTag, List.isPrefixOf] using starts

/-- A nested body may stand in front of any balanced text. -/
theorem balanced_of_nested {text : List Char}
    (nested : Nested IsVisibleTag text) (balanced : Balanced depth later) :
    Balanced depth (text ++ later) := by
  induction nested generalizing depth later with
  | nil => exact balanced
  | text bracketless _ induction =>
      rw [List.append_assoc]
      exact balanced_text bracketless (induction balanced)
  | comment starts ends _ induction =>
      rw [List.append_assoc]
      exact .plain (.comment starts ends) (induction balanced)
  | @childless tag opening _ whole closed fit _ induction =>
      rw [List.append_assoc]
      by_cases named : tag.name = "template"
      · rw [IsVisibleTag, if_pos named] at fit
        have selfClosing : tag.selfClosing = true := by
          have void : isVoid "template" = false := by decide
          simpa [named, void] using closed
        exact .plain (.childless (whole.startsTag_of_startsPiece fit) whole
          selfClosing) (induction balanced)
      · rw [IsVisibleTag, if_neg named] at fit
        exact balanced_tag fit whole.getLast? (induction balanced)
  | @element tag opening inner ending _ whole left ends fit fitEnd _ _ inside
      behind =>
      rw [List.append_assoc, List.append_assoc, List.append_assoc]
      by_cases named : tag.name = "template"
      · rw [IsVisibleTag, if_pos named] at fit fitEnd
        have selfClosing : tag.selfClosing = false := by
          simp only [Bool.or_eq_false_iff] at left
          exact left.1
        refine .opens (.opening (whole.startsTag_of_startsPiece fit) whole
          selfClosing) (inside ?_)
        exact .closes (.closing (ends.startsTag_of_startsPiece fitEnd)
          (ends.endsAtFirst whole)) (behind balanced)
      · rw [IsVisibleTag, if_neg named] at fit fitEnd
        have last : ending.getLast? = some '>' := by
          obtain ⟨written, blanks, rfl, _, _⟩ := ends
          simp [List.getLast?_cons]
        refine balanced_tag fit whole.getLast? (inside ?_)
        exact balanced_tag fitEnd last (behind balanced)

end Balance

/-! ## Files -/

/-- A block to be written. -/
structure WrittenBlock where
  kind : List Char
  body : List Char
deriving Repr, DecidableEq

namespace WrittenBlock

def isTemplate (block : WrittenBlock) : Bool :=
  String.ofList block.kind = "template"

/-- A body that ends where the block does: a template nests, and any other body
is a text without the mark of its end tag. -/
structure IsWhole (block : WrittenBlock) : Prop where
  named : IsTagWord block.kind
  nested : block.isTemplate = true → Nested IsVisibleTag block.body
  markless : block.isTemplate = false →
    ¬ Sliced.endMark block.kind <:+: Text.lowerAscii block.body

/-- The text of a block. -/
def written (block : WrittenBlock) : List Char :=
  writtenStartTag block.kind [] ++ (block.body ++ writtenEndTag block.kind)

/-- The block, whose text starts at a byte offset. -/
def block (offset : Nat) (given : WrittenBlock) : Block where
  kind := String.ofList given.kind
  attributes := []
  start := offset + Text.byteLength (writtenStartTag given.kind [])
  body := given.body

end WrittenBlock

/-- Blocks with a text in front of each, and a text behind them all. -/
def writtenFile (last : List Char) :
    List (List Char × WrittenBlock) → List Char
  | [] => last
  | (gap, block) :: parts => gap ++ (block.written ++ writtenFile last parts)

/-- The blocks of a file that starts at a byte offset. -/
def writtenBlocks (offset : Nat) :
    List (List Char × WrittenBlock) → List Block
  | [] => []
  | (gap, block) :: parts =>
      block.block (offset + Text.byteLength gap) ::
        writtenBlocks (offset + Text.byteLength (gap ++ block.written)) parts

section Splitting

variable {hasTemplate : Bool} {offset : Nat} {later : List Char}

theorem blocksFrom_gap {gap : List Char} (bracketless : '<' ∉ gap) :
    blocksFrom hasTemplate offset (gap ++ later) =
      blocksFrom hasTemplate (offset + Text.byteLength gap) later := by
  induction gap generalizing offset with
  | nil => rfl
  | cons first rest induction =>
      rw [List.mem_cons, not_or] at bracketless
      rw [List.cons_append, blocksFrom_other (Ne.symm bracketless.1),
        induction bracketless.2, Text.byteLength, Nat.add_assoc]

/-- The body of a whole block is read as it is written. -/
theorem WrittenBlock.IsWhole.readBody_eq {block : WrittenBlock}
    (whole : block.IsWhole) (later : List Char) (offset : Nat) :
    readBody (plainTag block.kind []) {
        rest := block.body ++ (writtenEndTag block.kind ++ later)
        offset } =
      .ok (block.body, {
        rest := later
        offset := offset +
          Text.byteLength (block.body ++ writtenEndTag block.kind) }) := by
  have left : ¬ (plainTag block.kind []).selfClosing = true :=
    Bool.false_ne_true
  rw [readBody, if_neg left]
  cases template : block.isTemplate with
  | true =>
      have named : (plainTag block.kind []).name = "template" :=
        of_decide_eq_true template
      have kind : block.kind = "template".toList := by
        rw [← named, plainTag, String.toList_ofList]
      have balanced := balanced_of_nested (whole.nested template) .nil
      rw [List.append_nil] at balanced
      have closes : BodyPiece.Spells .closes (writtenEndTag block.kind) := by
        rw [kind]
        exact .closing (by decide) ⟨_, _, rfl, rfl⟩
      have found := templateEnd?_of_balanced balanced closes later offset
      have passed : Cursor.Reaches
          { rest := block.body ++ (writtenEndTag block.kind ++ later), offset }
          block.body {
            rest := writtenEndTag block.kind ++ later
            offset := offset + Text.byteLength block.body } := ⟨rfl, rfl⟩
      rw [if_pos named]
      simp only [found, passed.upTo_eq]
  | false =>
      have named : (plainTag block.kind []).name ≠ "template" :=
        of_decide_eq_false template
      have found := findEndTag?_written whole.named (whole.markless template)
        later offset
      rw [if_neg named, plainTag, String.toList_ofList]
      simp only [found, behindBracket_written whole.named,
        Text.byteLength_append, Nat.add_assoc]

/-- A whole block is split off in front of what follows. -/
theorem WrittenBlock.IsWhole.blocksFrom_eq {block : WrittenBlock}
    (whole : block.IsWhole)
    (single : (block.isTemplate && hasTemplate) = false) :
    blocksFrom hasTemplate offset (block.written ++ later) =
      (blocksFrom (hasTemplate || block.isTemplate)
        (offset + Text.byteLength block.written) later).map
          (block.block offset :: ·) := by
  have opens : IsOpenTag (plainTag block.kind [])
      (writtenStartTag block.kind []) := by
    have read := @readOpenTag_written [] block.kind [] whole.named (by simp) 0
    rw [List.append_nil] at read
    exact ⟨_, read, rfl⟩
  have inside := whole.readBody_eq later
    (offset + Text.byteLength (writtenStartTag block.kind []))
  rw [WrittenBlock.written, List.append_assoc, List.append_assoc]
  exact blocksFrom_block opens inside single

/-- Whole blocks are split off one after the other. -/
theorem blocksFrom_writtenFile {last : List Char} (silent : '<' ∉ last)
    (parts : List (List Char × WrittenBlock))
    (whole : ∀ part ∈ parts, '<' ∉ part.1 ∧ part.2.IsWhole)
    (single : hasTemplate.toNat +
      parts.countP (fun part => part.2.isTemplate) ≤ 1) :
    blocksFrom hasTemplate offset (writtenFile last parts) =
      .ok (writtenBlocks offset parts) := by
  induction parts generalizing hasTemplate offset with
  | nil =>
      have nothing := @blocksFrom_gap hasTemplate offset [] last silent
      rw [List.append_nil] at nothing
      rw [writtenFile, nothing, blocksFrom, writtenBlocks]
  | cons part parts induction =>
      obtain ⟨gap, block⟩ := part
      obtain ⟨bracketless, inner⟩ := whole (gap, block) List.mem_cons_self
      rw [List.countP_cons] at single
      obtain ⟨other, rest⟩ := single_iff.mp single
      have further (start : Nat) := @induction _ start
        (fun part member => whole part (List.mem_cons_of_mem _ member)) rest
      rw [writtenFile, blocksFrom_gap bracketless, inner.blocksFrom_eq other,
        further, writtenBlocks, Text.byteLength_append, Nat.add_assoc]
      rfl

end Splitting

/-- A file that is written block by block is split into just these blocks. -/
theorem splitBlocks_writtenFile {last : List Char} (silent : '<' ∉ last)
    (parts : List (List Char × WrittenBlock))
    (whole : ∀ part ∈ parts, '<' ∉ part.1 ∧ part.2.IsWhole)
    (single : parts.countP (fun part => part.2.isTemplate) ≤ 1) :
    splitBlocks (writtenFile last parts) =
      .ok (Blocks.ofList (writtenBlocks 0 parts)) := by
  have split := @blocksFrom_writtenFile false 0 last silent parts whole
    (by simpa using single)
  rw [splitBlocks, split]

/-- A script that holds marks of templates and comments, a template with another
one and a comment inside, and a block of a kind of its own. -/
theorem splitBlocks_writtenFile_mixed :
    let script : WrittenBlock :=
      { kind := "script".toList, body := "</template> <!-- <script>".toList }
    let template : WrittenBlock :=
      { kind := "template".toList
        body := "<template #a>é<br></template><!-- </template> -->".toList }
    let custom : WrittenBlock := { kind := "i18n-x".toList, body := [] }
    let parts := [("é ".toList, script), ([], template), (">".toList, custom)]
    '<' ∉ "\n".toList ∧
      (∀ part ∈ parts, '<' ∉ part.1 ∧ part.2.IsWhole) ∧
      parts.countP (fun part => part.2.isTemplate) ≤ 1 ∧
      splitBlocks (writtenFile "\n".toList parts) = .ok {
        template := some (template.block 45)
        scripts := [script.block 3]
        styles := []
        custom := [custom.block 117] } := by
  intro script template custom parts
  have tag : IsOpenTag { name := "br", attributes := [], selfClosing := false }
      ('<' :: "br>".toList) := ⟨_, rfl, rfl⟩
  have outer : IsOpenTag {
      name := "template"
      attributes := [TagAttribute.ofText "#a".toList none]
      selfClosing := false } ('<' :: "template #a>".toList) := ⟨_, rfl, rfl⟩
  have ends : IsEndTag "template".toList "</template>".toList :=
    ⟨"template".toList, [], rfl, by decide, by simp⟩
  have inner : Nested IsVisibleTag
      ("é".toList ++ ('<' :: "br>".toList ++ [])) :=
    .text (by decide) (.childless tag (by decide +kernel)
      ((if_neg (by decide)).mpr (by decide +kernel)) .nil)
  have behind : Nested IsVisibleTag ("<!-- </template> -->".toList ++ []) :=
    .comment ⟨_, rfl⟩ ⟨_, _, rfl, rfl⟩ .nil
  have nested : Nested IsVisibleTag template.body :=
    .element outer (by decide +kernel) ends
      ((if_pos rfl).mpr (by decide +kernel))
      ((if_pos rfl).mpr (by decide +kernel)) inner behind
  have whole : ∀ part ∈ parts, '<' ∉ part.1 ∧ part.2.IsWhole := by
    intro part member
    simp only [parts, List.mem_cons, List.not_mem_nil, or_false] at member
    rcases member with rfl | rfl | rfl
    · exact ⟨by decide, {
        named := ⟨⟨'s', rfl, by decide⟩, List.all_eq_true.mp (by decide)⟩
        nested := fun other => absurd other (by decide)
        markless := fun _ => by decide +kernel }⟩
    · exact ⟨by decide, {
        named := ⟨⟨'t', rfl, by decide⟩, List.all_eq_true.mp (by decide)⟩
        nested := fun _ => nested
        markless := fun other => absurd other (by decide) }⟩
    · exact ⟨by decide, {
        named := ⟨⟨'i', rfl, by decide⟩, List.all_eq_true.mp (by decide)⟩
        nested := fun other => absurd other (by decide)
        markless := fun _ => by decide +kernel }⟩
  have single : parts.countP (fun part => part.2.isTemplate) ≤ 1 := by
    decide +kernel
  have split := splitBlocks_writtenFile (by decide : '<' ∉ "\n".toList) parts
    whole single
  exact ⟨by decide, whole, single,
    split.trans (congrArg Except.ok (by decide +kernel))⟩

/-- Not every nested body is split off as a whole: an attribute may be named so
that a template element seems to start in its tag. -/
theorem not_splitBlocks_nested :
    ¬ ∀ body, Nested (fun tag _ => ∀ given ∈ tag.attributes,
        ∀ value ∈ given.value, '<' ∉ value.toList) body →
      splitBlocks (wrapped body) = .ok (Blocks.ofList [leadingBlock body]) := by
  intro recovers
  have tag : IsOpenTag {
      name := "p"
      attributes := [TagAttribute.ofText "a<template".toList none]
      selfClosing := false } ('<' :: "p a<template>".toList) := ⟨_, rfl, rfl⟩
  have nested : Nested (fun tag _ => ∀ given ∈ tag.attributes,
      ∀ value ∈ given.value, '<' ∉ value.toList)
      ('<' :: "p a<template>".toList ++ ("x".toList ++ [] ++
        ("</p>".toList ++ []))) :=
    .element tag (by decide +kernel) ⟨"p".toList, [], rfl, by decide, by simp⟩
      (by simp [TagAttribute.ofText]) (by simp [TagAttribute.ofText])
      (.text (by decide) .nil) .nil
  have split := recovers _ nested
  have failed : splitBlocks (wrapped
      ('<' :: "p a<template>".toList ++ ("x".toList ++ [] ++
        ("</p>".toList ++ [])))) = .error (.missingEndTag "template") :=
    eq_error_of_failure? (by decide +kernel)
  rw [failed] at split
  nomatch split

end Template

end SourceMark
