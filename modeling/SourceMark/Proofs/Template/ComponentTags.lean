import SourceMark.Proofs.Template.Brackets
import SourceMark.Proofs.Template.PlainForests

/-!
# Elements by their names

An element that stands between two tags of its name is read alike whatever its
name is, with one exception: the names of elements without an end tag count in
any case.  A component with such a name is refused, and the whole file with it.
-/

namespace SourceMark

namespace Insertion

theorem applyAll_single {insertion : Insertion} {before : List Char}
    (place : insertion.offset = Text.byteLength before) (after : List Char) :
    applyAll (before ++ after) [insertion] =
      before ++ (insertion.text.toList ++ after) := by
  simp [applyAll, sorted, applyOne, place, Text.cutAt?_append]

end Insertion

namespace Template

/-! ## An element between its tags -/

/-- A text between two tags of that name. -/
def writtenUse (name content : List Char) : List Char :=
  writtenStartTag name [] ++ (content ++ writtenEndTag name)

/-- The element that is written so. -/
def usedNode (name content : List Char) (place : Place) : Node :=
  .element (String.ofList name) [] place false (Draft.rawChildren content)

section Reading

variable {name content : List Char}

theorem isVoid_of_isRaw {tag : String} (raw : isRaw tag = true) :
    isVoid tag = false := by
  have among : Text.lowerString tag ∈ rawNames := by simpa [isRaw] using raw
  have other : ∀ known ∈ rawNames, voidNames.contains known = false := by
    decide
  exact other _ among

/-- A text with its offset, if there is one. -/
def contentEntries (content : List Char) (offset : Nat) : List Entry :=
  if content = [] then [] else [(offset, .text content)]

/-- An element whose body is no text is cut into its tags and its text. -/
theorem tokens_use (named : IsTagWord name)
    (plain : '<' ∉ content ∧ '{' ∉ content)
    (nested : isRaw (String.ofList name) = false) (offset : Nat) :
    ∃ inside ended, tokens offset (writtenUse name content) =
      (offset, .opening (plainTag name [])) ::
        (contentEntries content inside ++ [(ended, .closing name)]) := by
  have opens : (Token.opening (plainTag name [])).Spells
      (writtenStartTag name []) (content ++ (writtenEndTag name ++ [])) :=
    spells_startTag named nested (by simp)
  have stops : ∀ character ∈ (writtenEndTag name ++ []).head?,
      isPlain character = false := by
    simp [writtenEndTag, isPlain]
  have whole : writtenUse name content = writtenStartTag name [] ++
      (content ++ (writtenEndTag name ++ [])) := by
    simp [writtenUse]
  let inside := offset + Text.byteLength (writtenStartTag name [])
  refine ⟨inside, inside + Text.byteLength content, ?_⟩
  rw [whole, opens offset]
  by_cases empty : content = []
  · rw [empty, List.nil_append, spells_endTag named, tokens]
    rfl
  · rw [spells_text empty plain stops, spells_endTag named, tokens,
      contentEntries, if_neg empty]
    rfl

/-- An element whose body is text is one token. -/
theorem tokens_rawUse (named : IsTagWord name)
    (plain : '<' ∉ content) (raw : isRaw (String.ofList name) = true)
    (offset : Nat) :
    tokens offset (writtenUse name content) =
      [(offset, .raw (plainTag name []) content)] := by
  have isText : ((plainTag name []).selfClosing ||
      isVoid (plainTag name []).name || !isRaw (plainTag name []).name) =
        false := by
    simp [plainTag, raw, isVoid_of_isRaw raw]
  have markless : ¬ Sliced.endMark name <:+: Text.lowerAscii content := by
    intro inside
    have member : '<' ∈ Text.lowerAscii content :=
      inside.subset List.mem_cons_self
    exact plain ((mem_lowerAscii_iff (by decide)).mp member)
  let inside := offset + Text.byteLength (writtenStartTag name [])
  have opened : openedStep (plainTag name [])
      { rest := content ++ (writtenEndTag name ++ []), offset := inside } =
        (.raw (plainTag name []) content, behindBracket {
          rest := writtenEndTag name ++ []
          offset := inside + Text.byteLength content }) := by
    apply openedStep_raw isText
    rw [plainTag, String.toList_ofList]
    exact findEndTag?_written named markless [] inside
  have taken : step '<' (name ++ (List.flatMap PlainAttribute.written [] ++
        ['>']) ++ (content ++ (writtenEndTag name ++ []))) offset = _ :=
    (step_startTag named (by simp) offset).trans opened
  rw [behindBracket_written named] at taken
  have whole : writtenUse name content =
      '<' :: (name ++ (List.flatMap PlainAttribute.written [] ++ ['>']) ++
        (content ++ (writtenEndTag name ++ []))) := by
    simp [writtenUse, writtenStartTag]
  rw [whole, tokens_cons taken, tokens]

/-- An element between the tags of its name is read, unless it counts as one
without an end tag: then its end tag is one too many. -/
theorem parse_use (named : IsTagWord name) (plain : '<' ∉ content ∧ '{' ∉ content)
    (locate : Nat → Position) (offset : Nat) :
    parse locate offset (writtenUse name content) =
      if isVoid (String.ofList name) then
        .error (.strayEndTag (String.ofList name))
      else
        .ok [usedNode name content { offset, position := locate offset }] := by
  have added (place : Place) (children nodes : List Node) :
      Node.addElement (String.ofList name) [] place false children nodes =
        .ok (nodes ++ [.element (String.ofList name) [] place false children]) :=
    @Node.addElement_of_plain [] (by simp) _ _ _ _ _
  cases raw : isRaw (String.ofList name) with
  | true =>
      rw [isVoid_of_isRaw raw, parse, tokens_rawUse named plain.1 raw]
      simp [Draft.addAll, Draft.add, Draft.addElement, Draft.empty,
        plainTag, added, Draft.finish, usedNode]
  | false =>
      obtain ⟨inside, ended, cut⟩ := tokens_use named plain raw offset
      have same : Text.sameIgnoringCase name name = true := by
        simp [Text.sameIgnoringCase]
      rw [parse, cut, contentEntries]
      cases void : isVoid (String.ofList name) with
      | true =>
          by_cases empty : content = []
          · simp [empty, Draft.addAll, Draft.add, Draft.addElement, Draft.empty,
              Draft.close, plainTag, added, void]
          · simp [empty, Draft.addAll, Draft.add, Draft.addElement, Draft.empty,
              Draft.close, Draft.mapNodes, plainTag, added, void]
      | false =>
          by_cases empty : content = []
          · simp [empty, Draft.addAll, Draft.add, Draft.addElement, Draft.empty,
              Draft.close, Draft.closes, Draft.finish, plainTag, added, void,
              same, usedNode, Draft.rawChildren]
          · simp [empty, Draft.addAll, Draft.add, Draft.addElement, Draft.empty,
              Draft.close, Draft.closes, Draft.mapNodes, Draft.finish, plainTag,
              added, void, same, usedNode, Draft.rawChildren, Node.addText]

end Reading

/-! ## A file with one component -/

/-- The name of a component: an upper-case letter, and letters and digits behind
it. -/
structure IsComponentName (name : List Char) : Prop where
  upper : ∃ first ∈ name.head?, 'A' ≤ first ∧ first ≤ 'Z'
  word : ∀ character ∈ name,
    (Text.isAsciiLetter character || Text.isAsciiDigit character) = true

section Components

variable {name content : List Char}

theorem IsComponentName.isTagWord (named : IsComponentName name) :
    IsTagWord name where
  letter := by
    obtain ⟨first, starts, low, high⟩ := named.upper
    exact ⟨first, starts, by simp [Text.isAsciiLetter, low, high]⟩
  word := by
    intro character member
    simp [isWordPart, named.word character member]

/-- The tags of a component are no tags of template elements. -/
theorem IsComponentName.balanced_use (named : IsComponentName name)
    (plain : '<' ∉ content) : Balanced 0 (writtenUse name content) := by
  obtain ⟨first, starts, low, high⟩ := named.upper
  obtain ⟨rest, rfl⟩ : ∃ rest, name = first :: rest :=
    List.head?_eq_some_iff.mp starts
  have bracketless : '<' ∉ first :: rest := by
    intro member
    exact absurd (named.word _ member) (by decide)
  have other : ∀ mark ∈ ['!', '/', 't'], first ≠ mark := by
    rintro mark among rfl
    simp only [List.mem_cons, List.not_mem_nil, or_false] at among
    rcases among with rfl | rfl | rfl
    · exact absurd low (by decide)
    · exact absurd low (by decide)
    · exact absurd high (by decide)
  have opening (later : List Char) :
      startsPiece ('<' :: first :: later) = false := by
    simp [startsPiece, commentOpening, startsTag, List.isPrefixOf,
      Ne.symm (other '!' (by simp)), Ne.symm (other '/' (by simp)),
      Ne.symm (other 't' (by simp))]
  have closing (later : List Char) :
      startsPiece ('<' :: '/' :: first :: later) = false := by
    simp [startsPiece, commentOpening, startsTag, List.isPrefixOf,
      Ne.symm (other 't' (by simp))]
  have whole : writtenUse (first :: rest) content =
      '<' :: ((first :: rest ++ '>' :: content) ++
        '<' :: '/' :: (first :: rest ++ ['>'])) := by
    simp [writtenUse, writtenStartTag, writtenEndTag]
  have silent : holdsPiece (writtenUse (first :: rest) content) = false := by
    have inside : '<' ∉ first :: rest ++ '>' :: content := by
      simp_all
    have ended : '<' ∉ '/' :: (first :: rest ++ ['>']) := by
      simp_all
    rw [whole, holdsPiece, holdsPiece_append inside, holdsPiece,
      holdsPiece_of_notMem ended]
    simp [opening, closing]
  have last : EndsInFrontOf (writtenUse (first :: rest) content) [] := by
    refine .inl ⟨'>', ?_, .inl rfl⟩
    rw [whole]
    simp [List.getLast?_cons]
  have balanced := balanced_append silent last .nil
  rwa [List.append_nil] at balanced

/-- A template with a tree gets the marks of its eligible elements, if there are
any. -/
theorem annotateBlock_of_parse {source : List Char} {block : Block}
    {nodes : List Node} (options : FileOptions)
    (success : parse (LineIndex.ofText source).location block.start block.body =
      .ok nodes) :
    annotateBlock source options block =
      .ok (if eligibleElements options nodes = [] then none
        else some (replaceBody source block (Insertion.applyAll block.body
          ((eligibleElements options nodes).map
            (Element.mark options.filename block.start))))) := by
  have marks := insertionsOfNodes_annotateNodes options.filename options
    block.start nodes (areUnmarked_of_parse success)
  simp only [annotateBlock, success, marks, countNodes_eq,
    List.length_eq_zero_iff]
  split
  · rfl
  · rfl

/-- The element that starts the template of a file. -/
def leadingElement (name : List Char) : Element where
  tag := String.ofList name
  attributes := []
  place := { offset := 10, position := { line := 1, column := 10 } }

/-- The element as it is written with a mark. -/
def markedUse (options : FileOptions) (name content : List Char) : List Char :=
  '<' :: name ++ (((leadingElement name).mark options.filename 10).text.toList ++
    '>' :: (content ++ writtenEndTag name))

theorem eligibleElements_used (options : FileOptions)
    (name content : List Char) :
    eligibleElements options
        [usedNode name content (leadingElement name).place] =
      if isEligible options (String.ofList name) [] then [leadingElement name]
      else [] := by
  have only : Node.elementsAll
      [usedNode name content (leadingElement name).place] =
        [leadingElement name] := by
    rw [Node.elementsAll_singleton, usedNode, Node.elements,
      Draft.elementsAll_rawChildren]
    rfl
  rw [eligibleElements, only]
  cases eligible : isEligible options (String.ofList name) [] with
  | true => simp [leadingElement, Element.isEligible, eligible]
  | false => simp [leadingElement, Element.isEligible, eligible]

theorem replaceBody_append {block : Block} {before : List Char}
    (start : block.start = Text.byteLength before) (after body : List Char) :
    replaceBody (before ++ (block.body ++ after)) block body =
      before ++ (body ++ after) := by
  simp [replaceBody, start, Text.cutAt?_append]

/-- The insertion of the mark into the file. -/
theorem replaceBody_used (options : FileOptions) (name content : List Char) :
    replaceBody (wrapped (writtenUse name content))
        (leadingBlock (writtenUse name content))
        (Insertion.applyAll (writtenUse name content)
          [(leadingElement name).mark options.filename 10]) =
      wrapped (markedUse options name content) := by
  have apart : writtenUse name content = ('<' :: name) ++
      ('>' :: (content ++ writtenEndTag name)) := by
    simp [writtenUse, writtenStartTag]
  have place : ((leadingElement name).mark options.filename 10).offset =
      Text.byteLength ('<' :: name) := by
    have wide : '<'.utf8Size = 1 := rfl
    simp [Element.mark, leadingElement, Text.byteLength, wide]
  have added := Insertion.applyAll_single place
    ('>' :: (content ++ writtenEndTag name))
  rw [← apart] at added
  have ten : Text.byteLength "<template>".toList = 10 := by decide
  have start : (leadingBlock (writtenUse name content)).start =
      Text.byteLength "<template>".toList := ten.symm
  have replaced := replaceBody_append start "</template>".toList
  rw [added]
  exact replaced _

/-- A file with such an element for its template gets a mark on it, unless the
element counts as one without an end tag. -/
theorem annotateFile_wrapped_use (named : IsComponentName name)
    (plain : '<' ∉ content ∧ '{' ∉ content) (options : FileOptions) :
    annotateFile (wrapped (writtenUse name content)) options =
      if isVoid (String.ofList name) then
        .error (.strayEndTag (String.ofList name))
      else
        .ok (if isEligible options (String.ofList name) [] then
          some (wrapped (markedUse options name content)) else none) := by
  have split := splitBlocks_wrapped (named.balanced_use plain.1)
  have start : (LineIndex.ofText (wrapped (writtenUse name content))).location
      10 = { line := 1, column := 10 } :=
    LineIndex.location_byteLength "<template>".toList
      (writtenUse name content ++ "</template>".toList)
  have tree := parse_use named.isTagWord plain (LineIndex.ofText
    (wrapped (writtenUse name content))).location 10
  have changed : annotateFile (wrapped (writtenUse name content)) options =
      annotateBlock (wrapped (writtenUse name content)) options
        (leadingBlock (writtenUse name content)) := by
    rw [annotateFile, split]
    rfl
  rw [start] at tree
  rw [changed]
  by_cases void : isVoid (String.ofList name) = true
  · rw [if_pos void] at tree ⊢
    rw [annotateBlock, leadingBlock, tree]
  · rw [if_neg void] at tree ⊢
    have marked := @annotateBlock_of_parse _
      (leadingBlock (writtenUse name content))
      [usedNode name content (leadingElement name).place] options tree
    rw [eligibleElements_used] at marked
    rw [marked]
    by_cases eligible : isEligible options (String.ofList name) [] = true
    · rw [if_pos eligible, if_pos eligible, if_neg (by simp), List.map_singleton,
        ← replaceBody_used]
      rfl
    · rw [if_neg eligible, if_neg eligible, if_pos rfl]

/-- A component that stands in a template, or for all of it, is an ordinary
element with its text inside, and a component file with it gets a mark; only a
name that counts as one of an element without an end tag, which it may do in any
case, leaves the end tag over, and the file without a mark. -/
theorem parseRange_component (named : IsComponentName name)
    (plain : '<' ∉ content ∧ '{' ∉ content) :
    let tag := String.ofList name
    let use := writtenUse name content
    parseRange use 0 (Text.byteLength use) =
        (if isVoid tag then .error (.strayEndTag tag)
        else .ok [usedNode name content
          { offset := 0, position := { line := 1, column := 0 } }]) ∧
      ∀ options : FileOptions, options.filename ≠ "" →
        annotate (String.ofList (wrapped use)) options =
          .ok (if isVoid tag || !isEligible options tag [] then none
            else some (String.ofList
              (wrapped (markedUse options name content)))) := by
  intro tag use
  constructor
  · have start : (LineIndex.ofText use).location 0 =
        { line := 1, column := 0 } :=
      LineIndex.location_byteLength [] use
    rw [parseRange_whole, parse_use named.isTagWord plain, start]
  · intro options given
    have changed := annotateFile_wrapped_use named plain options
    rw [← @String.toList_ofList (wrapped (writtenUse name content))] at changed
    change annotate (String.ofList (wrapped (writtenUse name content))) _ = _
    cases void : isVoid (String.ofList name) with
    | true =>
        rw [void, if_pos rfl] at changed
        simp [annotate_of_error given changed, tag, Fault.isFinal]
    | false =>
        rw [void, if_neg Bool.false_ne_true] at changed
        rw [annotate_of_ok given changed]
        cases eligible : isEligible options (String.ofList name) [] with
        | true => simp
        | false => simp

/-- A button, whose name is on no list. -/
theorem parseRange_component_button :
    let name := "Button".toList
    let content := "é > 1".toList
    let use := "<Button>é > 1</Button>".toList
    let options : FileOptions := { filename := "a.vue", ignored := [] }
    IsComponentName name ∧ ('<' ∉ content ∧ '{' ∉ content) ∧
      writtenUse name content = use ∧
      parseRange use 0 (Text.byteLength use) =
        .ok [usedNode name content
          { offset := 0, position := { line := 1, column := 0 } }] ∧
      annotate (String.ofList (wrapped use)) options =
        .ok (some (String.ofList ("<template>".toList ++
          "<Button data-locatorjs=\"a.vue:1:10\">é > 1</Button>".toList ++
          "</template>".toList))) := by
  intro name content use options
  have named : IsComponentName name := {
    upper := ⟨'B', rfl, by decide⟩
    word := List.all_eq_true.mp (by decide) }
  have plain : '<' ∉ content ∧ '{' ∉ content := by decide
  have written : writtenUse name content = use := by decide +kernel
  have marked : wrapped (markedUse options name content) =
      "<template>".toList ++
        "<Button data-locatorjs=\"a.vue:1:10\">é > 1</Button>".toList ++
        "</template>".toList := by
    decide +kernel
  have listed : isVoid (String.ofList name) = false := by decide +kernel
  have eligible : isEligible options (String.ofList name) [] = true := by
    decide +kernel
  obtain ⟨read, annotated⟩ := parseRange_component named plain
  have done := annotated options (by decide)
  rw [written, listed, if_neg Bool.false_ne_true] at read
  rw [written, listed, eligible, marked] at done
  exact ⟨named, plain, written, read, done⟩

/-- Not every component is read as an element: a link is one without an end tag,
in any case. -/
theorem not_parseRange_component :
    ¬ ∀ name content, IsComponentName name →
      '<' ∉ content ∧ '{' ∉ content →
      ∃ place, parseRange (writtenUse name content) 0
          (Text.byteLength (writtenUse name content)) =
        .ok [usedNode name content place] := by
  intro ordinary
  have named : IsComponentName "Link".toList := {
    upper := ⟨'L', rfl, by decide⟩
    word := List.all_eq_true.mp (by decide) }
  obtain ⟨place, read⟩ := ordinary "Link".toList "x".toList named (by decide)
  have failed : parseRange (writtenUse "Link".toList "x".toList) 0
      (Text.byteLength (writtenUse "Link".toList "x".toList)) =
        .error (.strayEndTag "Link") :=
    eq_error_of_failure? (by decide +kernel)
  rw [failed] at read
  nomatch read

end Components

end Template

end SourceMark
