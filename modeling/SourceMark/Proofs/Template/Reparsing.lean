import SourceMark.Proofs.Template.Annotation
import SourceMark.Proofs.Template.Relabelling

/-!
# Reading a marked template again

Marks are attributes for whoever reads the marked text.  Its tree is the tree
of the text without marks, except that every marked element has one more
attribute in front of its own, and nothing is left to be marked.
-/

namespace SourceMark

namespace Template

namespace Element

/-- The mark of an element as an attribute that is read from a text. -/
def markAttribute (filename : String) (element : Element) : TagAttribute where
  name := Marker.combined
  value := some (element.value filename)
  isAdded := false

/-- The attributes of an element in the marked text. -/
def marked (options : FileOptions) (element : Element) : List TagAttribute :=
  if element.isEligible options then
    element.markAttribute options.filename :: element.attributes
  else
    element.attributes

theorem keepsDirectives_marked (options : FileOptions) :
    KeepsDirectives (marked options) := by
  intro element name member
  have other : (Marker.combined == name) = false := by
    revert name
    decide
  unfold marked
  split
  · simp [findAttribute?, markAttribute, other]
  · rfl

theorem isEligible_marked (options : FileOptions) (element : Element)
    (place : Place) :
    isEligible options
      { element with attributes := element.marked options, place } = false := by
  unfold marked
  split
  · have plain : (TagAttribute.mk Marker.combined none false).isStatic =
        true := by
      decide +kernel
    have static : (element.markAttribute options.filename).isStatic = true :=
      plain
    have found : isMarked (element.markAttribute options.filename ::
        element.attributes) = true := by
      rw [isMarked, List.any_cons, static]
      simp [markAttribute]
    simp [isEligible, Template.isEligible, found]
  · next ineligible => simpa [isEligible] using ineligible

end Element

/-- Where marks have been read, nothing is left to be marked. -/
theorem countNodes_of_marked {options : FileOptions}
    {nodes again : List Node}
    (same : Node.relabelAll Element.attributes again =
      Node.relabelAll (Element.marked options) nodes) :
    countNodes options again = 0 := by
  have elements := congrArg Node.elementsAll same
  rw [Node.elementsAll_relabelAll, Node.elementsAll_relabelAll] at elements
  rw [countNodes_eq, eligibleElements, List.length_eq_zero_iff,
    List.filter_eq_nil_iff]
  intro element member
  have placed : { element with place := Place.nowhere } ∈
      (Node.elementsAll again).map (fun element =>
        { element with place := Place.nowhere }) :=
    List.mem_map_of_mem member
  rw [elements] at placed
  obtain ⟨origin, _, equal⟩ := List.mem_map.mp placed
  have nothing := Element.isEligible_marked options origin .nowhere
  rw [equal] at nothing
  simpa [Element.isEligible] using nothing

/-- The tags to be marked, and the locations that they carry. -/
def markingFor (options : FileOptions) (locate : Nat → Position) : Marking :=
  fun offset tag =>
    if isEligible options tag.name tag.attributes then
      some (Location.ofPosition options.filename (locate offset))
    else
      none

/-- The marks of a tree are those of the tags in its text. -/
theorem map_mark_of_parse {options : FileOptions} {locate : Nat → Position}
    {origin : Nat} {text : List Char} {nodes : List Node}
    (success : parse locate origin text = .ok nodes) :
    (eligibleElements options nodes).map (Element.mark options.filename 0) =
      (markingFor options locate).insertions (tokens origin text) := by
  have elements := (elements_of_parse success).2
  rw [eligibleElements, elements, Marking.insertions]
  induction tagsOf (tokens origin text) with
  | nil => rfl
  | cons entry entries induction =>
      obtain ⟨offset, tag⟩ := entry
      cases eligible : isEligible options tag.name tag.attributes with
      | true =>
          have chosen : (markingFor options locate).insertion? (offset, tag) =
              some ((Draft.elementOf locate (offset, tag)).mark
                options.filename 0) := by
            simp [Marking.insertion?, markingFor, eligible]
            rfl
          have counted : (Draft.elementOf locate (offset, tag)).isEligible
              options = true := eligible
          rw [List.map_cons, List.filter_cons_of_pos counted, List.map_cons,
            List.filterMap_cons_some chosen, induction]
      | false =>
          have passed :
              (markingFor options locate).insertion? (offset, tag) = none := by
            simp [Marking.insertion?, markingFor, eligible]
          have ignored : ¬ (Draft.elementOf locate (offset, tag)).isEligible
              options = true := by
            simp [Element.isEligible, Draft.elementOf, eligible]
          rw [List.map_cons, List.filter_cons_of_neg ignored,
            List.filterMap_cons_none passed, induction]

/-- A tag with a mark is a tag with the attributes of a marked element. -/
theorem adding_eq_relabel (options : FileOptions) (locate : Nat → Position)
    (offset : Nat) (token : Token) :
    token.adding ((markingFor options locate).addition offset token) =
      token.relabel (Element.marked options)
        { offset, position := locate offset } := by
  have attributes : ∀ tag : OpenTag, token.tag? = some tag →
      tag.adding ((markingFor options locate).addition offset token) =
        tag.relabel (Element.marked options)
          { offset, position := locate offset } := by
    intro tag given
    cases eligible : isEligible options tag.name tag.attributes with
    | true =>
        simp [Marking.addition, given, markingFor, eligible, OpenTag.adding,
          OpenTag.relabel, Element.marked, Element.isEligible, Addition.mark,
          Element.markAttribute, TagAttribute.ofText, Element.value,
          Element.location]
    | false =>
        simp [Marking.addition, given, markingFor, eligible, OpenTag.adding,
          OpenTag.relabel, Element.marked, Element.isEligible]
  cases token with
  | opening tag => exact congrArg Token.opening (attributes tag rfl)
  | raw tag body => exact congrArg (Token.raw · body) (attributes tag rfl)
  | text value => rfl
  | interpolation value => rfl
  | comment value => rfl
  | closing name => rfl
  | fault fault => rfl

theorem relabel_attributes (place : Place) (token : Token) :
    token.relabel Element.attributes place = token := by
  cases token with
  | opening tag => rfl
  | raw tag body => rfl
  | text value => rfl
  | interpolation value => rfl
  | comment value => rfl
  | closing name => rfl
  | fault fault => rfl

/-- The tree of a marked text, wherever the text and its lines start. -/
theorem parse_of_marking (options : FileOptions) (relocate : Nat → Position)
    (start : Nat) {locate : Nat → Position} {origin : Nat} {text : List Char}
    {nodes : List Node} (success : parse locate origin text = .ok nodes) :
    ∃ again, parse relocate start (Insertion.interleave
        ((markingFor options locate).insertions (tokens origin text))
        origin text) = .ok again ∧
      Node.relabelAll Element.attributes again =
        Node.relabelAll (Element.marked options) nodes := by
  have sound := (elements_of_parse success).1
  have marks := (markingFor options locate).tokens_interleave sound start
  have trees : (parse relocate start (Insertion.interleave
        ((markingFor options locate).insertions (tokens origin text))
        origin text)).map (Node.relabelAll Element.attributes) =
      (parse locate origin text).map
        (Node.relabelAll (Element.marked options)) := by
    rw [relabelAll_parse keepsDirectives_attributes,
      relabelAll_parse (Element.keepsDirectives_marked options)]
    simp only [relabel_attributes, ← adding_eq_relabel]
    rw [← marks]
  rw [success] at trees
  obtain ⟨again, parsed, same⟩ := exists_ok_of_map trees
  exact ⟨again, parsed, same.symm⟩

/-- The tree of a marked text, wherever lines start in it. -/
theorem parse_of_marked (options : FileOptions) (relocate : Nat → Position)
    {locate : Nat → Position} {text : List Char} {nodes : List Node}
    (success : parse locate 0 text = .ok nodes) :
    ∃ again, parse relocate 0 (Insertion.interleave
        ((eligibleElements options nodes).map
          (Element.mark options.filename 0)) 0 text) = .ok again ∧
      Node.relabelAll Element.attributes again =
        Node.relabelAll (Element.marked options) nodes := by
  rw [map_mark_of_parse success]
  exact parse_of_marking options relocate 0 success

theorem parseRange_whole (text : List Char) :
    parseRange text 0 (Text.byteLength text) =
      parse (LineIndex.ofText text).location 0 text := by
  have whole := parseRange_of_cut [] text []
  simpa [Text.byteLength] using whole

/-- A template that has been marked is read as the same tree with one more
attribute in front on every element that was counted, and none of its elements
is counted again. -/
theorem relabelAll_of_annotated {options : FileOptions} {text : List Char}
    {nodes : List Node}
    (success : parseRange text 0 (Text.byteLength text) = .ok nodes) :
    let out := Insertion.applyAll text (insertionsOfNodes options.filename 0
      (annotateNodes options.filename options nodes))
    ∃ again, parseRange out 0 (Text.byteLength out) = .ok again ∧
      Node.relabelAll Element.attributes again =
        Node.relabelAll (Element.marked options) nodes ∧
      countNodes options nodes = (eligibleElements options nodes).length ∧
      countNodes options again = 0 := by
  intro out
  rw [parseRange_whole] at success
  have replaced : out = Insertion.interleave
      ((eligibleElements options nodes).map
        (Element.mark options.filename 0)) 0 text := by
    have unmarked := areUnmarked_of_parse success
    simp only [out]
    rw [insertionsOfNodes_annotateNodes _ _ _ _ unmarked,
      Insertion.applyAll_eq_interleave]
  obtain ⟨again, parsed, same⟩ :=
    parse_of_marked options (LineIndex.ofText out).location success
  refine ⟨again, ?_, same, countNodes_eq options nodes,
    countNodes_of_marked same⟩
  rw [parseRange_whole, replaced]
  rw [replaced] at parsed
  exact parsed

/-- A branch with a quoted bracket, marked for a file with a quote and a bracket
in its name. -/
theorem relabelAll_branch :
    let options : FileOptions := { filename := "a\">b.vue", ignored := [] }
    let text := "é<li v-if=x a='>' :b=c/ d>{{ x }}</li>".toList
    ∃ nodes, parseRange text 0 (Text.byteLength text) = .ok nodes ∧
      countNodes options nodes = 1 ∧
      let out := Insertion.applyAll text (insertionsOfNodes options.filename 0
        (annotateNodes options.filename options nodes))
      ∃ again, parseRange out 0 (Text.byteLength out) = .ok again ∧
        Node.relabelAll Element.attributes again =
          Node.relabelAll (Element.marked options) nodes ∧
        countNodes options nodes = (eligibleElements options nodes).length ∧
        countNodes options again = 0 := by
  intro options text
  have counted : ((parseRange text 0 (Text.byteLength text)).map
      (countNodes options)).toOption = some 1 := by
    decide +kernel
  obtain ⟨nodes, parsed, single⟩ := exists_ok_of_toOption_map counted
  exact ⟨nodes, parsed, single, relabelAll_of_annotated parsed⟩

end Template

end SourceMark
