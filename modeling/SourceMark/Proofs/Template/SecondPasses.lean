import SourceMark.Proofs.Template.Brackets
import SourceMark.Proofs.Template.Resplitting

/-!
# Marking a marked file

A template whose brackets start tags is balanced with its marks as it is
without them, so the marked file is split at the same places.  The tree of its
template is then the old one with marks for attributes, in which no element is
left to be marked.
-/

namespace SourceMark

namespace Template

/-- Whether every bracket in the template of a file starts an opening tag, a
closing tag or a comment. -/
def templateBracketsAreTags (source : List Char) : Bool :=
  match splitBlocks source with
  | .ok blocks => blocks.template.all fun block => bracketsAreTags block.body
  | .error _ => true

/-- The body of a template with its marks. -/
def markedBody (options : FileOptions) (source : List Char) (block : Block) :
    List Char :=
  Insertion.interleave
    ((markingFor options (LineIndex.ofText source).location).insertions
      (tokens block.start block.body)) block.start block.body

section Passes

variable {options again : FileOptions} {source out : List Char} {block : Block}
  {nodes : List Node}

/-- Which elements are eligible does not depend on the name of the file. -/
theorem eligibleElements_congr (same : again.ignored = options.ignored)
    (nodes : List Node) :
    eligibleElements again nodes = eligibleElements options nodes := by
  have alike : Element.isEligible again = Element.isEligible options := by
    funext element
    simp only [Element.isEligible, isEligible, FileOptions.ignores, same]
  rw [eligibleElements, alike, eligibleElements]

theorem countNodes_congr (same : again.ignored = options.ignored)
    (nodes : List Node) : countNodes again nodes = countNodes options nodes := by
  rw [countNodes_eq, countNodes_eq, eligibleElements_congr same]

/-- An empty template has no elements. -/
theorem ne_nil_of_count {locate : Nat → Position} {origin : Nat}
    {text : List Char} (success : parse locate origin text = .ok nodes)
    (counted : countNodes options nodes ≠ 0) : text ≠ [] := by
  rintro rfl
  have elements := (elements_of_parse success).2
  rw [tokens, tagsOf, List.filterMap_nil, List.map_nil] at elements
  rw [countNodes_eq, eligibleElements, elements] at counted
  exact counted rfl

/-- What a pass that changes a file makes of its template. -/
theorem marked_of_annotateBlock
    (done : annotateBlock source options block = .ok (some out)) :
    ∃ nodes, parse (LineIndex.ofText source).location block.start block.body =
        .ok nodes ∧
      block.body ≠ [] ∧
      out = replaceBody source block (markedBody options source block) := by
  unfold annotateBlock at done
  split at done
  · simp at done
  · next nodes success =>
      split at done
      · simp at done
      · next counted =>
          simp only [Except.ok.injEq, Option.some.injEq] at done
          refine ⟨nodes, success, ne_nil_of_count success counted, ?_⟩
          have unmarked := areUnmarked_of_parse success
          rw [← done, insertionsOfNodes_annotateNodes _ _ _ _ unmarked,
            Insertion.applyAll_eq_interleave, interleave_rebased _ success,
            map_mark_of_parse success, markedBody]

/-- Wherever a marked template stands, nothing in it is left to be marked. -/
theorem annotateBlock_marked (same : again.ignored = options.ignored)
    (success : parse (LineIndex.ofText source).location block.start
      block.body = .ok nodes) (out : List Char) :
    annotateBlock out again
      { block with body := markedBody options source block } = .ok none := by
  obtain ⟨reread, parsed, alike⟩ := parse_of_marking options
    (LineIndex.ofText out).location block.start success
  have nothing : countNodes again reread = 0 := by
    rw [countNodes_congr same, countNodes_of_marked alike]
  simp only [annotateBlock, markedBody, parsed, nothing, if_true]

/-- A marked file has the marked template. -/
theorem template_of_marked (plain : '<' ∉ options.filename.toList)
    (tidy : templateBracketsAreTags source = true) {blocks : Blocks}
    (split : splitBlocks source = .ok blocks)
    (template : blocks.template = some block) (inhabited : block.body ≠ [])
    (success : parse (LineIndex.ofText source).location block.start
      block.body = .ok nodes) :
    ∃ others, splitBlocks
        (replaceBody source block (markedBody options source block)) =
          .ok others ∧
      others.template =
        some { block with body := markedBody options source block } := by
  have brackets : bracketsAreTags block.body = true := by
    simpa [templateBracketsAreTags, split, template] using tidy
  unfold splitBlocks at split
  split at split
  · next given found =>
      obtain rfl := by simpa using split
      obtain ⟨before, after, whole, replaceable⟩ :=
        replaceable_of_blocksFrom found template inhabited
      obtain ⟨others, resplit, there⟩ := replaceable.replaced _
        (balanced_of_marking plain brackets success replaceable.balanced)
      have start := replaceable.start
      rw [Nat.zero_add] at start
      have replaced : replaceBody source block
          (markedBody options source block) =
            before ++ (markedBody options source block ++ after) := by
        rw [replaceBody, start, whole, Text.cutAt?_append]
        simp
      refine ⟨Blocks.ofList others, ?_, there⟩
      rw [replaced, splitBlocks, markedBody, resplit]
  · simp at split

end Passes

/-- A second pass over a file that has been marked changes nothing, for the same
ignored names and whatever the file is called then. -/
theorem annotate_of_markedTemplate {options again : FileOptions}
    {source out : String} (plain : '<' ∉ options.filename.toList)
    (tidy : templateBracketsAreTags source.toList = true)
    (done : annotate source options = .ok (some out))
    (ignored : again.ignored = options.ignored) (named : again.filename ≠ "") :
    annotate out again = .ok none := by
  obtain ⟨blocks, block, split, template, changed⟩ :=
    annotateBlock_of_annotateFile (annotateFile_of_annotate done)
  obtain ⟨nodes, success, inhabited, replaced⟩ :=
    marked_of_annotateBlock changed
  obtain ⟨others, resplit, marked⟩ :=
    template_of_marked plain tidy split template inhabited success
  have unchanged : annotateFile out.toList again = .ok none := by
    rw [← replaced] at resplit
    simp only [annotateFile, resplit, bind, Except.bind, marked]
    split
    · exact annotateBlock_marked ignored success out.toList
    · rfl
  rw [annotate_of_ok named unchanged, Option.map_none]

/-- A nested template and an element whose body is text, marked for a file with
a quote and a bracket in its name and then for another one. -/
theorem annotate_of_markedTemplate_nested :
    let options : FileOptions :=
      { filename := "a>\"b/.vue", ignored := ["style"] }
    let again : FileOptions := { filename := "c<d.vue", ignored := ["style"] }
    let source := "<script>let x = 1 < 2</script><template lang=html>" ++
      "<!-- a > b --><template v-if=\"x\"><p a='>'/></template>" ++
      "<style>i</style></template>"
    let out := "<script>let x = 1 < 2</script><template lang=html>" ++
      "<!-- a > b --><template v-if=\"x\">" ++
      "<p data-locatorjs=\"a>&quot;b/.vue:1:83\" a='>'/></template>" ++
      "<style>i</style></template>"
    '<' ∉ options.filename.toList ∧
      templateBracketsAreTags source.toList = true ∧
      annotate source options = .ok (some out) ∧
      again.ignored = options.ignored ∧ again.filename ≠ "" ∧
      annotate out again = .ok none := by
  intro options again source out
  have plain : '<' ∉ options.filename.toList := by decide
  have tidy : templateBracketsAreTags source.toList = true := by
    decide +kernel
  have done : annotate source options = .ok (some out) :=
    eq_ok_of_toOption (by decide +kernel)
  have named : again.filename ≠ "" := by decide
  exact ⟨plain, tidy, done, rfl, named,
    annotate_of_markedTemplate plain tidy done rfl named⟩

end Template

end SourceMark
