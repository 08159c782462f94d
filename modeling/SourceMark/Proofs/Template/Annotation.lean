import SourceMark.Proofs.Evaluation
import SourceMark.Proofs.Metadata
import SourceMark.Proofs.Text.Positions
import SourceMark.Proofs.Template.Blocks
import SourceMark.Proofs.Template.Marks

/-!
# What annotation does to a component file

A component file is changed inside its template only, and there one mark comes
behind the name of every eligible element.  The value of a mark leads back to
the bracket in front of that name.
-/

namespace SourceMark

namespace Template

/-- The tree of a part of a file that lies between characters. -/
theorem parseRange_of_cut (before body after : List Char) :
    parseRange (before ++ (body ++ after)) (Text.byteLength before)
        (Text.byteLength before + Text.byteLength body) =
      parse (LineIndex.ofText (before ++ (body ++ after))).location
        (Text.byteLength before) body := by
  have inside : min (Text.byteLength before + Text.byteLength body)
      (Text.byteLength (before ++ (body ++ after))) =
        Text.byteLength before + Text.byteLength body := by
    rw [Text.byteLength_append, Text.byteLength_append]
    omega
  unfold parseRange
  simp only [inside]
  split
  · next nothing =>
      obtain rfl : body = [] := Text.byteLength_eq_zero.mp (by omega)
      simp [parse, tokens, Draft.addAll, Draft.finish, Draft.empty]
  · rw [Text.slice?_append]

/-- What annotation does to a file, in all details. -/
structure MarksExactly (options : FileOptions) (source out : List Char)
    (block : Block) (nodes : List Node) : Prop where
  /-- The block is the template of the file. -/
  template : ∃ blocks, splitBlocks source = .ok blocks ∧
    blocks.template = some block
  /-- The nodes are the tree of its range. -/
  parsed : parseRange source block.start block.stop = .ok nodes
  /-- Nothing changes in front of the range and behind it. -/
  around : ∃ before body after, source = before ++ (block.body ++ after) ∧
    Text.byteLength before = block.start ∧ out = before ++ (body ++ after)
  /-- The file is passed over once, and the marks are put in on the way. -/
  marked : out = Insertion.interleave ((eligibleElements options nodes).map
    (Element.mark options.filename 0)) 0 source
  /-- Without the marks the file is what it was. -/
  unmarked : Insertion.unweave ((eligibleElements options nodes).map
    (Element.mark options.filename 0)) out = source
  /-- Each element stands in the file, and the value of its mark leads back to
  its bracket. -/
  placed : ∀ element ∈ eligibleElements options nodes, ∃ before after,
    source = before ++ '<' :: (element.tag.toList ++ after) ∧
    Text.byteLength before = element.place.offset ∧
    Location.decode? (String.ofList
        (Marker.unescape (element.value options.filename).toList)) =
      some (Location.ofPosition options.filename
        ((LineIndex.ofText source).location element.place.offset))
  /-- Elements come one behind the other, so each has a mark of its own. -/
  ordered : (eligibleElements options nodes).Pairwise
    fun first second => first.place.offset < second.place.offset
  distinct : ((eligibleElements options nodes).map
    (Element.value options.filename)).Nodup

section Block

variable {options : FileOptions} {before body after : List Char}
  {nodes : List Node}

/-- The marks of a template, counted from its own start or from where it stands
in a file. -/
theorem interleave_rebased {locate : Nat → Position} {base : Nat}
    (filename : String) (success : parse locate base body = .ok nodes) :
    Insertion.interleave ((eligibleElements options nodes).map
        (Element.mark filename base)) 0 body =
      Insertion.interleave ((eligibleElements options nodes).map
        (Element.mark filename 0)) base body := by
  have shifted : (eligibleElements options nodes).map
        (Element.mark filename 0) =
      ((eligibleElements options nodes).map
        (Element.mark filename base)).map fun insertion =>
          { insertion with offset := base + insertion.offset } := by
    rw [List.map_map]
    apply List.map_congr_left
    intro element eligible
    obtain ⟨_, front, back, _, place⟩ :=
      element_at_place success element (mem_of_eligible eligible)
    simp only [Function.comp, Element.mark, Insertion.mk.injEq, and_true]
    omega
  have same := Insertion.interleave_shift base
    ((eligibleElements options nodes).map (Element.mark filename base)) 0 body
  rw [Nat.add_zero, ← shifted] at same
  exact same.symm

/-- The marks of a template, counted from the start of the file. -/
theorem interleave_marks (filename : String)
    (success : parse
      (LineIndex.ofText (before ++ (body ++ after))).location
      (Text.byteLength before) body = .ok nodes) :
    Insertion.interleave ((eligibleElements options nodes).map
        (Element.mark filename 0)) 0 (before ++ (body ++ after)) =
      before ++ (Insertion.interleave ((eligibleElements options nodes).map
        (Element.mark filename (Text.byteLength before))) 0 body ++
        after) := by
  have placed := element_at_place success
  have bounds : ∀ insertion ∈ (eligibleElements options nodes).map
      (Element.mark filename 0),
      Text.byteLength before ≤ insertion.offset ∧
        insertion.offset ≤
          Text.byteLength before + Text.byteLength body := by
    intro insertion member
    obtain ⟨element, eligible, rfl⟩ := List.mem_map.mp member
    obtain ⟨_, front, back, text, place⟩ :=
      placed element (mem_of_eligible eligible)
    have wide : '<'.utf8Size = 1 := rfl
    rw [text]
    simp only [Element.mark, place, Text.byteLength_append, Text.byteLength,
      wide]
    omega
  rw [interleave_rebased filename success, Insertion.interleave_skip,
    Insertion.interleave_append_of_le, Nat.zero_add]
  · intro insertion member
    rw [Nat.zero_add]
    exact (bounds insertion member).2
  · intro insertion member
    rw [Nat.zero_add]
    exact (bounds insertion member).1

theorem decode?_value {source : List Char} {filename : String}
    (named : filename ≠ "") (storable : Text.IsStorable source)
    {element : Element}
    (located : element.place.position =
      (LineIndex.ofText source).location element.place.offset) :
    Location.decode? (String.ofList
        (Marker.unescape (element.value filename).toList)) =
      some (Location.ofPosition filename
        ((LineIndex.ofText source).location element.place.offset)) := by
  have fits := LineIndex.location_lt_wordBound storable element.place.offset
  simp only [Element.value, Element.location, String.toList_ofList,
    Marker.unescape_of_escape, String.ofList_toList, located]
  exact Location.decode?_of_encode named fits.1 fits.2

/-- Two places of one text with the same line and column are the same place. -/
theorem offset_eq_of_location_eq {source : List Char}
    {first firstRest second secondRest : List Char}
    (firstWhole : source = first ++ firstRest)
    (secondWhole : source = second ++ secondRest)
    (same : (LineIndex.ofText source).location (Text.byteLength first) =
      (LineIndex.ofText source).location (Text.byteLength second)) :
    Text.byteLength first = Text.byteLength second := by
  have firstPosition :=
    LineIndex.location_byteLength first firstRest
  have secondPosition :=
    LineIndex.location_byteLength second secondRest
  rw [← firstWhole] at firstPosition
  rw [← secondWhole] at secondPosition
  rw [firstPosition, secondPosition] at same
  rw [Position.behind_injective (firstWhole.symm.trans secondWhole) same]

end Block

theorem annotate_of_ok {options : FileOptions}
    (named : options.filename ≠ "") {source : String}
    {code : Option (List Char)}
    (done : annotateFile source.toList options = .ok code) :
    annotate source options = .ok (code.map String.ofList) := by
  have required := FileOptions.requireFilename_of_named named
  simp only [annotate, required, bind, Except.bind, done]
  rfl

theorem annotate_of_error {options : FileOptions}
    (named : options.filename ≠ "") {source : String} {fault : Fault}
    (failed : annotateFile source.toList options = .error fault) :
    annotate source options =
      if fault.isFinal then .error .aborted else .ok none := by
  have required := FileOptions.requireFilename_of_named named
  simp only [annotate, required, bind, Except.bind, failed]
  rfl

theorem annotateFile_of_annotate {options : FileOptions} {source out : String}
    (done : annotate source options = .ok (some out)) :
    annotateFile source.toList options = .ok (some out.toList) := by
  simp only [annotate, bind, Except.bind] at done
  split at done
  · simp at done
  · split at done
    · next code changed =>
        simp only [pure, Except.pure, Except.ok.injEq,
          Option.map_eq_some_iff] at done
        obtain ⟨text, rfl, rfl⟩ := done
        rw [changed, String.toList_ofList]
    · split at done
      · simp [throw, throwThe, MonadExceptOf.throw] at done
      · simp [pure, Except.pure] at done

theorem annotateBlock_of_annotateFile {options : FileOptions}
    {source out : List Char}
    (done : annotateFile source options = .ok (some out)) :
    ∃ blocks block, splitBlocks source = .ok blocks ∧
      blocks.template = some block ∧
      annotateBlock source options block = .ok (some out) := by
  simp only [annotateFile, bind, Except.bind] at done
  split at done
  · simp at done
  · next blocks split =>
      split at done
      · simp [pure, Except.pure] at done
      · next block template =>
          split at done
          · exact ⟨blocks, block, split, template, done⟩
          · simp [pure, Except.pure] at done

/-- Whenever annotation changes a component file, it marks exactly the eligible
elements of its template. -/
theorem marksExactly_of_annotate {options : FileOptions}
    {source out : String} (named : options.filename ≠ "")
    (storable : Text.IsStorable source.toList)
    (done : annotate source options = .ok (some out)) :
    ∃ block nodes,
      MarksExactly options source.toList out.toList block nodes := by
  obtain ⟨blocks, block, split, template, changed⟩ :=
    annotateBlock_of_annotateFile (annotateFile_of_annotate done)
  obtain ⟨before, after, whole, start⟩ := template_in_source split template
  unfold annotateBlock at changed
  split at changed
  · simp at changed
  · next nodes success =>
      split at changed
      · simp at changed
      · simp only [Except.ok.injEq, Option.some.injEq] at changed
        refine ⟨block, nodes, ?_⟩
        have unmarked := areUnmarked_of_parse success
        have replaced : out.toList = before ++ (Insertion.interleave
            ((eligibleElements options nodes).map
              (Element.mark options.filename block.start)) 0 block.body ++
            after) := by
          rw [← changed, insertionsOfNodes_annotateNodes _ _ _ _ unmarked,
            Insertion.applyAll_eq_interleave, replaceBody, whole, start,
            Text.cutAt?_append]
          simp
        have marked : out.toList = Insertion.interleave
            ((eligibleElements options nodes).map
              (Element.mark options.filename 0)) 0 source.toList := by
          rw [replaced, start, whole]
          rw [start, whole] at success
          exact (interleave_marks options.filename success).symm
        have placed : ∀ element ∈ eligibleElements options nodes,
            ∃ before after,
              source.toList = before ++ '<' :: (element.tag.toList ++ after) ∧
              Text.byteLength before = element.place.offset ∧
              Location.decode? (String.ofList
                  (Marker.unescape (element.value options.filename).toList)) =
                some (Location.ofPosition options.filename
                  ((LineIndex.ofText source.toList).location
                    element.place.offset)) := by
          intro element eligible
          obtain ⟨located, front, back, text, place⟩ :=
            element_at_place success element (mem_of_eligible eligible)
          refine ⟨before ++ front, back ++ after, ?_, ?_,
            decode?_value named storable located⟩
          · rw [whole, text]
            simp
          · rw [place, start, Text.byteLength_append]
        have ordered : (eligibleElements options nodes).Pairwise
            fun first second => first.place.offset < second.place.offset :=
          (elements_pairwise success).filter _
        constructor
        · exact ⟨blocks, split, template⟩
        · rw [start, whole] at success
          rw [Block.stop, start, whole, parseRange_of_cut, success]
        · exact ⟨before, _, after, whole, start.symm, replaced⟩
        · exact marked
        · rw [marked, Insertion.unweave_interleave]
        · exact placed
        · exact ordered
        · rw [List.Nodup, List.pairwise_map]
          apply ordered.imp_of_mem
          intro first second firstMember secondMember earlier same
          obtain ⟨front, _, frontWhole, frontPlace, frontBack⟩ :=
            placed first firstMember
          obtain ⟨other, _, otherWhole, otherPlace, otherBack⟩ :=
            placed second secondMember
          rw [same, otherBack, Option.some.injEq, ← frontPlace,
            ← otherPlace] at frontBack
          have sameLocation : (LineIndex.ofText source.toList).location
              (Text.byteLength front) =
              (LineIndex.ofText source.toList).location
                (Text.byteLength other) :=
            (Location.ofPosition_injective frontBack).symm
          have sameOffset :=
            offset_eq_of_location_eq frontWhole otherWhole sameLocation
          omega

/-- A repeated branch of a choice in a file with a quote in its name. -/
theorem marksExactly_branch :
    let options : FileOptions := { filename := "a\"b.vue", ignored := [] }
    let source := "<template>é<li v-if=\"x\" v-for=\"x in y\"/></template>"
    let out := "<template>é<li data-locatorjs=\"a&quot;b.vue:1:11\" " ++
      "v-if=\"x\" v-for=\"x in y\"/></template>"
    options.filename ≠ "" ∧ Text.IsStorable source.toList ∧
      annotate source options = .ok (some out) ∧
      ∃ block nodes,
        MarksExactly options source.toList out.toList block nodes := by
  intro options source out
  have named : options.filename ≠ "" := by decide
  have storable : Text.IsStorable source.toList := by
    unfold Text.IsStorable
    decide +kernel
  have done : annotate source options = .ok (some out) :=
    eq_ok_of_toOption (by decide +kernel)
  exact ⟨named, storable, done, marksExactly_of_annotate named storable done⟩

end Template

end SourceMark
