import SourceMark.Proofs.Evaluation
import SourceMark.Proofs.Markup.Reading

/-!
# Marks of a template of plain markup

A template of plain markup is marked in one pass, and each eligible tag that a
reader gets through keeps its attributes exactly when its mark does not come
into one of their values.
-/

namespace SourceMark

namespace Markup

open Template (OpenTag TagPlace readOpenTag)

/-- The tags of a text that get a mark. -/
def eligibleTags (options : FileOptions) (source : List Char) :
    List OpeningTag :=
  (OpeningTag.scan 0 source).filter (isEligible options)

namespace OpeningTag

/-- The location that the mark of a tag carries. -/
def location (filename : String) (source : List Char) (tag : OpeningTag) :
    Location :=
  Location.ofPosition filename ((LineIndex.ofText source).location tag.start)

/-- The insertion that puts a text into a tag. -/
def insertion (write : OpeningTag → String) (tag : OpeningTag) :
    Insertion where
  offset := tag.attributeOffset
  text := write tag

/-- The insertion that marks a tag. -/
def mark (filename : String) (source : List Char) (tag : OpeningTag) :
    Insertion where
  offset := tag.attributeOffset
  text := Marker.attributeText Marker.combined (tag.location filename source)

end OpeningTag

section Source

variable {options : FileOptions} {source : List Char}

theorem templateInsertions_eq (options : FileOptions) (source : List Char) :
    templateInsertions source options = (eligibleTags options source).map
      (OpeningTag.mark options.filename source) := by
  simp only [templateInsertions, markedTags, eligibleTags, List.map_map]
  rfl

theorem mem_eligibleTags {tag : OpeningTag}
    (member : tag ∈ eligibleTags options source) :
    ∃ before after, source = before ++ (tag.text ++ after) ∧
      tag.start = Text.byteLength before ∧ tag.IsFound := by
  obtain ⟨before, after, whole, place, found⟩ :=
    OpeningTag.mem_scan (List.mem_filter.mp member).1
  exact ⟨before, after, whole, by simpa using place, found⟩

theorem eligibleTags_pairwise (options : FileOptions) (source : List Char) :
    (eligibleTags options source).Pairwise
      fun first second => first.stop ≤ second.start :=
  (OpeningTag.scan_pairwise 0 source).filter _

/-- A reader of markup takes an eligible tag for a tag too. -/
theorem isAsciiLetter_of_eligible {tag : OpeningTag}
    (eligible : isEligible options tag = true) (found : tag.IsFound) :
    ∃ first ∈ tag.name.head?, Text.isAsciiLetter first = true := by
  obtain ⟨first, starts, begins⟩ := found.begins
  refine ⟨first, starts, ?_⟩
  have declared : first ≠ '!' := by
    rintro rfl
    have same : tag.name.head? = some '!' := starts
    simp [isEligible, same] at eligible
  simpa [isNameStart, declared] using begins

/-- What has come out of a file with a name is the file with its insertions
carried out. -/
theorem toList_of_insertAll {insertions : List Insertion} {out : String}
    (done : (do
      let _ ← options.requireFilename
      return insertAll source insertions) = Except.ok (some out)) :
    out.toList = splice 0 source insertions := by
  simp only [bind, Except.bind] at done
  split at done
  · simp at done
  · simp only [pure, Except.pure, Except.ok.injEq, insertAll] at done
    split at done
    · simp at done
    · obtain rfl := by simpa using done
      rw [String.toList_ofList]

/-- Marking a template is one pass over it. -/
theorem interleave_of_annotateTemplate {source out : String}
    (done : annotateTemplate source options = .ok (some out)) :
    out.toList = Insertion.interleave
      ((eligibleTags options source.toList).map
        (OpeningTag.mark options.filename source.toList)) 0 source.toList := by
  rw [toList_of_insertAll done, templateInsertions_eq]
  apply splice_eq_interleave
  · intro insertion member
    obtain ⟨tag, eligible, rfl⟩ := List.mem_map.mp member
    obtain ⟨before, after, whole, place, _⟩ := mem_eligibleTags eligible
    refine ⟨before ++ '<' :: (tag.name ++ tag.unslashed),
      tag.closing ++ after, ?_, ?_⟩
    · rw [whole, OpeningTag.text_eq]
      simp
    · simp only [OpeningTag.mark, OpeningTag.attributeOffset_eq, place,
        Text.byteLength_append, Nat.zero_add]
  · rw [List.pairwise_map]
    apply (eligibleTags_pairwise options source.toList).imp
    intro first second behind
    have inside := first.attributeOffset_lt_stop
    have beyond := second.attributeOffset_eq
    simp only [OpeningTag.mark]
    omega

/-- A text is put into the first of some tags, and what follows the tag is
passed over as before. -/
theorem interleave_insertion {write : OpeningTag → String} {tag : OpeningTag}
    {later : List OpeningTag}
    (behind : ∀ other ∈ later, tag.stop ≤ other.start) (after : List Char) :
    Insertion.interleave ((tag :: later).map (OpeningTag.insertion write))
        tag.start (tag.text ++ after) =
      '<' :: (tag.name ++ (tag.unslashed ++ ((write tag).toList ++
        (tag.closing ++ Insertion.interleave
          (later.map (OpeningTag.insertion write)) tag.stop after)))) := by
  have place := tag.attributeOffset_eq
  have beyond : ∀ insertion ∈ later.map (OpeningTag.insertion write),
      tag.stop ≤ insertion.offset := by
    intro insertion member
    obtain ⟨other, inside, rfl⟩ := List.mem_map.mp member
    have := behind other inside
    have := other.attributeOffset_eq
    simp only [OpeningTag.insertion]
    omega
  have within := tag.attributeOffset_lt_stop
  have split : tag.text ++ after =
      '<' :: (tag.name ++ tag.unslashed) ++ (tag.closing ++ after) := by
    rw [OpeningTag.text_eq]
    simp
  have ends : tag.attributeOffset + Text.byteLength tag.closing =
      tag.stop := by
    rw [place, OpeningTag.stop_eq, OpeningTag.text_eq]
    simp only [Text.byteLength, Text.byteLength_append]
    omega
  rw [List.map_cons, split, Insertion.interleave_cons_of_cut,
    Insertion.interleave_skip]
  · simp only [OpeningTag.insertion, ends, List.cons_append,
      List.append_assoc]
  · intro insertion member
    simp only [OpeningTag.insertion, ends]
    exact beyond insertion member
  · exact place.symm
  · intro insertion member
    have := beyond insertion member
    simp only [OpeningTag.insertion]
    omega

theorem interleave_tag {filename : String} {tag : OpeningTag}
    {later : List OpeningTag}
    (behind : ∀ other ∈ later, tag.stop ≤ other.start) (after : List Char) :
    Insertion.interleave
        ((tag :: later).map (OpeningTag.mark filename source)) tag.start
        (tag.text ++ after) =
      tag.marked (tag.location filename source) ++ Insertion.interleave
        (later.map (OpeningTag.mark filename source)) tag.stop after := by
  have same : OpeningTag.mark filename source =
      OpeningTag.insertion fun tag =>
        Marker.attributeText Marker.combined (tag.location filename source) :=
    rfl
  rw [same, interleave_insertion behind]
  simp only [OpeningTag.marked, Template.Addition.mark, List.cons_append,
    List.append_assoc]

end Source

/-- A tag that a reader gets through keeps its attributes and gains a mark
exactly when the mark does not come into a value. -/
theorem gainsMark_iff_isFree {options : FileOptions} {source out : String}
    (done : annotateTemplate source options = .ok (some out))
    {earlier later : List OpeningTag} {tag : OpeningTag}
    (split : eligibleTags options source.toList = earlier ++ tag :: later)
    {before rest : List Char} (whole : source.toList = before ++ rest)
    (start : Text.byteLength before = tag.start)
    {read : OpenTag} {behind : Cursor}
    (reads : readOpenTag { rest, offset := tag.start } =
      .ok (some (read, behind))) :
    let front := Insertion.interleave
      (earlier.map (OpeningTag.mark options.filename source.toList)) 0 before
    ∃ back, out.toList = front ++ back ∧
      ((∃ again beyond,
          readOpenTag { rest := back, offset := Text.byteLength front } =
            .ok (some (again, beyond)) ∧
          GainsMark read again) ↔
        tag.place.isFree tag.isSelfClosing = true) := by
  intro front
  have member : tag ∈ eligibleTags options source.toList := by
    simp [split]
  obtain ⟨lead, after, text, place, found⟩ := mem_eligibleTags member
  have eligible := (List.mem_filter.mp member).2
  have letter := isAsciiLetter_of_eligible eligible found
  have unmarked : Text.occursIn Marker.combined.toList tag.inside = false := by
    simp only [isEligible, Bool.and_eq_true, Bool.not_eq_true'] at eligible
    exact eligible.2
  obtain ⟨rfl, rfl⟩ := Text.append_eq_append_of_byteLength
    (whole.symm.trans text) (start.trans place)
  have ordered := eligibleTags_pairwise options source.toList
  rw [split, List.pairwise_append, List.pairwise_cons] at ordered
  obtain ⟨_, ⟨following, _⟩, preceding⟩ := ordered
  have inside : ∀ insertion ∈
      earlier.map (OpeningTag.mark options.filename source.toList),
      insertion.offset < 0 + Text.byteLength before := by
    intro insertion member
    obtain ⟨other, among, rfl⟩ := List.mem_map.mp member
    have ends := preceding other among tag (by simp)
    have within := other.attributeOffset_lt_stop
    simp only [OpeningTag.mark]
    omega
  have beyond : ∀ insertion ∈
      (tag :: later).map (OpeningTag.mark options.filename source.toList),
      0 + Text.byteLength before ≤ insertion.offset := by
    intro insertion member
    obtain ⟨other, among, rfl⟩ := List.mem_map.mp member
    have within := other.attributeOffset_eq
    have ends := tag.attributeOffset_lt_stop
    have begins := tag.attributeOffset_eq
    simp only [OpeningTag.mark]
    rcases List.mem_cons.mp among with rfl | further
    · omega
    · have := following other further
      omega
  have pass := interleave_of_annotateTemplate done
  have cut := Insertion.interleave_append_of_cut (tag.text ++ after) inside
    beyond
  rw [← whole] at cut
  rw [split, List.map_append, cut, Nat.zero_add, start,
    interleave_tag following] at pass
  refine ⟨_, pass, ?_⟩
  constructor
  · rintro ⟨again, past, readsAgain, gains⟩
    exact OpeningTag.isFree_of_gainsMark found letter unmarked reads readsAgain
      gains
  · intro free
    exact OpeningTag.gainsMark_of_isFree found letter free _ _ _ reads

/-- The second tag of a list, whose quoted value has no bracket in it. -/
theorem gainsMark_item :
    let options : FileOptions := { filename := "t.html", ignored := [] }
    let source := "<ul><li a='é' b/></ul>"
    let out := "<ul data-locatorjs=\"t.html:1:0\">" ++
      "<li a='é' b data-locatorjs=\"t.html:1:4\"/></ul>"
    let list : OpeningTag := { start := 0, name := ['u', 'l'], inside := [] }
    let item : OpeningTag :=
      { start := 4, name := ['l', 'i'], inside := " a='é' b/".toList }
    let rest := "<li a='é' b/></ul>".toList
    ∃ read behind, annotateTemplate source options = .ok (some out) ∧
      eligibleTags options source.toList = [list] ++ item :: [] ∧
      source.toList = "<ul>".toList ++ rest ∧
      Text.byteLength "<ul>".toList = item.start ∧
      readOpenTag { rest, offset := item.start } = .ok (some (read, behind)) ∧
      let front := Insertion.interleave
        ([list].map (OpeningTag.mark options.filename source.toList)) 0
        "<ul>".toList
      ∃ back, out.toList = front ++ back ∧
        ((∃ again beyond,
            readOpenTag { rest := back, offset := Text.byteLength front } =
              .ok (some (again, beyond)) ∧
            GainsMark read again) ↔
          item.place.isFree item.isSelfClosing = true) := by
  intro options source out list item rest
  have done : annotateTemplate source options = .ok (some out) :=
    eq_ok_of_toOption (by decide +kernel)
  have split : eligibleTags options source.toList = [list] ++ item :: [] := by
    decide +kernel
  have whole : source.toList = "<ul>".toList ++ rest := by decide
  have start : Text.byteLength "<ul>".toList = item.start := by decide
  have reads : readOpenTag { rest, offset := item.start } = .ok (some ({
        name := "li"
        attributes := [
          { name := "a", value := some "é", isAdded := false },
          { name := "b", value := none, isAdded := false }]
        selfClosing := true },
      { rest := "</ul>".toList, offset := 18 })) :=
    eq_ok_of_toOption (by decide +kernel)
  exact ⟨_, _, done, split, whole, start, reads,
    gainsMark_iff_isFree done split whole start reads⟩

/-- A comparison in quotes.  The scan ends the tag inside the quotes, and the
value is another one afterwards. -/
theorem not_gainsMark_comparison :
    let options : FileOptions := { filename := "t.html", ignored := [] }
    let source := "<p title=\"a>b\">x</p>"
    let out := "<p title=\"a data-locatorjs=\"t.html:1:0\">b\">x</p>"
    ∃ tag ∈ eligibleTags options source.toList, ∃ read behind again beyond,
      annotateTemplate source options = .ok (some out) ∧
      readOpenTag { rest := source.toList, offset := tag.start } =
        .ok (some (read, behind)) ∧
      readOpenTag { rest := out.toList, offset := tag.start } =
        .ok (some (again, beyond)) ∧
      ¬ GainsMark read again := by
  intro options source out
  refine ⟨{ start := 0, name := ['p'], inside := " title=\"a".toList },
    by decide +kernel, {
      name := "p"
      attributes := [{ name := "title", value := some "a>b", isAdded := false }]
      selfClosing := false },
    { rest := "x</p>".toList, offset := 15 }, {
      name := "p"
      attributes := [
        { name := "title", value := some "a data-locatorjs=", isAdded := false },
        { name := "t.html:1:0\"", value := none, isAdded := false }]
      selfClosing := false },
    { rest := "b\">x</p>".toList, offset := 40 },
    eq_ok_of_toOption (by decide +kernel),
    eq_ok_of_toOption (by decide +kernel),
    eq_ok_of_toOption (by decide +kernel), ?_⟩
  have unmarked : ∀ given ∈ ([] : List Template.TagAttribute),
      given.name ≠ Marker.combined := by
    simp
  exact not_gainsMark unmarked (by decide) (by decide) rfl rfl

end Markup

end SourceMark
