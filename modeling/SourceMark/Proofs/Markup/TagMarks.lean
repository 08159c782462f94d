import SourceMark.Proofs.Markup.TagSearches
import SourceMark.Proofs.Text.Positions

/-!
# What marking does to a template

The tags of a template are found by a search from the left.  Each of them that
can be marked gets one attribute in front of the slash and the bracket that end
it, and nothing else changes.  The value of the attribute leads back to the
bracket that opens the tag.
-/

namespace SourceMark

namespace Markup

/-! ## Tags that can be marked -/

/-- A tag that gets a mark: it is no declaration and no comment, it stands for
an element of the page, nobody asked to leave it alone, and there is no mark
among its attributes. -/
structure IsMarkable (options : FileOptions) (tag : OpeningTag) : Prop where
  undeclared : tag.name.head? ≠ some '!'
  unstructural : ∀ name ∈ structuralTags,
    Text.sameIgnoringCase tag.name name.toList = false
  wanted : String.ofList tag.name ∉ options.ignored
  unmarked : ¬ Marker.combined.toList <:+: attributePart tag.inside

theorem isStructural_iff (name : List Char) :
    structuralTags.contains (String.ofList (Text.lowerAscii name)) = true ↔
      ∃ structural ∈ structuralTags,
        Text.sameIgnoringCase name structural.toList = true := by
  have lower : ∀ structural ∈ structuralTags,
      Text.lowerAscii structural.toList = structural.toList := by
    decide
  rw [List.contains_iff_mem]
  constructor
  · intro member
    refine ⟨_, member, ?_⟩
    have same := lower _ member
    rw [String.toList_ofList] at same
    simp [Text.sameIgnoringCase, same]
  · rintro ⟨structural, member, same⟩
    have equal : Text.lowerAscii name = structural.toList := by
      simpa [Text.sameIgnoringCase, lower structural member] using same
    rwa [equal, String.ofList_toList]

/-- Behind the attributes come only blanks and a slash. -/
theorem closes_of_mem_closingPart {character : Char} {text : List Char}
    (member : character ∈ closingPart text) :
    Text.isBlank character = true ∨ character = '/' := by
  induction text with
  | nil => simp [closingPart, beforeClosing] at member
  | cons first rest induction =>
      by_cases closes : isClosing (first :: rest) = true
      · have whole := List.takeWhile_append_dropWhile (p := Text.isBlank)
          (l := first :: rest)
        have all : closingPart (first :: rest) = first :: rest := by
          simp [closingPart, beforeClosing, closes]
        rw [all, ← whole] at member
        rcases List.mem_append.mp member with blank | later
        · exact .inl (List.all_eq_true.mp List.all_takeWhile _ blank)
        · right
          rcases (by simpa [isClosing] using closes :
            (first :: rest).dropWhile Text.isBlank = [] ∨
              (first :: rest).dropWhile Text.isBlank = ['/']) with none | slash
          · simp [none] at later
          · simpa [slash] using later
      · apply induction
        simpa [closingPart, beforeClosing, closes] using member

theorem isInfix_append_iff_of_foreign {part text more : List Char}
    (nonempty : part ≠ []) (foreign : ∀ character ∈ more, character ∉ part) :
    part <:+: text ++ more ↔ part <:+: text := by
  rw [List.infix_append_iff_ne_nil]
  constructor
  · rintro (inside | beyond | ⟨front, back, -, starts, rfl, -, leads⟩)
    · exact inside
    · obtain ⟨first, member⟩ := List.exists_mem_of_ne_nil part nonempty
      exact absurd member (foreign first (beyond.subset member))
    · obtain ⟨first, member⟩ := List.exists_mem_of_ne_nil back starts
      exact absurd (List.mem_append_right front member)
        (foreign first (leads.subset member))
  · exact .inl

/-- The name of a mark has neither a blank nor a slash in it, so it stands inside
of a tag where it stands among the attributes. -/
theorem combined_isInfix_attributePart_iff (inside : List Char) :
    Marker.combined.toList <:+: attributePart inside ↔
      Marker.combined.toList <:+: inside := by
  have plain : Marker.combined.toList.all
      (fun character => !(Text.isBlank character || character == '/')) =
        true := by
    decide
  conv => rhs; rw [← attributePart_append_closingPart inside]
  refine (isInfix_append_iff_of_foreign (by decide) ?_).symm
  intro character closing member
  have other := List.all_eq_true.mp plain character member
  rcases closes_of_mem_closingPart closing with blank | rfl
  · simp [blank] at other
  · simp at other

theorem isEligible_iff (options : FileOptions) (tag : OpeningTag) :
    isEligible options tag = true ↔ IsMarkable options tag := by
  have structural := isStructural_iff tag.name
  have unmarked := combined_isInfix_attributePart_iff tag.inside
  rw [← Text.occursIn_iff_isInfix _ tag.inside] at unmarked
  simp only [isEligible, FileOptions.ignores, Bool.and_eq_true,
    Bool.not_eq_true', bne_iff_ne, Bool.eq_false_iff, ne_eq, structural,
    List.contains_iff_mem]
  constructor
  · rintro ⟨⟨⟨undeclared, unstructural⟩, wanted⟩, occurs⟩
    refine ⟨undeclared, ?_, wanted, fun marked => occurs (unmarked.mp marked)⟩
    intro name member
    cases same : Text.sameIgnoringCase tag.name name.toList with
    | false => rfl
    | true => exact absurd ⟨name, member, same⟩ unstructural
  · rintro ⟨undeclared, unstructural, wanted, absent⟩
    refine ⟨⟨⟨undeclared, ?_⟩, wanted⟩, fun occurs =>
      absent (unmarked.mpr occurs)⟩
    rintro ⟨name, member, same⟩
    simp [unstructural name member] at same

theorem OpeningTag.closing_eq_slashOf (tag : OpeningTag) :
    tag.closing = slashOf tag.inside ++ ['>'] := by
  unfold OpeningTag.closing OpeningTag.isSelfClosing slashOf Template.closing
  by_cases slash : tag.inside.getLast? = some '/'
  · simp [slash]
  · simp [slash]

/-! ## Marked texts -/

/-- An attribute with a value that is read as a location once its escapes are
put back. -/
def Shows (location : Location) (mark : List Char) : Prop :=
  ∃ value,
    mark = ' ' :: (Marker.combined.toList ++ '=' :: '"' ::
      (value ++ ['"'])) ∧
    '"' ∉ value ∧
    Location.decode? (String.ofList (Marker.unescape value)) = some location

/-- A text in which each of some tags has got an attribute that shows where it
opens, and nothing else is different.  In front of the text stands another part
of the file, from whose start positions count. -/
inductive MarksEach (filename : String) :
    List Char → List OpeningTag → List Char → List Char → Prop where
  | rest {ahead text : List Char} : MarksEach filename ahead [] text text
  | tag {ahead before mark after out : List Char} {tag : OpeningTag}
      {later : List OpeningTag}
      (place : tag.start = Text.byteLength (ahead ++ before))
      (shows : Shows (Location.ofPosition filename
        (Position.behind (ahead ++ before))) mark)
      (further : MarksEach filename (ahead ++ before ++ tag.text) later
        after out) :
      MarksEach filename ahead (tag :: later)
        (before ++ '<' :: (tag.name ++ (tag.unslashed ++
          (slashOf tag.inside ++ '>' :: after))))
        (before ++ '<' :: (tag.name ++ (tag.unslashed ++ (mark ++
          (slashOf tag.inside ++ '>' :: out)))))

namespace MarksEach

variable {filename : String} {ahead text out : List Char}
  {tags : List OpeningTag}

/-- What is passed over in front of the tags stays. -/
theorem behind (front : List Char)
    (marked : MarksEach filename (ahead ++ front) tags text out) :
    MarksEach filename ahead tags (front ++ text) (front ++ out) := by
  cases marked with
  | rest => exact .rest
  | @tag _ before mark after later tag others place shows further =>
      have whole := @MarksEach.tag _ ahead (front ++ before) _ _ _ _ _
        (by rw [← List.append_assoc, place]) (by rwa [← List.append_assoc])
        (by rwa [← List.append_assoc])
      simpa only [List.append_assoc] using whole

end MarksEach

/-- The attribute that marks a tag shows where the tag opens. -/
theorem shows_attributeText {filename : String} (named : filename ≠ "")
    {before after : List Char} (storable : Text.IsStorable (before ++ after)) :
    Shows (Location.ofPosition filename (Position.behind before))
      (Marker.attributeText Marker.combined (Location.ofPosition filename
        ((LineIndex.ofText (before ++ after)).location
          (Text.byteLength before)))).toList := by
  have fits := LineIndex.location_lt_wordBound storable
    (Text.byteLength before)
  rw [LineIndex.location_byteLength] at fits ⊢
  refine ⟨_, Marker.attributeText_toList _ _, Marker.quote_notMem_escape _, ?_⟩
  rw [Marker.unescape_of_escape, String.ofList_toList]
  exact Location.decode?_of_encode named fits.1 fits.2

section Marks

variable {options : FileOptions} {source : List Char}

/-- What marking puts into a tag of a file. -/
def markText (filename : String) (source : List Char) (tag : OpeningTag) :
    String :=
  Marker.attributeText Marker.combined (tag.location filename source)

/-- One pass over a text marks each tag of a scan that is eligible. -/
theorem marksEach_interleave (named : options.filename ≠ "")
    (storable : Text.IsStorable source) {ahead text : List Char}
    (whole : source = ahead ++ text) :
    let offset := Text.byteLength ahead
    MarksEach options.filename ahead
      ((OpeningTag.scan offset text).filter (isEligible options)) text
      (Insertion.interleave (OpeningTag.insertions options
        (markText options.filename source) offset text) offset text) := by
  intro offset
  have open_ : '<'.utf8Size = 1 := rfl
  have passed := OpeningTag.interleave_insertions_append options
    (markText options.filename source)
  have place : Text.byteLength ahead = offset := rfl
  unfold OpeningTag.insertions at passed ⊢
  clear_value offset
  fun_induction OpeningTag.scan offset text generalizing ahead with
  | case1 offset =>
      rw [List.filter_nil, List.map_nil, Insertion.interleave_nil]
      exact .rest
  | case2 offset rest tag later found induction =>
      obtain ⟨start, split, -⟩ := OpeningTag.isFound_of_read? found
      have further := @induction (ahead ++ tag.text)
        (by rw [whole, split, List.append_assoc])
        (by rw [Text.byteLength_append, place, ← start, OpeningTag.stop_eq])
      cases eligible : isEligible options tag with
      | true =>
          have behind : ∀ other ∈ (OpeningTag.scan tag.stop later).filter
              (isEligible options), tag.stop ≤ other.start := by
            intro other member
            obtain ⟨_, _, _, start, _⟩ :=
              OpeningTag.mem_scan (List.mem_filter.mp member).1
            omega
          have pass := @interleave_insertion
            (markText options.filename source) _ _ behind later
          rw [List.filter_cons_of_pos eligible]
          rw [← split, start] at pass
          rw [pass, split, tag.text_eq, tag.closing_eq_slashOf]
          have opens : tag.start = Text.byteLength (ahead ++ []) := by
            rw [List.append_nil, place, start]
          have marked := @MarksEach.tag options.filename ahead []
            (markText options.filename source tag).toList _ _ _ _ opens (by
              rw [markText, OpeningTag.location, opens, whole,
                List.append_nil]
              exact shows_attributeText named (whole ▸ storable))
            (by rwa [List.append_nil])
          simpa only [List.nil_append, List.cons_append, List.append_assoc]
            using marked
      | false =>
          have pass := passed tag.text later tag.start
          rw [← OpeningTag.stop_eq, ← split, start] at pass
          rw [List.filter_cons_of_neg (by simp [eligible]), pass, split]
          exact further.behind tag.text
  | case3 offset rest missed induction =>
      have pass := passed ['<'] rest offset
      simp only [List.singleton_append, Text.byteLength, open_,
        Nat.add_zero] at pass
      rw [pass]
      apply MarksEach.behind ['<']
      apply induction
      · rw [whole, List.append_assoc, List.singleton_append]
      · rw [Text.byteLength_append, place]
        rfl
  | case4 offset character rest other induction =>
      have pass := passed [character] rest offset
      simp only [List.singleton_append, Text.byteLength, Nat.add_zero] at pass
      rw [pass]
      apply MarksEach.behind [character]
      apply induction
      · rw [whole, List.append_assoc, List.singleton_append]
      · rw [Text.byteLength_append, place]
        rfl

/-- Marking a template, in all details. -/
structure MarksTags (options : FileOptions) (source : List Char)
    (result : Annotation) : Prop where
  /-- A search from the left finds these tags and no others. -/
  found : ∀ tags, Text.Finds OpeningTag.StandsAt 0 source tags ↔
    tags = OpeningTag.scan 0 source
  /-- They are the matches of the expression of a tag, and what is asked for
  are the name, the attributes and the slash. -/
  matched : ∀ occurrences,
    Text.Finds tagExpression.Matches 0 source occurrences ↔
      occurrences = (OpeningTag.scan 0 source).map OpeningTag.occurrence
  eligible : ∀ tag, tag ∈ eligibleTags options source ↔
    tag ∈ OpeningTag.scan 0 source ∧ IsMarkable options tag
  unchanged : result = .ok none ↔
    ∀ tag ∈ OpeningTag.scan 0 source, ¬ IsMarkable options tag
  changed : (∃ tag ∈ OpeningTag.scan 0 source, IsMarkable options tag) →
    ∃ out, result = .ok (some out) ∧
      MarksEach options.filename [] (eligibleTags options source) source
        out.toList

theorem mem_eligibleTags_iff {tag : OpeningTag} :
    tag ∈ eligibleTags options source ↔
      tag ∈ OpeningTag.scan 0 source ∧ IsMarkable options tag := by
  rw [eligibleTags, List.mem_filter, isEligible_iff]

theorem insertAll_eq_none_iff {insertions : List Insertion} :
    insertAll source insertions = none ↔ insertions = [] := by
  cases insertions with
  | nil => simp [insertAll]
  | cons insertion later => simp [insertAll]

theorem annotateTemplate_of_named (named : options.filename ≠ "")
    (source : String) :
    annotateTemplate source options = .ok (insertAll source.toList
      (templateInsertions source.toList options)) := by
  rw [annotateTemplate, FileOptions.requireFilename_of_named named]
  rfl

theorem annotateTemplate_eq_none_iff {source : String}
    (named : options.filename ≠ "") :
    annotateTemplate source options = .ok none ↔
      eligibleTags options source.toList = [] := by
  rw [annotateTemplate_of_named named, Except.ok.injEq,
    insertAll_eq_none_iff, templateInsertions_eq, List.map_eq_nil_iff]

/-- A template is marked tag by tag: each tag that can be marked gets one
attribute, which shows where it opens, and a template without such a tag stays
as it is. -/
theorem marksTags_of_annotateTemplate {source : String}
    (named : options.filename ≠ "")
    (storable : Text.IsStorable source.toList) :
    MarksTags options source.toList (annotateTemplate source options) where
  found := Text.Finds.iff_eq OpeningTag.isDetermined_standsAt
    (OpeningTag.finds_scan 0 source.toList)
  matched := Text.Finds.iff_eq
    (Text.SearchExpression.isDetermined_matches tagExpression)
    (OpeningTag.finds_occurrences 0 source.toList)
  eligible := fun _ => mem_eligibleTags_iff
  unchanged := by
    rw [annotateTemplate_eq_none_iff named, List.eq_nil_iff_forall_not_mem]
    simp only [mem_eligibleTags_iff, not_and]
  changed := by
    rintro ⟨tag, member, markable⟩
    have eligible := mem_eligibleTags_iff.mpr ⟨member, markable⟩
    have given := annotateTemplate_of_named named source
    cases inserted : insertAll source.toList
        (templateInsertions source.toList options) with
    | none =>
        rw [inserted] at given
        rw [(annotateTemplate_eq_none_iff named).mp given] at eligible
        cases eligible
    | some out =>
        rw [inserted] at given
        refine ⟨out, given, ?_⟩
        rw [interleave_of_annotateTemplate given]
        exact marksEach_interleave named storable rfl

/-- Slashes at several places, a comment, an element of no page in capitals, a
name that is left alone, a quoted slash, a bracket and a mark among attributes,
and a tag that ends nowhere. -/
theorem marksTags_slashes :
    let options : FileOptions :=
      { filename := "a\"&b.html", ignored := ["hr"] }
    let source := "<a //><br / ><!-- <i> --><NG-Content/><hr/>é\n<q/>" ++
      "<b \"/\"><s x<u></u/><p data-locatorjs/><em / "
    let out := "<a / data-locatorjs=\"a&quot;&amp;b.html:1:0\"/>" ++
      "<br /  data-locatorjs=\"a&quot;&amp;b.html:1:6\">" ++
      "<!-- <i> --><NG-Content/><hr/>é\n" ++
      "<q data-locatorjs=\"a&quot;&amp;b.html:2:0\"/>" ++
      "<b \"/\" data-locatorjs=\"a&quot;&amp;b.html:2:4\">" ++
      "<s x<u data-locatorjs=\"a&quot;&amp;b.html:2:11\"></u/>" ++
      "<p data-locatorjs/><em / "
    options.filename ≠ "" ∧ Text.IsStorable source.toList ∧
      annotateTemplate source options = .ok (some out) ∧
      MarksTags options source.toList (annotateTemplate source options) := by
  intro options source out
  have named : options.filename ≠ "" := by decide
  have storable : Text.IsStorable source.toList := by
    unfold Text.IsStorable
    decide +kernel
  have done : annotateTemplate source options = .ok (some out) :=
    eq_ok_of_toOption (by decide +kernel)
  exact ⟨named, storable, done, marksTags_of_annotateTemplate named storable⟩

end Marks

end Markup

end SourceMark
