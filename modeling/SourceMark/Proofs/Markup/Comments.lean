import SourceMark.Proofs.Markup.TagMarks

/-!
# Comments between tags

A scan for tags knows no comments.  It takes the opening mark of a comment for
a tag when a blank, a closing bracket or a slash with one stands behind the mark
and the characters of names that follow it, and then it passes over the comment
up to its first bracket.  All that is left is searched like any other text: a
comment is left alone exactly when no tag that can be marked stands there.
-/

namespace SourceMark

/-- No text gets shorter by what is put in. -/
theorem Insertion.length_le_weave (insertions : List Insertion) (offset : Nat)
    (text : List Char) :
    text.length ≤ (weave insertions offset text).length := by
  induction text generalizing offset with
  | nil => simp
  | cons character rest induction =>
      have := induction (offset + character.utf8Size)
      simp only [weave, List.length_append, List.length_cons]
      omega

/-- What is put in in front of more text is seen. -/
theorem Insertion.weave_ne_self {insertions : List Insertion} {offset : Nat}
    {before after : List Char} {insertion : Insertion}
    (member : insertion ∈ insertions)
    (place : insertion.offset = offset + Text.byteLength before)
    (given : insertion.text.toList ≠ []) (further : after ≠ []) :
    weave insertions offset (before ++ after) ≠ before ++ after := by
  obtain ⟨character, others, rfl⟩ := List.exists_cons_of_ne_nil further
  intro same
  have here : textsAt insertions (offset + Text.byteLength before) ≠ [] := by
    intro nothing
    have found := List.flatMap_eq_nil_iff.mp nothing insertion
      (List.mem_filter.mpr ⟨member, by simpa using place⟩)
    exact given found
  have added := List.length_pos_iff.mpr here
  have first := length_le_weave insertions offset before
  have second := length_le_weave insertions
    (offset + Text.byteLength before + character.utf8Size) others
  have length := congrArg List.length same
  rw [weave_append, weave] at length
  simp only [List.length_append, List.length_cons] at length
  omega

namespace Markup

/-! ## Texts one behind the other -/

/-- Behind every opening bracket of a text there is a closing one. -/
def IsClosed (text : List Char) : Prop :=
  ∀ before after, text = before ++ '<' :: after → '>' ∈ after

theorem IsClosed.behind {rest : List Char} (front : List Char)
    (closed : IsClosed (front ++ rest)) : IsClosed rest := by
  rintro before after rfl
  exact closed (front ++ before) after (List.append_assoc ..).symm

theorem isClosed_of_bracketless {text : List Char} (bracketless : '<' ∉ text) :
    IsClosed text := by
  rintro before after rfl
  exact absurd (List.mem_append_right before List.mem_cons_self) bracketless

theorem IsClosed.append {first second : List Char} (left : IsClosed first)
    (right : IsClosed second) : IsClosed (first ++ second) := by
  intro before after whole
  rcases List.append_eq_append_iff.mp whole with
    ⟨between, rfl, split⟩ | ⟨between, rfl, split⟩
  · exact right between after split
  · cases between with
    | nil => exact right [] after split.symm
    | cons bracket others =>
        obtain ⟨rfl, rfl⟩ := List.cons.inj split
        exact List.mem_append_left second (left before others rfl)

/-- A text with a bracket at its end is closed. -/
theorem isClosed_append (text : List Char) : IsClosed (text ++ ['>']) := by
  intro before after whole
  have last : (text ++ ['>']).getLast? = some '>' := by simp
  rw [whole] at last
  cases after with
  | nil => simp at last
  | cons first others =>
      apply List.mem_of_getLast?
      simpa using last

section Spans

variable (test : Char → Bool) {text : List Char} {character : Char}

theorem mem_dropWhile_of_stops (member : character ∈ text)
    (stops : test character = false) : character ∈ text.dropWhile test := by
  rw [← List.takeWhile_append_dropWhile (p := test) (l := text)] at member
  rcases List.mem_append.mp member with taken | left
  · have passes := List.all_eq_true.mp List.all_takeWhile character taken
    simp [passes] at stops
  · exact left

/-- A run that ends in a text ends there whatever follows the text. -/
theorem span_append_of_stops (member : character ∈ text)
    (stops : test character = false) (more : List Char) :
    (text ++ more).takeWhile test = text.takeWhile test ∧
      (text ++ more).dropWhile test = text.dropWhile test ++ more := by
  have whole := List.takeWhile_append_dropWhile (p := test) (l := text)
  have failed := List.head?_dropWhile_not test text
  have passes : ∀ other ∈ text.takeWhile test, test other = true :=
    List.all_eq_true.mp List.all_takeWhile
  have ends : ∀ other ∈ (text.dropWhile test ++ more).head?,
      test other = false := by
    have left := mem_dropWhile_of_stops test member stops
    cases behind : text.dropWhile test with
    | nil => simp [behind] at left
    | cons first others => simpa [behind] using failed
  have split := span_append test (text.dropWhile test ++ more) passes ends
  rwa [← List.append_assoc, whole] at split

end Spans

namespace OpeningTag

/-- A tag of which the bracket is in sight is read whatever follows. -/
theorem read?_append {text : List Char} (member : '>' ∈ text) (start : Nat)
    (more : List Char) :
    read? start (text ++ more) =
      (read? start text).map fun (tag, rest) => (tag, rest ++ more) := by
  cases text with
  | nil => simp at member
  | cons first text =>
      rw [List.cons_append, read?, read?]
      by_cases begins : isNameStart first = true
      · have other : first ≠ '>' := by
          rintro rfl
          exact absurd begins (by decide)
        have inside : '>' ∈ text := by simpa [Ne.symm other] using member
        obtain ⟨name, later⟩ := span_append_of_stops isNameCharacter inside
          (by decide) more
        have behind : '>' ∈ text.dropWhile isNameCharacter :=
          mem_dropWhile_of_stops isNameCharacter inside (by decide)
        obtain ⟨inner, ending⟩ := span_append_of_stops (· != '>') behind
          (by decide) more
        rw [if_pos begins, if_pos begins]
        simp only [name, later, inner, ending]
        have bracket : '>' ∈ (text.dropWhile isNameCharacter).dropWhile
            (· != '>') := mem_dropWhile_of_stops _ behind (by decide)
        generalize (text.dropWhile isNameCharacter).dropWhile (· != '>') =
          left at bracket
        cases left with
        | nil => cases bracket
        | cons closing rest =>
            simp only [List.cons_append]
            split
            · rfl
            · rfl
      · simp [begins]

/-- How a search takes the opening mark of a comment that has an end: for a tag
when what follows the mark and the characters of names behind it can stand in a
tag, and for text when not. -/
theorem read?_commentMark {closed : List Char} (member : '>' ∈ closed)
    (offset : Nat) :
    let later := closed.dropWhile isNameCharacter
    read? offset ('!' :: '-' :: '-' :: closed) =
      if isInside (later.takeWhile (· != '>')) then
        some ({
          start := offset
          name := '!' :: '-' :: '-' :: closed.takeWhile isNameCharacter
          inside := later.takeWhile (· != '>') },
          (later.dropWhile (· != '>')).tail)
      else
        none := by
  intro later
  have start : isNameStart '!' = true := by decide
  have dash : isNameCharacter '-' = true := by decide
  have bracket : '>' ∈ later.dropWhile (· != '>') :=
    mem_dropWhile_of_stops _
      (mem_dropWhile_of_stops isNameCharacter member (by decide)) (by decide)
  cases left : later.dropWhile (· != '>') with
  | nil => simp [left] at bracket
  | cons closing rest => simp [read?, start, dash, later, left]

/-- A scan goes through closed texts one after the other. -/
theorem scan_append_of_isClosed {text : List Char} (closed : IsClosed text)
    (offset : Nat) (more : List Char) :
    scan offset (text ++ more) =
      scan offset text ++ scan (offset + Text.byteLength text) more := by
  fun_induction scan offset text with
  | case1 => rfl
  | case2 offset rest tag later found induction =>
      obtain ⟨start, whole, -⟩ := isFound_of_read? found
      have bracket : '>' ∈ rest := closed [] rest rfl
      have read := read?_append bracket offset more
      rw [found] at read
      rw [List.cons_append, scan_of_read? read, induction, List.cons_append]
      · rw [whole, Text.byteLength_append, ← Nat.add_assoc, ← start,
          ← stop_eq]
      · rw [whole] at closed
        exact IsClosed.behind tag.text closed
  | case3 offset rest missed induction =>
      have bracket : '>' ∈ rest := closed [] rest rfl
      have read := read?_append bracket offset more
      rw [missed] at read
      rw [List.cons_append, scan_of_missed read, induction, Nat.add_assoc]
      · rfl
      · exact IsClosed.behind ['<'] closed
  | case4 offset character rest other induction =>
      rw [List.cons_append, scan, if_neg other, induction, Nat.add_assoc]
      · rfl
      · exact IsClosed.behind [character] closed

/-- The tag as it stands in a text with more in front of it. -/
def moved (base : Nat) (tag : OpeningTag) : OpeningTag :=
  { tag with start := base + tag.start }

theorem read?_moved (base start : Nat) (text : List Char) :
    read? (base + start) text =
      (read? start text).map fun (tag, rest) => (tag.moved base, rest) := by
  cases text with
  | nil => rfl
  | cons first text =>
      rw [read?, read?]
      split
      · simp only
        split
        · rfl
        · split
          · rfl
          · rfl
      · rfl

theorem scan_moved (base offset : Nat) (text : List Char) :
    scan (base + offset) text = (scan offset text).map (moved base) := by
  fun_induction scan offset text with
  | case1 => rw [scan, List.map_nil]
  | case2 offset rest tag later found induction =>
      have read := read?_moved base offset rest
      rw [found] at read
      have stop : (tag.moved base).stop = base + tag.stop := by
        simp only [OpeningTag.stop, moved, Nat.add_assoc]
      rw [scan_of_read? read, stop, induction, List.map_cons]
  | case3 offset rest missed induction =>
      have read := read?_moved base offset rest
      rw [missed] at read
      rw [scan_of_missed read, Nat.add_assoc, induction]
  | case4 offset character rest other induction =>
      rw [scan, if_neg other, Nat.add_assoc, induction]

/-- Attributes are put in inside of the text of a scan. -/
theorem attributeOffset_of_mem_scan {offset : Nat} {text : List Char}
    {tag : OpeningTag} (member : tag ∈ scan offset text) :
    offset < tag.attributeOffset ∧
      tag.attributeOffset < offset + Text.byteLength text := by
  obtain ⟨before, after, rfl, place, -⟩ := mem_scan member
  have inside := tag.attributeOffset_lt_stop
  have behind := tag.attributeOffset_eq
  have bracket : '<'.utf8Size = 1 := rfl
  rw [stop_eq] at inside
  simp only [Text.byteLength, bracket] at behind
  simp only [Text.byteLength_append]
  omega

end OpeningTag

/-! ## Pieces of a template -/

/-- A piece of a template: a text in which nothing opens, a comment up to its
end, or a tag up to its closing bracket. -/
inductive Segment where
  | text (characters : List Char) (bracketless : '<' ∉ characters)
  | comment (body : List Char) (unended : ¬ "-->".toList <:+: body)
  | tag (inside : List Char) (bracketless : '>' ∉ inside)

namespace Segment

def written : Segment → List Char
  | text characters _ => characters
  | comment body _ => "<!--".toList ++ (body ++ "-->".toList)
  | tag inside _ => '<' :: (inside ++ ['>'])

/-- The template that some pieces make up. -/
def writtenAll (segments : List Segment) : List Char :=
  segments.flatMap written

/-- The part of a comment in which tags are looked for, with the end of the
comment: what follows the first closing bracket when the opening mark is taken
for a tag, and everything else when it is not. -/
def exposed (body : List Char) : List Char :=
  let closed := body ++ "-->".toList
  let later := closed.dropWhile isNameCharacter
  if isInside (later.takeWhile (· != '>')) then
    (later.dropWhile (· != '>')).tail
  else
    closed

/-- The part of a piece in which tags are looked for. -/
def shown : Segment → List Char
  | text characters _ => characters
  | comment body _ => exposed body
  | tag inside _ => '<' :: (inside ++ ['>'])

/-- A tag that can be marked stands in the part in which tags are looked for. -/
def ShowsTag (options : FileOptions) (segment : Segment) : Prop :=
  ∃ tag ∈ OpeningTag.scan 0 segment.shown, IsMarkable options tag

theorem isClosed_written (segment : Segment) : IsClosed segment.written := by
  cases segment with
  | text characters bracketless => exact isClosed_of_bracketless bracketless
  | comment body _ =>
      have closed := isClosed_append ("<!--".toList ++ (body ++ "--".toList))
      simpa [written] using closed
  | tag inside _ => exact isClosed_append ('<' :: inside)

theorem isClosed_writtenAll (segments : List Segment) :
    IsClosed (writtenAll segments) := by
  induction segments with
  | nil => exact isClosed_of_bracketless (by simp [writtenAll])
  | cons segment later induction =>
      rw [writtenAll, List.flatMap_cons]
      exact (isClosed_written segment).append induction

section Options

variable {options : FileOptions}

/-- Of a comment, its opening mark is passed over, or a tag that gets no mark
and begins like it. -/
theorem eligible_comment (options : FileOptions) (body : List Char) :
    ∃ hidden, "<!--".toList ++ (body ++ "-->".toList) =
        hidden ++ exposed body ∧
      ∀ offset,
        (OpeningTag.scan offset ("<!--".toList ++
            (body ++ "-->".toList))).filter (isEligible options) =
          (OpeningTag.scan (offset + Text.byteLength hidden)
            (exposed body)).filter (isEligible options) := by
  have member : '>' ∈ body ++ "-->".toList := by simp
  unfold exposed
  generalize body ++ "-->".toList = closed at member
  have read := OpeningTag.read?_commentMark member
  by_cases follows : isInside
      ((closed.dropWhile isNameCharacter).takeWhile (· != '>')) = true
  · simp only [follows, if_true] at read ⊢
    obtain ⟨-, whole, -⟩ := OpeningTag.isFound_of_read? (read 0)
    refine ⟨_, whole, fun offset => ?_⟩
    have scanned := OpeningTag.scan_of_read? (read offset)
    rw [OpeningTag.stop_eq] at scanned
    have passed := congrArg (List.filter (isEligible options)) scanned
    rw [List.filter_cons_of_neg (by simp [isEligible])] at passed
    exact passed
  · simp only [follows] at read ⊢
    refine ⟨"<!--".toList, rfl, fun offset => ?_⟩
    have scanned := OpeningTag.scan_of_missed (read offset)
    have passed := @OpeningTag.scan_append ['!', '-', '-']
      (by decide) (offset + 1) closed
    simp only [List.cons_append, List.nil_append] at passed
    rw [passed] at scanned
    exact congrArg (List.filter (isEligible options)) scanned

/-- In a piece the tags that can be marked are those of its part in which tags
are looked for. -/
theorem eligible_written (options : FileOptions) (segment : Segment) :
    ∃ hidden, segment.written = hidden ++ segment.shown ∧
      ∀ offset,
        (OpeningTag.scan offset segment.written).filter (isEligible options) =
          (OpeningTag.scan (offset + Text.byteLength hidden)
            segment.shown).filter (isEligible options) := by
  cases segment with
  | text characters bracketless => exact ⟨[], rfl, fun _ => rfl⟩
  | comment body unended => exact eligible_comment options body
  | tag inside bracketless => exact ⟨[], rfl, fun _ => rfl⟩

theorem showsTag_iff (options : FileOptions) (segment : Segment)
    (offset : Nat) :
    segment.ShowsTag options ↔
      ∃ tag, tag ∈ (OpeningTag.scan offset segment.written).filter
        (isEligible options) := by
  obtain ⟨hidden, -, same⟩ := eligible_written options segment
  have moved := OpeningTag.scan_moved (offset + Text.byteLength hidden) 0
    segment.shown
  rw [Nat.add_zero] at moved
  rw [same, moved]
  simp only [ShowsTag, List.mem_filter, List.mem_map, ← isEligible_iff]
  constructor
  · rintro ⟨tag, member, eligible⟩
    exact ⟨_, ⟨tag, member, rfl⟩, eligible⟩
  · rintro ⟨_, ⟨tag, member, rfl⟩, eligible⟩
    exact ⟨tag, member, eligible⟩

/-- The tags of a template that can be marked are those of its pieces. -/
theorem eligible_writtenAll (offset : Nat) (segments : List Segment) :
    (OpeningTag.scan offset (writtenAll segments)).filter
        (isEligible options) = [] ↔
      ∀ segment ∈ segments, ¬ segment.ShowsTag options := by
  induction segments generalizing offset with
  | nil => simp [writtenAll, OpeningTag.scan]
  | cons segment later induction =>
      have split := OpeningTag.scan_append_of_isClosed
        segment.isClosed_written offset (writtenAll later)
      have here := not_congr (showsTag_iff options segment offset)
      rw [not_exists, ← List.eq_nil_iff_forall_not_mem] at here
      rw [writtenAll, List.flatMap_cons, ← writtenAll, split,
        List.filter_append, List.append_eq_nil_iff, ← here, induction,
        List.forall_mem_cons]

end Options

/-! ## A piece among others -/

section Among

variable {options : FileOptions} {front back : List Segment}
  {segment : Segment}

/-- Of the insertions into a template of pieces, those that lie in one piece are
the marks of its own tags. -/
theorem mem_templateInsertions_iff (front back : List Segment)
    (insertion : Insertion) :
    let source := writtenAll (front ++ segment :: back)
    let start := Text.byteLength (writtenAll front)
    insertion ∈ templateInsertions source options ∧
        start ≤ insertion.offset ∧
        insertion.offset < start + Text.byteLength segment.written ↔
      ∃ tag ∈ (OpeningTag.scan start segment.written).filter
          (isEligible options),
        tag.mark options.filename source = insertion := by
  intro source start
  have whole : source = writtenAll front ++
      (segment.written ++ writtenAll back) := by
    simp [source, writtenAll]
  have first := OpeningTag.scan_append_of_isClosed
    (isClosed_writtenAll front) 0 (segment.written ++ writtenAll back)
  have second := OpeningTag.scan_append_of_isClosed
    segment.isClosed_written start (writtenAll back)
  rw [Nat.zero_add, ← whole, second] at first
  rw [templateInsertions_eq, eligibleTags, first]
  simp only [List.filter_append, List.map_append, List.mem_append,
    List.mem_map]
  constructor
  · rintro ⟨ahead | ⟨tag, member, rfl⟩ | behind, bounds⟩
    · obtain ⟨tag, member, rfl⟩ := ahead
      have inside := OpeningTag.attributeOffset_of_mem_scan
        (List.mem_filter.mp member).1
      simp only [OpeningTag.mark] at bounds
      omega
    · exact ⟨tag, member, rfl⟩
    · obtain ⟨tag, member, rfl⟩ := behind
      have inside := OpeningTag.attributeOffset_of_mem_scan
        (List.mem_filter.mp member).1
      simp only [OpeningTag.mark] at bounds
      omega
  · rintro ⟨tag, member, rfl⟩
    have inside := OpeningTag.attributeOffset_of_mem_scan
      (List.mem_filter.mp member).1
    exact ⟨.inr (.inl ⟨tag, member, rfl⟩), Nat.le_of_lt inside.1, inside.2⟩

/-- Something is put into a piece exactly when it shows a tag. -/
theorem exists_insertion_iff :
    let start := Text.byteLength (writtenAll front)
    (∃ insertion ∈
        templateInsertions (writtenAll (front ++ segment :: back)) options,
      start < insertion.offset ∧
        insertion.offset < start + Text.byteLength segment.written) ↔
      segment.ShowsTag options := by
  intro start
  rw [showsTag_iff options segment start]
  constructor
  · rintro ⟨insertion, member, beyond, within⟩
    obtain ⟨tag, eligible, -⟩ := (mem_templateInsertions_iff front back insertion).mp
      ⟨member, Nat.le_of_lt beyond, within⟩
    exact ⟨tag, eligible⟩
  · rintro ⟨tag, eligible⟩
    obtain ⟨member, -, within⟩ :=
      (mem_templateInsertions_iff front back _).mpr
        ⟨tag, eligible, rfl⟩
    have inside := OpeningTag.attributeOffset_of_mem_scan
      (List.mem_filter.mp eligible).1
    exact ⟨_, member, inside.1, within⟩

/-- A piece stays as it is exactly when it shows no tag. -/
theorem weave_eq_written_iff :
    Insertion.weave
        (templateInsertions (writtenAll (front ++ segment :: back)) options)
        (Text.byteLength (writtenAll front)) segment.written =
        segment.written ↔
      ¬ segment.ShowsTag options := by
  constructor
  · intro same shows
    obtain ⟨tag, eligible⟩ := (showsTag_iff options segment _).mp shows
    obtain ⟨member, -, -⟩ :=
      (mem_templateInsertions_iff front back _).mpr
        ⟨tag, eligible, rfl⟩
    obtain ⟨before, after, whole, place, -⟩ :=
      OpeningTag.mem_scan (List.mem_filter.mp eligible).1
    have split : segment.written =
        before ++ '<' :: (tag.name ++ tag.unslashed) ++
          (tag.closing ++ after) := by
      rw [whole, tag.text_eq]
      simp
    rw [split] at same
    refine Insertion.weave_ne_self member ?_ ?_ ?_ same
    · rw [OpeningTag.mark, tag.attributeOffset_eq, place,
        Text.byteLength_append, Nat.add_assoc]
    · rw [OpeningTag.mark, Marker.attributeText_toList]
      exact List.cons_ne_nil _ _
    · simp [tag.closing_eq_slashOf]
  · intro hides
    apply Insertion.weave_eq_self
    intro insertion member
    rcases Nat.lt_or_ge insertion.offset
        (Text.byteLength (writtenAll front)) with before | beyond
    · exact .inl before
    · right
      apply Nat.le_of_not_lt
      intro within
      obtain ⟨tag, eligible, -⟩ := (mem_templateInsertions_iff front back insertion).mp
        ⟨member, beyond, within⟩
      exact hides ((showsTag_iff options segment _).mpr ⟨tag, eligible⟩)

end Among

end Segment

/-- What becomes of a template that is made up of pieces. -/
structure MarksShown (options : FileOptions) (segments : List Segment)
    (result : Annotation) : Prop where
  unchanged : result = .ok none ↔
    ∀ segment ∈ segments, ¬ segment.ShowsTag options
  /-- Something is put into a piece exactly when it shows a tag. -/
  inserted : ∀ front segment back, segments = front ++ segment :: back →
    let start := Text.byteLength (Segment.writtenAll front)
    (∃ insertion ∈
        templateInsertions (Segment.writtenAll segments) options,
      start < insertion.offset ∧
        insertion.offset < start + Text.byteLength segment.written) ↔
      segment.ShowsTag options
  /-- A piece stays as it is exactly when it shows none. -/
  kept : ∀ out, result = .ok (some out) →
    ∀ front segment back, segments = front ++ segment :: back →
      let marks := templateInsertions (Segment.writtenAll segments) options
      let start := Text.byteLength (Segment.writtenAll front)
      let stop := start + Text.byteLength segment.written
      let piece := Insertion.weave marks start segment.written
      out.toList = Insertion.weave marks 0 (Segment.writtenAll front) ++
          (piece ++
            Insertion.interleave marks stop (Segment.writtenAll back)) ∧
        (piece = segment.written ↔ ¬ segment.ShowsTag options)

/-- A comment is left alone exactly when there is no tag that can be marked in
the part of it that is exposed; so it is with every piece of a template. -/
theorem marksShown_of_annotateTemplate {options : FileOptions}
    (named : options.filename ≠ "") (segments : List Segment) :
    MarksShown options segments (annotateTemplate
      (String.ofList (Segment.writtenAll segments)) options) where
  unchanged := by
    rw [annotateTemplate_eq_none_iff named, String.toList_ofList]
    exact Segment.eligible_writtenAll 0 segments
  inserted := by
    rintro front segment back rfl
    exact Segment.exists_insertion_iff
  kept := by
    rintro out done front segment back rfl marks start stop piece
    have pass := interleave_of_annotateTemplate done
    rw [String.toList_ofList, ← templateInsertions_eq] at pass
    refine ⟨?_, Segment.weave_eq_written_iff⟩
    have whole : Segment.writtenAll (front ++ segment :: back) =
        Segment.writtenAll front ++
          (segment.written ++ Segment.writtenAll back) := by
      simp [Segment.writtenAll]
    rw [pass]
    conv => lhs; arg 3; rw [whole]
    rw [Insertion.interleave_append, Insertion.interleave_append,
      Nat.zero_add]

/-- A comment whose opening mark is taken for a tag that ends in the comment, a
tag with a bracket inside, and a comment that shows nothing. -/
theorem marksShown_of_annotateTemplate_second :
    let options : FileOptions := { filename := "t.html", ignored := [] }
    let segments : List Segment := [
      .text "é".toList (by decide),
      .comment " <a> <b>".toList (by decide +kernel),
      .tag "p a='<'/".toList (by decide),
      .comment "x <u".toList (by decide +kernel)]
    let source := "é<!-- <a> <b>--><p a='<'/><!--x <u-->"
    let out := "é<!-- <a> <b data-locatorjs=\"t.html:1:10\">-->" ++
      "<p a='<' data-locatorjs=\"t.html:1:16\"/><!--x <u-->"
    options.filename ≠ "" ∧
      String.ofList (Segment.writtenAll segments) = source ∧
      annotateTemplate source options = .ok (some out) ∧
      MarksShown options segments (annotateTemplate
        (String.ofList (Segment.writtenAll segments)) options) := by
  intro options segments source out
  have named : options.filename ≠ "" := by decide
  have characters : Segment.writtenAll segments = source.toList := by decide
  have written : String.ofList (Segment.writtenAll segments) = source := by
    rw [characters, String.ofList_toList]
  have done : annotateTemplate source options = .ok (some out) :=
    eq_ok_of_toOption (by decide +kernel)
  exact ⟨named, written, done, marksShown_of_annotateTemplate named segments⟩

/-- A comment that holds a paragraph.  Nothing that can follow the name of a tag
stands behind the opening mark, so the paragraph is looked at. -/
theorem not_leavesComments :
    ¬ ∀ (options : FileOptions) (before body after : List Char),
      options.filename ≠ "" → '<' ∉ before → '<' ∉ after →
        ¬ "-->".toList <:+: body →
          annotateTemplate (String.ofList (before ++
            ("<!--".toList ++ (body ++ "-->".toList)) ++ after)) options =
              .ok none := by
  intro leaves
  let options : FileOptions := { filename := "t.html", ignored := [] }
  let source := "<!--<p></p>-->"
  have left := leaves options [] "<p></p>".toList [] (by decide) (by decide)
    (by decide) (by decide +kernel)
  have written : [] ++ ("<!--".toList ++ ("<p></p>".toList ++
      "-->".toList)) ++ [] = source.toList := by decide
  have marked : annotateTemplate source options =
      .ok (some "<!--<p data-locatorjs=\"t.html:1:4\"></p>-->") :=
    eq_ok_of_toOption (by decide +kernel)
  rw [written, String.ofList_toList, marked] at left
  cases left

end Markup

end SourceMark
