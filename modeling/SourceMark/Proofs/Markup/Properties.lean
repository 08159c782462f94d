import SourceMark.Proofs.Markup.Components
import SourceMark.Proofs.Markup.SecondLiterals
import SourceMark.Proofs.Markup.TagMarks

/-!
# The properties whose literals are marked

A literal is found behind the word `template` and a colon, and what stands in
front of the word is not looked at.  So it is the value of a property whose name
ends with the word, and its body changes when it shows a tag that can be marked.
Only where no character of a name stands in front of the word is the property
`template` itself.
-/

namespace SourceMark

namespace Text

/-! ## Runs at the end of a text -/

/-- A character that a name can go on with, of those of ASCII. -/
def isIdentifierCharacter (character : Char) : Bool :=
  isAsciiLetter character || isAsciiDigit character || character = '_' ||
    character = '$'

/-- A text as a front and all of the run that stands at its end. -/
structure EndsInRun (test : Char → Bool) (text front run : List Char) :
    Prop where
  split : text = front ++ run
  passes : ∀ character ∈ run, test character = true
  stops : ∀ character ∈ front.getLast?, test character = false

variable {test : Char → Bool} {text : List Char}

theorem exists_endsInRun (test : Char → Bool) (text : List Char) :
    ∃ front run, EndsInRun test text front run := by
  refine ⟨(text.reverse.dropWhile test).reverse,
    (text.reverse.takeWhile test).reverse, ?_, ?_, ?_⟩
  · rw [← List.reverse_append, List.takeWhile_append_dropWhile,
      List.reverse_reverse]
  · intro character member
    exact List.all_eq_true.mp List.all_takeWhile character
      (List.mem_reverse.mp member)
  · have failed := List.head?_dropWhile_not test text.reverse
    rw [List.getLast?_reverse]
    cases given : (text.reverse.dropWhile test).head? with
    | none => simp
    | some first => simpa [given] using failed

/-- A longer run would go on with a character at which the shorter one stops. -/
theorem eq_nil_of_run {between : List Char} (front : List Char)
    (passes : ∀ character ∈ between, test character = true)
    (stops : ∀ character ∈ (front ++ between).getLast?,
      test character = false) : between = [] := by
  cases last : between.getLast? with
  | none => simpa using last
  | some character =>
      have whole : (front ++ between).getLast? = some character := by
        simp [List.getLast?_append, last]
      have plain := stops character whole
      simp [passes character (List.mem_of_getLast? last)] at plain

theorem EndsInRun.unique {front run otherFront otherRun : List Char}
    (left : EndsInRun test text front run)
    (right : EndsInRun test text otherFront otherRun) :
    front = otherFront ∧ run = otherRun := by
  rcases List.append_eq_append_iff.mp (left.split.symm.trans right.split) with
    ⟨between, rfl, rfl⟩ | ⟨between, rfl, rfl⟩
  · obtain rfl := eq_nil_of_run front
      (fun character member =>
        left.passes character (List.mem_append_left _ member)) right.stops
    simp
  · obtain rfl := eq_nil_of_run otherFront
      (fun character member =>
        right.passes character (List.mem_append_left _ member)) left.stops
    simp

end Text

namespace Markup

open SourceMark.Markup.Symbol

namespace Literal

/-- No name goes on with a blank. -/
theorem isIdentifierCharacter_of_isBlank {character : Char}
    (blank : Text.isBlank character = true) :
    Text.isIdentifierCharacter character = false := by
  have other := isNameCharacter_of_isBlank blank
  have underscore : character ≠ '_' := by
    rintro rfl
    exact absurd blank (by decide)
  have dollar : character ≠ '$' := by
    rintro rfl
    exact absurd blank (by decide)
  simp only [isNameCharacter, Bool.or_eq_false_iff] at other
  simp [Text.isIdentifierCharacter, other.1.1, other.1.2, underscore, dollar]

/-! ## The search for literals -/

/-- A literal stands at the front of a text: `template`, a colon and a quote,
between which blanks may stand, and then a body in which each such quote has a
backslash in front of it. -/
structure StandsAt (offset : Nat) (text : List Char) (literal : Literal)
    (rest : List Char) : Prop where
  quoted : isQuote literal.quote = true
  quoteless : Quoteless literal.quote (ofText literal.body)
  settled : dangles literal.body = false
  spelled : ∃ gap space,
    (∀ character ∈ gap, Text.isBlank character = true) ∧
    (∀ character ∈ space, Text.isBlank character = true) ∧
    text = property ++ (gap ++ ':' :: (space ++ literal.quote ::
      (literal.body ++ literal.quote :: rest))) ∧
    literal.start = offset + Text.byteLength
      (property ++ (gap ++ ':' :: (space ++ [literal.quote])))

theorem standsAt_iff {offset : Nat} {text rest : List Char}
    {literal : Literal} :
    StandsAt offset text literal rest ↔
      ∃ lead, read? text = some (lead, literal.quote, literal.body, rest) ∧
        literal.start = offset + Text.byteLength lead := by
  constructor
  · rintro ⟨quoted, quoteless, settled, gap, space, gapBlank, spaceBlank, rfl,
      start⟩
    have closed := body?_of_settled (ne_of_isQuote quoted).1 quoteless settled
      rest
    have read := read?_opening gapBlank spaceBlank quoted
      (literal.body ++ literal.quote :: rest)
    rw [closed] at read
    exact ⟨_, read, by simpa using start⟩
  · rintro ⟨lead, found, start⟩
    obtain ⟨gap, space, later, whole, gapBlank, spaceBlank, quoted, rfl,
      closed⟩ := opening_of_read? found
    obtain ⟨rfl, quoteless, settled⟩ :=
      settled_of_body? (ne_of_isQuote quoted).1 closed
    exact ⟨quoted, quoteless, settled, gap, space, gapBlank, spaceBlank, whole,
      by simpa using start⟩

theorem isDetermined_standsAt : Text.IsDetermined StandsAt := by
  intro offset text literal rest other after left right
  obtain ⟨lead, read, start⟩ := standsAt_iff.mp left
  obtain ⟨again, reread, restart⟩ := standsAt_iff.mp right
  obtain ⟨quote, place, body⟩ := literal
  obtain ⟨otherQuote, otherPlace, otherBody⟩ := other
  rw [read] at reread
  simp only [Option.some.injEq, Prod.mk.injEq] at reread start restart
  obtain ⟨rfl, rfl, rfl, rfl⟩ := reread
  exact ⟨by rw [start, restart], rfl⟩

/-- A scan is a search for literals. -/
theorem finds_scan (offset : Nat) (text : List Char) :
    Text.Finds StandsAt offset text (scan offset text) := by
  fun_induction scan offset text with
  | case1 => exact .nothing
  | case2 offset character rest lead quote body later found start induction =>
      obtain ⟨quoted, ⟨front, rfl⟩, whole, -, -⟩ := parts_of_read? found
      have one : quote.utf8Size = 1 := size_of_isQuote quoted
      have split : character :: rest =
          front ++ [quote] ++ (body ++ [quote]) ++ later := by
        simpa using whole
      refine .found (standsAt_iff.mpr ⟨_, found, rfl⟩) split (by simp) ?_
      have stop : offset + Text.byteLength
          (front ++ [quote] ++ (body ++ [quote])) =
            start + Text.byteLength body + 1 := by
        simp only [start, Text.byteLength_append, Text.byteLength, one]
        omega
      rwa [stop]
  | case3 offset character rest missed induction =>
      refine .passed (fun literal after stands => ?_) induction
      obtain ⟨lead, found, -⟩ := standsAt_iff.mp stands
      simp [missed] at found

/-! ## The names of properties -/

/-- A literal is the value of a property with this name. -/
inductive IsValueOf (source : List Char) (literal : Literal)
    (name : List Char) : Prop where
  | property {before gap space after : List Char}
      (whole : source = before ++ (name ++ (gap ++ ':' :: (space ++
        literal.quote :: (literal.body ++ literal.quote :: after)))))
      (start : literal.start = Text.byteLength (before ++ (name ++
        (gap ++ ':' :: (space ++ [literal.quote])))))
      (named : name ≠ [])
      (run : Text.EndsInRun Text.isIdentifierCharacter (before ++ name) before
        name)
      (gapBlank : ∀ character ∈ gap, Text.isBlank character = true)
      (spaceBlank : ∀ character ∈ space, Text.isBlank character = true)

section Names

variable {source : List Char} {literal : Literal} {name other : List Char}

/-- Blanks behind a name are a run of their own. -/
theorem endsInRun_gap {before gap : List Char} (named : name ≠ [])
    (run : Text.EndsInRun Text.isIdentifierCharacter (before ++ name) before
      name)
    (gapBlank : ∀ character ∈ gap, Text.isBlank character = true) :
    Text.EndsInRun Text.isBlank (before ++ name ++ gap) (before ++ name)
      gap where
  split := rfl
  passes := gapBlank
  stops := by
    intro character member
    rw [Option.mem_def, List.getLast?_append_of_ne_nil _ named] at member
    have passes := run.passes character (List.mem_of_getLast? member)
    cases blank : Text.isBlank character with
    | false => rfl
    | true =>
        rw [isIdentifierCharacter_of_isBlank blank] at passes
        cases passes

/-- The last colon in front of the body of a literal is the one behind the
name. -/
theorem colon_notMem_space {space : List Char}
    (spaceBlank : ∀ character ∈ space, Text.isBlank character = true)
    (quoted : isQuote literal.quote = true) :
    ':' ∉ space ++ [literal.quote] := by
  intro member
  rcases List.mem_append.mp member with blank | quote
  · exact absurd (spaceBlank ':' blank) (by decide)
  · rw [List.mem_singleton] at quote
    rw [← quote] at quoted
    exact absurd quoted (by decide)

/-- A literal is the value of one property only. -/
theorem IsValueOf.unique (quoted : isQuote literal.quote = true)
    (left : literal.IsValueOf source name)
    (right : literal.IsValueOf source other) : name = other := by
  obtain @⟨before, gap, space, after, whole, start, named, run, gapBlank,
    spaceBlank⟩ := left
  obtain @⟨otherBefore, otherGap, otherSpace, otherAfter, otherWhole,
    otherStart, otherNamed, otherRun, otherGapBlank, otherSpaceBlank⟩ := right
  have fronts : before ++ (name ++ (gap ++ ':' :: (space ++
      [literal.quote]))) = otherBefore ++ (other ++ (otherGap ++ ':' ::
        (otherSpace ++ [literal.quote]))) := by
    apply (Text.append_eq_append_of_byteLength _
      (start.symm.trans otherStart)).1
    · exact literal.body ++ literal.quote :: after
    · exact literal.body ++ literal.quote :: otherAfter
    · simpa using whole.symm.trans otherWhole
  have names : before ++ name ++ gap = otherBefore ++ other ++ otherGap :=
    (Text.parts_of_append_eq (by simpa using fronts)
      (colon_notMem_space spaceBlank quoted)
      (colon_notMem_space otherSpaceBlank quoted)).1
  have gaps := endsInRun_gap named run gapBlank
  rw [names] at gaps
  obtain ⟨same, -⟩ :=
    gaps.unique (endsInRun_gap otherNamed otherRun otherGapBlank)
  rw [same] at run
  exact (run.unique otherRun).2

/-- Every literal that is found is the value of a property whose name ends with
`template`. -/
theorem isValueOf_of_mem_scan (found : literal ∈ scan 0 source) :
    ∃ lead, ∀ name,
      literal.IsValueOf source name ↔ name = lead ++ property := by
  obtain ⟨before, here, rest, whole, stands⟩ :=
    (finds_scan 0 source).stands_of_mem found
  obtain ⟨gap, space, gapBlank, spaceBlank, rfl, start⟩ := stands.spelled
  obtain ⟨front, lead, run⟩ :=
    Text.exists_endsInRun Text.isIdentifierCharacter before
  have word : property.all Text.isIdentifierCharacter = true := by decide
  have valued : literal.IsValueOf source (lead ++ property) := by
    apply @IsValueOf.property _ _ _ front gap space rest
    · rw [whole, run.split]
      simp
    · rw [start, run.split]
      simp [Nat.add_assoc]
    · exact List.append_ne_nil_of_right_ne_nil lead (by decide)
    · refine ⟨rfl, ?_, run.stops⟩
      intro character member
      rcases List.mem_append.mp member with leads | spelled
      · exact run.passes character leads
      · exact List.all_eq_true.mp word character spelled
    · exact gapBlank
    · exact spaceBlank
  refine ⟨lead, fun name => ⟨fun other => ?_, ?_⟩⟩
  · exact other.unique stands.quoted valued
  · rintro rfl
    exact valued

end Names

/-! ## Marked bodies -/

section Marks

variable {options : FileOptions} {source : List Char} {literal : Literal}

theorem tags_eq_nil_iff :
    literal.tags options = [] ↔
      ¬ ∃ tag ∈ OpeningTag.scan literal.start literal.body,
        IsMarkable options tag := by
  simp only [tags, List.filter_eq_nil_iff, ← isEligible_iff, not_exists,
    not_and]

theorem literalInsertions_eq_nil_iff :
    literalInsertions (LineIndex.ofText source) options literal = [] ↔
      literal.tags options = [] := by
  rw [literalInsertions_eq, List.map_eq_nil_iff, marks, List.map_eq_nil_iff]

theorem escapeWithin_ne_nil {quote : Char} {text : List Char}
    (given : text ≠ []) : escapeWithin quote text ≠ [] := by
  obtain ⟨character, rest, rfl⟩ := List.exists_cons_of_ne_nil given
  rw [escapeWithin]
  split
  · simp
  · split
    · simp
    · split
      · simp
      · simp

/-- Something is put in with every mark. -/
theorem growth_pos (source : List Char) {tag : OpeningTag}
    {later : List OpeningTag}
    (split : literal.tags options = tag :: later) :
    0 < Insertion.growth
      (literalInsertions (LineIndex.ofText source) options literal) := by
  have written : escapeWithin literal.quote
      (tag.mark options.filename source).text.toList ≠ [] := by
    apply escapeWithin_ne_nil
    rw [OpeningTag.mark, Marker.attributeText_toList]
    exact List.cons_ne_nil _ _
  rw [literalInsertions_eq, marks, split, Insertion.growth,
    Nat.pos_iff_ne_zero, ne_eq, Text.byteLength_eq_zero]
  simp [writtenMark, written]

/-- The body of a literal changes when a tag of it can be marked. -/
theorem marked_eq_body_iff :
    literal.marked options source = literal.body ↔
      literal.tags options = [] := by
  constructor
  · intro same
    have length := byteLength_marked options source literal
    rw [same] at length
    cases split : literal.tags options with
    | nil => rfl
    | cons tag later =>
        have grows := growth_pos source split
        omega
  · intro none
    rw [marked, literalInsertions_eq_nil_iff.mpr none, splice]

end Marks

end Literal

/-- Marking a script, in all that concerns the properties of its literals. -/
structure RewritesValues (options : FileOptions) (source : List Char)
    (result : Annotation) : Prop where
  /-- A search from the left finds these literals and no others. -/
  found : ∀ literals, Text.Finds Literal.StandsAt 0 source literals ↔
    literals = Literal.scan 0 source
  /-- Each is the value of one property, whose name ends with `template`. -/
  valued : ∀ literal ∈ Literal.scan 0 source, ∃ lead, ∀ name,
    literal.IsValueOf source name ↔ name = lead ++ Literal.property
  changed : ∀ literal ∈ Literal.scan 0 source,
    literal.marked options source ≠ literal.body ↔
      ∃ tag ∈ OpeningTag.scan literal.start literal.body,
        IsMarkable options tag
  unchanged : result = .ok none ↔ ∀ literal ∈ Literal.scan 0 source,
    literal.marked options source = literal.body
  /-- Nothing changes but the bodies of these literals. -/
  rewritten : ∀ out, result = .ok (some out) →
    Literal.RewritesBodies (Literal.marked options source) 0
      (Literal.scan 0 source) source out.toList

theorem annotateComponent_eq_none_iff {options : FileOptions}
    {source : String} (named : options.filename ≠ "") :
    annotateComponent source options = .ok none ↔
      ∀ literal ∈ Literal.scan 0 source.toList,
        literal.tags options = [] := by
  rw [annotateComponent, FileOptions.requireFilename_of_named named]
  simp only [bind, Except.bind, pure, Except.pure, Except.ok.injEq,
    insertAll_eq_none_iff, componentInsertions, List.flatMap_eq_nil_iff,
    Literal.literalInsertions_eq_nil_iff]

/-- The literals whose bodies marking changes are the values of properties whose
names end with `template`, and have a tag that can be marked; no other part of a
script changes. -/
theorem rewritesValues_of_annotateComponent {options : FileOptions}
    {source : String} (named : options.filename ≠ "") :
    RewritesValues options source.toList
      (annotateComponent source options) where
  found := Text.Finds.iff_eq Literal.isDetermined_standsAt
    (Literal.finds_scan 0 source.toList)
  valued := fun _ found => Literal.isValueOf_of_mem_scan found
  changed := by
    intro literal _
    rw [ne_eq, Literal.marked_eq_body_iff, Literal.tags_eq_nil_iff, not_not]
  unchanged := by
    rw [annotateComponent_eq_none_iff named]
    simp only [Literal.marked_eq_body_iff]
  rewritten := by
    intro out done
    rw [interleave_of_annotateComponent done]
    exact Literal.rewritesBodies_scan options source.toList 0 source.toList

/-- A property with a longer name, one whose name is too short, one with its
name in quotes, and one with the very name. -/
theorem rewritesValues_of_annotateComponent_longer :
    let options : FileOptions := { filename := "t.ts", ignored := [] }
    let source := "\x7b é$template : \"<i>\", emplate: '<b>', " ++
      "'template': '<u>', template: \x60<s>\x60 \x7d"
    let out := "\x7b é$template : \"<i data-locatorjs=\\\"t.ts:1:16\\\">\", " ++
      "emplate: '<b>', 'template': '<u>', " ++
      "template: \x60<s data-locatorjs=\"t.ts:1:68\">\x60 \x7d"
    options.filename ≠ "" ∧
      annotateComponent source options = .ok (some out) ∧
      RewritesValues options source.toList
        (annotateComponent source options) := by
  intro options source out
  have named : options.filename ≠ "" := by decide
  have done : annotateComponent source options = .ok (some out) :=
    eq_ok_of_toOption (by decide +kernel)
  exact ⟨named, done, rewritesValues_of_annotateComponent named⟩

/-- A property whose name goes on in front of `template`.  Its value is changed
like that of the property itself. -/
theorem not_isValueOf_subtemplate :
    let options : FileOptions := { filename := "t.ts", ignored := [] }
    let source := "@Component(\x7b subtemplate: '<p></p>' \x7d)"
    let out := "@Component(\x7b subtemplate: " ++
      "'<p data-locatorjs=\"t.ts:1:27\"></p>' \x7d)"
    ∃ literal ∈ Literal.scan 0 source.toList,
      annotateComponent source options = .ok (some out) ∧
      literal.marked options source.toList ≠ literal.body ∧
      literal.IsValueOf source.toList "subtemplate".toList ∧
      ¬ literal.IsValueOf source.toList Literal.property := by
  intro options source out
  let literal : Literal :=
    { quote := '\x27', start := 27, body := "<p></p>".toList }
  have found : literal ∈ Literal.scan 0 source.toList := by decide +kernel
  have done : annotateComponent source options = .ok (some out) :=
    eq_ok_of_toOption (by decide +kernel)
  have changes : literal.marked options source.toList ≠ literal.body := by
    decide +kernel
  have valued : literal.IsValueOf source.toList "subtemplate".toList := by
    apply @Literal.IsValueOf.property _ _ _ "@Component(\x7b ".toList [] [' ']
      " \x7d)".toList
    · decide
    · decide
    · decide
    · refine ⟨rfl, List.all_eq_true.mp (by decide), ?_⟩
      rintro character ⟨⟩
      decide
    · simp
    · exact List.all_eq_true.mp (by decide)
  refine ⟨literal, found, done, changes, valued, fun other => ?_⟩
  have same := other.unique (by decide) valued
  exact absurd same (by decide)

end Markup

end SourceMark
