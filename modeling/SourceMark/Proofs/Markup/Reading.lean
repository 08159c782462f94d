import SourceMark.Proofs.Markup.Scans

/-!
# Reading a marked tag

The scan ends a tag at the first bracket, while a reader of markup lets values
in quotes run over brackets and values without quotes end in a slash.  Where
the two agree on what is a value, a mark is one more attribute behind those of
the tag.  Where a mark is put into a value, that value is another one
afterwards.
-/

namespace SourceMark

namespace Markup

open Template (OpenTag TagAttribute TagPlace Addition readInside readOpenTag
  isTagNamePart)

/-- A tag with one more attribute, which carries a location. -/
def GainsMark (before after : OpenTag) : Prop :=
  ∃ front back added, added.name = Marker.combined ∧
    before.attributes = front ++ back ∧
    after.attributes = front ++ added :: back

/-- Tags whose attributes differ first in a value gain nothing, unless the
difference is a mark or behind one. -/
theorem not_gainsMark {before after : OpenTag} {common : List TagAttribute}
    {first second : TagAttribute} {rest others : List TagAttribute}
    (unmarked : ∀ given ∈ common, given.name ≠ Marker.combined)
    (other : second.name ≠ Marker.combined) (different : first ≠ second)
    (plain : before.attributes = common ++ first :: rest)
    (changed : after.attributes = common ++ second :: others) :
    ¬ GainsMark before after := by
  rintro ⟨front, back, added, named, whole, longer⟩
  rw [plain] at whole
  rw [changed] at longer
  clear plain changed
  induction common generalizing front with
  | nil =>
      cases front with
      | nil =>
          obtain ⟨rfl, _⟩ := by simpa using longer
          exact other named
      | cons head front =>
          obtain ⟨rfl, _⟩ := by simpa using whole
          obtain ⟨rfl, _⟩ := by simpa using longer
          exact different rfl
  | cons head common induction =>
      cases front with
      | nil =>
          obtain ⟨rfl, _⟩ := by simpa using longer
          exact unmarked head (by simp) named
      | cons leading front =>
          simp only [List.cons_append, List.cons.injEq] at whole longer
          exact induction
            (fun given member => unmarked given (by simp [member])) front
            whole.2 longer.2

/-! ## The name of a tag -/

theorem isTagNamePart_of_isNameCharacter {character : Char}
    (part : isNameCharacter character = true) :
    isTagNamePart character = true :=
  Template.isTagNamePart_of_test (by decide) part

namespace OpeningTag

/-- What a reader finds between the name of a tag and the place for a further
attribute. -/
def attributes (tag : OpeningTag) : List Char :=
  tag.unslashed.dropWhile isTagNamePart

/-- The name that a reader finds, which only these blanks end. -/
def fullName (tag : OpeningTag) : String :=
  String.ofList (tag.name ++ tag.unslashed.takeWhile isTagNamePart)

/-- The attributes that a reader has completed where a further one is put
in. -/
def completed (tag : OpeningTag) : List TagAttribute :=
  ((TagPlace.between false).run tag.attributes).1

/-- The place of a reader where a further attribute is put in. -/
def place (tag : OpeningTag) : TagPlace :=
  ((TagPlace.between false).run tag.attributes).2

theorem attributes_isInfix (tag : OpeningTag) :
    tag.attributes <:+: tag.inside := by
  have suffix : tag.attributes <:+ tag.unslashed :=
    List.dropWhile_suffix isTagNamePart
  have before : tag.unslashed <+: tag.inside := by
    unfold unslashed
    split
    · exact List.dropLast_prefix tag.inside
    · exact List.prefix_refl tag.inside
  exact suffix.isInfix.trans before.isInfix

theorem bracket_notMem_attributes {tag : OpeningTag} (found : tag.IsFound) :
    '>' ∉ tag.attributes :=
  fun member => found.bracketless (tag.attributes_isInfix.subset member)

theorem isReadFrom_place {tag : OpeningTag} (found : tag.IsFound) :
    tag.place.IsReadFrom tag.attributes ∧
      ∀ given ∈ tag.completed, given.name.toList <:+: tag.attributes := by
  have start : (TagPlace.between false).IsReadFrom [] := trivial
  exact TagPlace.isReadFrom_run (bracket_notMem_attributes found) start

/-- Nothing in a tag without a mark has the name of the mark. -/
theorem ne_combined_of_isInfix {tag : OpeningTag}
    (unmarked : Text.occursIn Marker.combined.toList tag.inside = false)
    {name : List Char} (inside : name <:+: tag.attributes) :
    String.ofList name ≠ Marker.combined := by
  intro same
  have occurs := (Text.occursIn_iff_isInfix name tag.inside).mpr
    (inside.trans tag.attributes_isInfix)
  rw [← String.toList_ofList (l := name), same, unmarked] at occurs
  simp at occurs

theorem isTagNamePart_of_name {tag : OpeningTag} (found : tag.IsFound)
    (letter : ∃ first ∈ tag.name.head?, Text.isAsciiLetter first = true)
    {character : Char} (member : character ∈ tag.name) :
    isTagNamePart character = true := by
  obtain ⟨first, starts, isLetter⟩ := letter
  obtain ⟨others, spelled⟩ := List.head?_eq_some_iff.mp starts
  rw [spelled] at member
  rcases List.mem_cons.mp member with rfl | later
  · exact Template.isTagNamePart_of_isAsciiLetter isLetter
  · apply isTagNamePart_of_isNameCharacter
    apply found.continues
    rw [spelled]
    exact later

/-- A reader gets through a tag up to the place for a further attribute,
whatever follows there. -/
theorem readOpenTag_front {tag : OpeningTag} (found : tag.IsFound)
    (letter : ∃ first ∈ tag.name.head?, Text.isAsciiLetter first = true)
    {rest : List Char}
    (stops : ∀ character ∈ rest.head?, isTagNamePart character = false) :
    ∀ offset, readOpenTag {
        rest := '<' :: (tag.name ++ (tag.unslashed ++ rest))
        offset } =
      (readInside tag.fullName tag.place (offset + Text.byteLength
          ('<' :: (tag.name ++ tag.unslashed))) rest).map fun read =>
        some ({
          name := tag.fullName
          attributes := tag.completed ++ read.1
          selfClosing := read.2.1 }, read.2.2) := by
  intro offset
  have split : tag.unslashed.takeWhile isTagNamePart ++ tag.attributes =
      tag.unslashed := List.takeWhile_append_dropWhile
  have named : ∀ character ∈
      tag.name ++ tag.unslashed.takeWhile isTagNamePart,
      isTagNamePart character = true := by
    intro character member
    rcases List.mem_append.mp member with inName | further
    · exact isTagNamePart_of_name found letter inName
    · exact List.all_eq_true.mp List.all_takeWhile _ further
  have ends : ∀ character ∈ (tag.attributes ++ rest).head?,
      isTagNamePart character = false := by
    have failed := List.head?_dropWhile_not isTagNamePart tag.unslashed
    cases given : tag.attributes with
    | nil => exact stops
    | cons character others =>
        intro first member
        obtain rfl : character = first := by simpa using member
        unfold attributes at given
        simpa [given] using failed
  have taken := Cursor.takeWhile_append named ends (offset + 1)
  have whole : tag.name ++ (tag.unslashed ++ rest) =
      tag.name ++ tag.unslashed.takeWhile isTagNamePart ++
        (tag.attributes ++ rest) := by
    rw [List.append_assoc, ← List.append_assoc _ tag.attributes, split]
  have inner := bracket_notMem_attributes found
  obtain ⟨first, starts, isLetter⟩ := letter
  obtain ⟨others, spelled⟩ := List.head?_eq_some_iff.mp starts
  have width : Text.byteLength tag.unslashed =
      Text.byteLength (tag.unslashed.takeWhile isTagNamePart) +
        Text.byteLength tag.attributes := by
    rw [← Text.byteLength_append, split]
  rw [whole]
  rw [spelled] at taken ⊢
  simp only [List.cons_append] at taken
  simp only [readOpenTag, List.cons_append, isLetter, if_true, taken,
    Template.readInside_append inner]
  have full : String.ofList
      (first :: (others ++ tag.unslashed.takeWhile isTagNamePart)) =
        tag.fullName := by
    rw [fullName, spelled, List.cons_append]
  have reached : offset + 1 + Text.byteLength
      (first :: (others ++ tag.unslashed.takeWhile isTagNamePart)) +
        Text.byteLength tag.attributes =
      offset + Text.byteLength ('<' :: first :: (others ++ tag.unslashed)) := by
    have bracket : '<'.utf8Size = 1 := rfl
    simp only [Text.byteLength, Text.byteLength_append, bracket]
    omega
  have here : ((TagPlace.between false).run tag.attributes).2 = tag.place :=
    rfl
  rw [full, reached, here]
  cases readInside tag.fullName tag.place (offset + Text.byteLength
      ('<' :: first :: (others ++ tag.unslashed))) rest with
  | error fault => rfl
  | ok read => rfl

/-- The text of a tag with a mark. -/
def marked (tag : OpeningTag) (location : Location) : List Char :=
  '<' :: (tag.name ++ (tag.unslashed ++
    ((Addition.mark location).text ++ tag.closing)))

theorem stops_closing (tag : OpeningTag) (after : List Char) :
    ∀ character ∈ (tag.closing ++ after).head?,
      isTagNamePart character = false := by
  intro character member
  cases slash : tag.isSelfClosing with
  | true =>
      obtain rfl : '/' = character := by
        simpa [closing, Template.closing, slash] using member
      rfl
  | false =>
      obtain rfl : '>' = character := by
        simpa [closing, Template.closing, slash] using member
      rfl

theorem mark_begins (location : Location) :
    ∃ rest, (Addition.mark location).text = ' ' :: 'd' :: rest := by
  have spelled : Marker.combined.toList = 'd' :: "ata-locatorjs".toList := by
    decide
  have written : (Addition.mark location).text =
      (Marker.attributeText Marker.combined location).toList := by
    simp only [Addition.mark]
  rw [written, Marker.attributeText_toList, spelled]
  exact ⟨_, rfl⟩

section Marked

variable {tag : OpeningTag} (found : tag.IsFound)
  (letter : ∃ first ∈ tag.name.head?, Text.isAsciiLetter first = true)
include found letter

/-- What a reader makes of a tag is decided at the place for a mark. -/
theorem readOpenTag_text (after : List Char) (offset : Nat) :
    ∃ start, readOpenTag { rest := tag.text ++ after, offset } =
      (readInside tag.fullName tag.place start
        (Template.closing tag.isSelfClosing ++ after)).map fun read =>
          some ({
            name := tag.fullName
            attributes := tag.completed ++ read.1
            selfClosing := read.2.1 }, read.2.2) := by
  have front := readOpenTag_front found letter (tag.stops_closing after) offset
  refine ⟨_, Eq.trans ?_ front⟩
  simp [text_eq]

theorem readOpenTag_marked (location : Location) (later : List Char)
    (offset : Nat) :
    ∃ start, readOpenTag { rest := tag.marked location ++ later, offset } =
      (readInside tag.fullName tag.place start
        ((Addition.mark location).text ++
          (Template.closing tag.isSelfClosing ++ later))).map fun read =>
            some ({
              name := tag.fullName
              attributes := tag.completed ++ read.1
              selfClosing := read.2.1 }, read.2.2) := by
  have front := readOpenTag_front found letter
    ((Addition.mark location).stops_append (tag.stops_closing later)) offset
  refine ⟨_, Eq.trans ?_ front⟩
  simp [marked]

/-- A mark at a free place is read behind the attributes of its tag. -/
theorem gainsMark_of_isFree (free : tag.place.isFree tag.isSelfClosing = true)
    (location : Location) {after : List Char} (later : List Char)
    {offset : Nat} (start : Nat) {read : OpenTag} {behind : Cursor}
    (reads : readOpenTag { rest := tag.text ++ after, offset } =
      .ok (some (read, behind))) :
    ∃ again beyond,
      readOpenTag { rest := tag.marked location ++ later, offset := start } =
        .ok (some (again, beyond)) ∧
      GainsMark read again := by
  obtain ⟨inner, plain⟩ := readOpenTag_text found letter after offset
  obtain ⟨outer, changed⟩ := readOpenTag_marked found letter location later
    start
  obtain ⟨rest, begins⟩ := mark_begins location
  have plainName : Template.isAttributeNamePart 'd' = true := by decide
  have passes := TagPlace.readInside_addition free begins plainName
    tag.fullName outer (Template.closing tag.isSelfClosing ++ later)
  obtain ⟨selfClosing, closes⟩ :=
    TagPlace.readInside_closing free tag.fullName inner after
  have between : TagPlace.isFree tag.isSelfClosing (.between false) = true :=
    rfl
  obtain ⟨closesItself, closesAgain⟩ := TagPlace.readInside_closing between
    tag.fullName (outer + Text.byteLength (Addition.mark location).text) later
  rw [plain, closes] at reads
  obtain ⟨rfl, _⟩ := by simpa [Except.map] using reads
  rw [changed, passes, closesAgain]
  refine ⟨_, _, rfl, tag.completed ++ tag.place.pending.toList, [],
    TagAttribute.ofText Marker.combined.toList
      (some (Marker.escape location.encode.toList)), ?_, ?_, ?_⟩
  · simp [TagAttribute.ofText]
  · simp
  · simp [Addition.mark, TagPlace.pending]

/-- A mark at a place that is not free changes a value. -/
theorem isFree_of_gainsMark
    (unmarked : Text.occursIn Marker.combined.toList tag.inside = false)
    {location : Location} {after later : List Char} {offset start : Nat}
    {read again : OpenTag} {behind beyond : Cursor}
    (reads : readOpenTag { rest := tag.text ++ after, offset } =
      .ok (some (read, behind)))
    (readsAgain :
      readOpenTag { rest := tag.marked location ++ later, offset := start } =
        .ok (some (again, beyond)))
    (gains : GainsMark read again) :
    tag.place.isFree tag.isSelfClosing = true := by
  cases free : tag.place.isFree tag.isSelfClosing with
  | true => rfl
  | false =>
      obtain ⟨inner, plain⟩ := readOpenTag_text found letter after offset
      obtain ⟨outer, changed⟩ := readOpenTag_marked found letter location later
        start
      obtain ⟨rest, begins⟩ := mark_begins location
      rw [plain] at reads
      rw [changed, begins] at readsAgain
      obtain ⟨remembers, names⟩ := isReadFrom_place found
      cases input : readInside tag.fullName tag.place inner
          (Template.closing tag.isSelfClosing ++ after) with
      | error fault => simp [input, Except.map] at reads
      | ok first =>
          cases output : readInside tag.fullName tag.place outer
              (' ' :: 'd' :: (rest ++
                (Template.closing tag.isSelfClosing ++ later))) with
          | error fault => simp [output, Except.map] at readsAgain
          | ok second =>
              obtain ⟨attributes, selfClosing, last⟩ := first
              obtain ⟨others, closesItself, furthest⟩ := second
              have differ := TagPlace.differInValue_of_not_isFree free
                remembers input output
              obtain ⟨name, value, other, tail, further, inside, different,
                rfl, rfl⟩ := differ
              obtain ⟨rfl, _⟩ := by simpa [input, Except.map] using reads
              obtain ⟨rfl, _⟩ := by simpa [output, Except.map] using readsAgain
              refine absurd gains (not_gainsMark ?_ ?_ ?_ rfl rfl)
              · intro given member same
                exact ne_combined_of_isInfix unmarked (names given member)
                  (by rw [String.ofList_toList, same])
              · exact ne_combined_of_isInfix unmarked inside
              · intro same
                have texts : String.ofList value = String.ofList other := by
                  simpa [TagAttribute.ofText] using same
                exact different (String.ofList_injective texts)

end Marked

end OpeningTag

end Markup

end SourceMark
