import SourceMark.Proofs.Markup.Annotation

/-!
# Scanning marked markup again

A mark stands at the end of its tag, names its attribute before any bracket and
opens no tag.  So a second scan finds a tag where the first one found one and
nowhere else, although it may end a marked tag at a bracket inside the mark,
and every tag that was to be marked then shows the attribute.
-/

namespace SourceMark

namespace Markup

/-! ## What can be a mark -/

/-- The beginning of every mark, up to where its value follows. -/
def markLead : List Char := ' ' :: (Marker.combined.toList ++ ['='])

/-- What a text that is put into a tag must be like for a scan to see it as a
mark and as nothing else. -/
structure IsMark (text : List Char) : Prop where
  leads : markLead <+: text
  opensNothing : '<' ∉ text

/-- An attribute with a location is a mark when the file has no bracket in its
name. -/
theorem isMark_attributeText {location : Location}
    (plain : '<' ∉ location.file.toList) :
    IsMark (Marker.attributeText Marker.combined location).toList where
  leads := by
    rw [Marker.attributeText_toList]
    exact ⟨'"' :: (Marker.escape location.encode.toList ++ ['"']), by
      simp [markLead]⟩
  opensNothing := Marker.bracket_notMem_attributeText plain

/-! ## Reading a tag -/

section Tags

variable {name inside rest : List Char} {start : Nat}

/-- A blank sets anything off from the name of a tag. -/
theorem isInside_of_isBlank {character : Char}
    (blank : Text.isBlank character = true) (text : List Char) :
    isInside (character :: text) = true := by
  unfold isInside
  split
  · rfl
  · rfl
  · next equality =>
      obtain ⟨rfl, -⟩ := List.cons.inj equality
      exact blank

/-- The characters of names lie between the hyphen and the last letter. -/
theorem bounds_of_isNameCharacter {character : Char}
    (named : isNameCharacter character = true) :
    45 ≤ character.toNat ∧ character.toNat ≤ 122 := by
  simp only [isNameCharacter, Text.isAsciiLetter, Text.isAsciiDigit,
    Bool.or_eq_true, Bool.and_eq_true, decide_eq_true_eq, Char.le_def,
    UInt32.le_iff_toNat_le] at named
  rcases named with ((small | capital) | digit) | rfl
  · have low : 97 ≤ character.toNat := small.1
    have high : character.toNat ≤ 122 := small.2
    omega
  · have low : 65 ≤ character.toNat := capital.1
    have high : character.toNat ≤ 90 := capital.2
    omega
  · have low : 48 ≤ character.toNat := digit.1
    have high : character.toNat ≤ 57 := digit.2
    omega
  · decide

/-- No name goes on with a blank. -/
theorem isNameCharacter_of_isBlank {character : Char}
    (blank : Text.isBlank character = true) :
    isNameCharacter character = false := by
  cases named : isNameCharacter character with
  | false => rfl
  | true =>
      have bounds := bounds_of_isNameCharacter named
      simp only [Text.isBlank, Text.blankRanges, List.any_cons, List.any_nil,
        Bool.or_eq_true, Bool.and_eq_true, decide_eq_true_eq, Bool.or_false]
        at blank
      omega

/-- The name of a tag ends in front of its inside. -/
theorem isNameCharacter_of_isInside (follows : isInside inside = true)
    (rest : List Char) :
    ∀ character ∈ (inside ++ '>' :: rest).head?,
      isNameCharacter character = false := by
  intro character member
  cases inside with
  | nil =>
      obtain rfl : '>' = character := by simpa using member
      decide
  | cons first others =>
      obtain rfl : first = character := by simpa using member
      unfold isInside at follows
      split at follows
      · simp at *
      · next equality =>
          obtain ⟨rfl, -⟩ := List.cons.inj equality
          decide
      · next equality =>
          obtain ⟨rfl, -⟩ := List.cons.inj equality
          exact isNameCharacter_of_isBlank follows

/-- The longest run of characters that pass a test. -/
theorem span_append (test : Char → Bool) {run : List Char}
    (rest : List Char)
    (passes : ∀ character ∈ run, test character = true)
    (ends : ∀ character ∈ rest.head?, test character = false) :
    (run ++ rest).takeWhile test = run ∧ (run ++ rest).dropWhile test = rest := by
  rw [List.takeWhile_append_of_pos passes, List.dropWhile_append_of_pos passes]
  cases rest with
  | nil => simp
  | cons next others =>
      have stops := ends next rfl
      simp [stops]

/-- A tag is read when it is spelled out. -/
theorem read?_of_found (begins : ∃ first ∈ name.head?, isNameStart first = true)
    (continues : ∀ character ∈ name.tail, isNameCharacter character = true)
    (bracketless : '>' ∉ inside) (follows : isInside inside = true)
    (rest : List Char) (start : Nat) :
    OpeningTag.read? start (name ++ (inside ++ '>' :: rest)) =
      some ({ start, name, inside }, rest) := by
  obtain ⟨first, here, starts⟩ := begins
  cases name with
  | nil => simp at here
  | cons other others =>
      obtain rfl : other = first := by simpa using here
      have named := span_append _ _ continues
        (isNameCharacter_of_isInside follows rest)
      have bracket := @span_append (· != '>') inside ('>' :: rest)
        (by simpa using fun character member => ne_of_mem_of_not_mem member bracketless)
        (by simp)
      simp only [List.tail_cons] at named
      simp only [OpeningTag.read?, List.cons_append, starts, if_true, named.1,
        named.2, bracket.1, bracket.2, follows]

end Tags

/-! ## Marked texts -/

open OpeningTag (read? scan)

/-- A text from a byte offset on, and the text with a mark at the end of every
eligible tag that a scan finds in it. -/
inductive Remarked (options : FileOptions) :
    Nat → List Char → List Char → Prop where
  | nil {offset : Nat} : Remarked options offset [] []
  | character {offset : Nat} {character : Char} {rest out : List Char}
      (other : character ≠ '<')
      (later : Remarked options (offset + character.utf8Size) rest out) :
      Remarked options offset (character :: rest) (character :: out)
  | bracket {offset : Nat} {rest out : List Char}
      (missed : read? offset rest = none)
      (later : Remarked options (offset + 1) rest out) :
      Remarked options offset ('<' :: rest) ('<' :: out)
  | kept {offset : Nat} {tag : OpeningTag} {rest later out : List Char}
      (found : read? offset rest = some (tag, later))
      (ineligible : isEligible options tag = false)
      (behind : Remarked options tag.stop later out) :
      Remarked options offset ('<' :: rest) (tag.text ++ out)
  | marked {offset : Nat} {tag : OpeningTag} {rest later mark out : List Char}
      (found : read? offset rest = some (tag, later)) (isMark : IsMark mark)
      (behind : Remarked options tag.stop later out) :
      Remarked options offset ('<' :: rest)
        ('<' :: (tag.name ++ (tag.unslashed ++ (mark ++ (tag.closing ++ out)))))

namespace Remarked

variable {options : FileOptions} {offset : Nat} {text out : List Char}

theorem head?_eq (remarked : Remarked options offset text out) :
    out.head? = text.head? := by
  cases remarked with
  | nil => rfl
  | character other later => rfl
  | bracket missed later => rfl
  | kept found ineligible behind => rfl
  | marked found isMark behind => rfl

/-- Nothing is marked where no tag ends. -/
theorem eq_of_bracketless (remarked : Remarked options offset text out)
    (bracketless : '>' ∉ text) : out = text := by
  induction remarked with
  | nil => rfl
  | character other later induction =>
      rw [induction fun member => bracketless (List.mem_cons_of_mem _ member)]
  | bracket missed later induction =>
      rw [induction fun member => bracketless (List.mem_cons_of_mem _ member)]
  | kept found ineligible behind induction =>
      obtain ⟨-, whole, -⟩ := OpeningTag.isFound_of_read? found
      rw [whole] at bracketless
      exact absurd (by simp [OpeningTag.text]) bracketless
  | marked found isMark behind induction =>
      obtain ⟨-, whole, -⟩ := OpeningTag.isFound_of_read? found
      rw [whole] at bracketless
      exact absurd (by simp [OpeningTag.text]) bracketless

/-- In front of the next bracket nothing changes. -/
theorem span (test : Char → Bool) (plain : test '<' = false)
    (remarked : Remarked options offset text out) :
    ∃ place later, out = text.takeWhile test ++ later ∧
      Remarked options place (text.dropWhile test) later := by
  induction text generalizing offset out with
  | nil =>
      cases remarked
      exact ⟨offset, [], rfl, .nil⟩
  | cons character rest induction =>
      cases passes : test character with
      | false => exact ⟨offset, out, by simp [passes], by simpa [passes]⟩
      | true =>
          cases remarked with
          | character other later =>
              obtain ⟨place, last, whole, behind⟩ := induction later
              exact ⟨place, last, by simp [passes, whole], by simpa [passes]⟩
          | bracket => simp [plain] at passes
          | kept => simp [plain] at passes
          | marked => simp [plain] at passes

end Remarked

/-- The name of a tag can end in front of the text, and the tag ends in it. -/
def EndsTag (text : List Char) : Prop :=
  '>' ∈ text ∧ isInside (text.takeWhile (· != '>')) = true

/-- What decides whether a tag is read. -/
theorem read?_cons_eq_none_iff (first : Char) (text : List Char)
    (start : Nat) :
    read? start (first :: text) = none ↔
      ¬ (isNameStart first = true ∧
        EndsTag (text.dropWhile isNameCharacter)) := by
  cases begins : isNameStart first with
  | false => simp [read?, begins]
  | true =>
      simp only [read?, begins, if_true, EndsTag, true_and]
      generalize text.dropWhile isNameCharacter = later
      have whole := List.takeWhile_append_dropWhile (p := (· != '>'))
        (l := later)
      have stopped := List.head?_dropWhile_not (· != '>') later
      cases behind : later.dropWhile (· != '>') with
      | nil =>
          have bracketless : '>' ∉ later := by
            rw [← whole, behind, List.append_nil]
            intro member
            have other := List.all_eq_true.mp List.all_takeWhile _ member
            simp at other
          simp [bracketless]
      | cons bracket others =>
          rw [behind] at stopped
          obtain rfl : bracket = '>' := by simpa using stopped
          have member : '>' ∈ later := by
            rw [← whole, behind]
            simp
          simp [member]

/-- Whether a name can end in front of a text is seen from two characters. -/
theorem endsTag_iff (text : List Char) :
    EndsTag text ↔ '>' ∈ text ∧
      (text.head? = some '>' ∨ text.head?.any Text.isBlank = true ∨
        text.head? = some '/' ∧ text.tail.head? = some '>') := by
  refine and_congr_right fun member => ?_
  cases text with
  | nil => simp at member
  | cons first rest =>
      by_cases closes : first = '>'
      · simp [closes, isInside]
      · have passes : (first != '>') = true := by simpa using closes
        rw [List.takeWhile_cons_of_pos (p := (· != '>')) passes]
        cases rest with
        | nil => simp [Ne.symm closes] at member
        | cons second others =>
            by_cases ends : second = '>'
            · by_cases solidus : first = '/'
              · simp [ends, solidus, isInside]
              · simp [ends, solidus, closes, isInside]
            · simp [ends, closes, isInside]

namespace Remarked

variable {options : FileOptions} {offset : Nat} {text out : List Char}

/-- Where a name can end in the marked text, it can in the text. -/
theorem endsTag_of_endsTag (remarked : Remarked options offset text out)
    (ends : EndsTag out) : EndsTag text := by
  have heads := remarked.head?_eq
  rw [endsTag_iff] at ends ⊢
  obtain ⟨bracket, follows⟩ := ends
  by_cases member : '>' ∈ text
  · refine ⟨member, ?_⟩
    rw [heads] at follows
    refine follows.imp id (Or.imp id ?_)
    rintro ⟨solidus, closes⟩
    refine ⟨solidus, ?_⟩
    cases remarked with
    | nil => simp at member
    | character other later =>
        rw [List.tail_cons, later.head?_eq] at closes
        exact closes
    | bracket => simp at solidus
    | kept => simp at solidus
    | marked => simp at solidus
  · rw [remarked.eq_of_bracketless member] at bracket
    exact absurd bracket member

/-- Where a scan finds no tag, none is found in the marked text. -/
theorem read?_eq_none (remarked : Remarked options offset text out)
    {start : Nat} (missed : read? start text = none) (again : Nat) :
    read? again out = none := by
  cases text with
  | nil =>
      cases remarked
      rfl
  | cons first rest =>
      cases remarked with
      | character other later =>
          rw [read?_cons_eq_none_iff] at missed ⊢
          rintro ⟨begins, ends⟩
          obtain ⟨place, last, rfl, behind⟩ :=
            later.span isNameCharacter (by decide)
          have named : ∀ character ∈ rest.takeWhile isNameCharacter,
              isNameCharacter character = true := fun character member =>
            List.all_eq_true.mp List.all_takeWhile character member
          have stops : ∀ character ∈ last.head?,
              isNameCharacter character = false := by
            intro character member
            rw [behind.head?_eq] at member
            have stopped := List.head?_dropWhile_not isNameCharacter rest
            rw [Option.mem_def.mp member] at stopped
            simpa using stopped
          rw [(span_append _ _ named stops).2] at ends
          exact missed ⟨begins, behind.endsTag_of_endsTag ends⟩
      | bracket missed later => rfl
      | kept found ineligible behind => rfl
      | marked found isMark behind => rfl

end Remarked

/-! ## The second scan -/

namespace OpeningTag

theorem scan_of_read? {offset : Nat} {rest later : List Char}
    {tag : OpeningTag} (found : read? offset rest = some (tag, later)) :
    scan offset ('<' :: rest) = tag :: scan tag.stop later := by
  rw [scan, if_pos rfl]
  split
  · next other behind equality =>
      rw [found, Option.some.injEq, Prod.mk.injEq] at equality
      rw [equality.1, equality.2]
  · next missed => simp [found] at missed

theorem scan_of_missed {offset : Nat} {rest : List Char}
    (missed : read? offset rest = none) :
    scan offset ('<' :: rest) = scan (offset + 1) rest := by
  rw [scan, if_pos rfl]
  split
  · next found => simp [missed] at found
  · rfl

/-- A text without brackets holds no tag. -/
theorem scan_append {front : List Char} (opensNothing : '<' ∉ front)
    (offset : Nat) (rest : List Char) :
    scan offset (front ++ rest) =
      scan (offset + Text.byteLength front) rest := by
  induction front generalizing offset with
  | nil => rfl
  | cons character others induction =>
      have other : character ≠ '<' :=
        fun same => opensNothing (same ▸ List.mem_cons_self)
      have later : '<' ∉ others :=
        fun member => opensNothing (List.mem_cons_of_mem _ member)
      rw [List.cons_append, scan, if_neg other, induction later,
        Text.byteLength, Nat.add_assoc]

theorem isInside_of_read? {offset : Nat} {rest later : List Char}
    {tag : OpeningTag} (found : read? offset rest = some (tag, later)) :
    isInside tag.inside = true := by
  cases rest with
  | nil => simp [read?] at found
  | cons first rest =>
      simp only [read?] at found
      split at found
      · split at found
        · simp at found
        · split at found
          · next follows =>
              obtain ⟨rfl, -⟩ := by simpa using found
              exact follows
          · simp at found
      · simp at found

/-- A tag with another inside is read as such, up to the first bracket. -/
theorem read?_again {offset : Nat} {rest later : List Char} {tag : OpeningTag}
    (found : read? offset rest = some (tag, later)) {inside : List Char}
    (bracketless : '>' ∉ inside) (follows : isInside inside = true)
    (out : List Char) (start : Nat) :
    read? start (tag.name ++ (inside ++ '>' :: out)) =
      some ({ start, name := tag.name, inside }, out) := by
  obtain ⟨-, -, isFound⟩ := isFound_of_read? found
  exact read?_of_found isFound.begins isFound.continues bracketless follows out
    start

theorem unslashed_prefix (tag : OpeningTag) : tag.unslashed <+: tag.inside := by
  unfold unslashed
  split
  · exact List.dropLast_prefix tag.inside
  · exact List.prefix_refl tag.inside

/-- Behind a blank at the place for a mark, a tag can go on with anything. -/
theorem isInside_unslashed {tag : OpeningTag}
    (follows : isInside tag.inside = true) (text : List Char) :
    isInside (tag.unslashed ++ ' ' :: text) = true := by
  have blank : Text.isBlank ' ' = true := by decide
  have leads := tag.unslashed_prefix
  cases unslashed : tag.unslashed with
  | nil => exact isInside_of_isBlank blank text
  | cons first others =>
      obtain ⟨last, whole⟩ := leads
      rw [unslashed, List.cons_append] at whole
      rw [← whole] at follows
      unfold isInside at follows
      split at follows
      · simp at *
      · next solidus =>
          rw [solidus] at whole
          simp [OpeningTag.unslashed, isSelfClosing, ← whole] at unslashed
      · next equality =>
          obtain ⟨rfl, -⟩ := List.cons.inj equality
          exact isInside_of_isBlank follows _

end OpeningTag

/-- The part of a marked tag behind its name is cut at the first bracket, which
comes behind the name of the attribute. -/
theorem IsMark.cut {mark : List Char} (isMark : IsMark mark)
    (tag : OpeningTag) :
    ∃ front back, mark ++ tag.closing = ' ' :: front ++ '>' :: back ∧
      '>' ∉ ' ' :: front ∧ '<' ∉ back ∧
      Marker.combined.toList <:+: ' ' :: front := by
  obtain ⟨⟨value, rfl⟩, opensNothing⟩ := isMark
  have closes : '>' ∈ value ++ tag.closing := by
    unfold OpeningTag.closing Template.closing
    split
    · simp
    · simp
  have plain : '<' ∉ tag.closing := by
    unfold OpeningTag.closing Template.closing
    split
    · decide
    · decide
  obtain ⟨front, back, split, bracketless⟩ :=
    List.eq_append_cons_of_mem closes
  have named : '>' ∉ ' ' :: (Marker.combined.toList ++ ['=']) := by decide
  refine ⟨Marker.combined.toList ++ '=' :: front, back, ?_, ?_, ?_, ?_⟩
  · rw [List.append_assoc, split]
    simp [markLead]
  · intro member
    have parts : '>' ∈ ' ' :: (Marker.combined.toList ++ ['=']) ∨
        '>' ∈ front := by
      simpa [or_assoc] using member
    rcases parts with lead | inside
    · exact named lead
    · exact bracketless inside
  · intro member
    have inside : '<' ∈ value ++ tag.closing := by
      rw [split]
      simp [member]
    rcases List.mem_append.mp inside with own | closing
    · exact opensNothing (List.mem_append_right _ own)
    · exact plain closing
  · exact ⟨[' '], '=' :: front, by simp⟩

namespace Remarked

variable {options : FileOptions} {offset : Nat} {text out : List Char}

/-- No tag of a marked text is eligible. -/
theorem isEligible_of_mem_scan (remarked : Remarked options offset text out)
    (start : Nat) :
    ∀ tag ∈ scan start out, isEligible options tag = false := by
  induction remarked generalizing start with
  | nil => simp [scan]
  | @character offset character rest out other later induction =>
      rw [scan, if_neg other]
      exact induction _
  | bracket missed later induction =>
      rw [OpeningTag.scan_of_missed (later.read?_eq_none missed start)]
      exact induction _
  | @kept offset tag rest later out found ineligible behind induction =>
      obtain ⟨-, -, isFound⟩ := OpeningTag.isFound_of_read? found
      have again := OpeningTag.read?_again found isFound.bracketless
        (OpeningTag.isInside_of_read? found) out start
      have whole : tag.text ++ out =
          '<' :: (tag.name ++ (tag.inside ++ '>' :: out)) := by
        simp [OpeningTag.text]
      rw [whole, OpeningTag.scan_of_read? again]
      intro other member
      rcases List.mem_cons.mp member with rfl | further
      · exact ineligible
      · exact induction _ other further
  | @marked offset tag rest later mark out found isMark behind induction =>
      obtain ⟨-, -, isFound⟩ := OpeningTag.isFound_of_read? found
      obtain ⟨front, back, cut, bracketless, opensNothing, named⟩ :=
        isMark.cut tag
      have inner : '>' ∉ tag.unslashed ++ ' ' :: front := by
        intro member
        rcases List.mem_append.mp member with own | added
        · exact isFound.bracketless (tag.unslashed_prefix.subset own)
        · exact bracketless added
      have again := OpeningTag.read?_again found inner
        (OpeningTag.isInside_unslashed (OpeningTag.isInside_of_read? found)
          front) (back ++ out) start
      have whole : tag.unslashed ++ (mark ++ (tag.closing ++ out)) =
          tag.unslashed ++ ' ' :: front ++ '>' :: (back ++ out) := by
        rw [← List.append_assoc mark, cut]
        simp
      rw [whole, OpeningTag.scan_of_read? again,
        OpeningTag.scan_append opensNothing]
      intro other member
      rcases List.mem_cons.mp member with rfl | further
      · have shown : Text.occursIn Marker.combined.toList
            (tag.unslashed ++ ' ' :: front) = true := by
          rw [Text.occursIn_iff_isInfix]
          exact named.trans (List.suffix_append _ _).isInfix
        simp [isEligible, shown]
      · exact induction _ other further

end Remarked

/-! ## The marks of a scan -/

namespace OpeningTag

section Scans

variable (options : FileOptions) (write : OpeningTag → String)

/-- The insertions for the tags of a text that are eligible. -/
def insertions (offset : Nat) (text : List Char) : List Insertion :=
  ((scan offset text).filter (isEligible options)).map (insertion write)

/-- Nothing is put in in front of the text that is scanned. -/
theorem interleave_insertions_append (front text : List Char) (offset : Nat) :
    Insertion.interleave (insertions options write
        (offset + Text.byteLength front) text) offset (front ++ text) =
      front ++ Insertion.interleave (insertions options write
          (offset + Text.byteLength front) text)
        (offset + Text.byteLength front) text := by
  apply Insertion.interleave_skip
  intro mark member
  obtain ⟨tag, eligible, rfl⟩ := List.mem_map.mp member
  obtain ⟨before, _, _, start, _⟩ := mem_scan (List.mem_filter.mp eligible).1
  have := tag.attributeOffset_eq
  simp only [insertion]
  omega

variable {write}

/-- One pass over a text puts a mark into every eligible tag. -/
theorem remarked_insertions (isMark : ∀ tag, IsMark (write tag).toList)
    (offset : Nat) (text : List Char) :
    Remarked options offset text
      (Insertion.interleave (insertions options write offset text) offset
        text) := by
  have open_ : '<'.utf8Size = 1 := rfl
  have passed := interleave_insertions_append options write
  unfold insertions at passed ⊢
  fun_induction scan offset text with
  | case1 offset =>
      rw [List.filter_nil, List.map_nil, Insertion.interleave_nil]
      exact .nil
  | case2 offset rest tag later found induction =>
      obtain ⟨rfl, whole, -⟩ := isFound_of_read? found
      cases eligible : isEligible options tag with
      | true =>
          have behind : ∀ other ∈ (scan tag.stop later).filter
              (isEligible options), tag.stop ≤ other.start := by
            intro other member
            obtain ⟨_, _, _, start, _⟩ := mem_scan (List.mem_filter.mp member).1
            omega
          have pass := @interleave_insertion write _ _ behind later
          rw [List.filter_cons_of_pos eligible]
          rw [← whole] at pass
          rw [pass]
          exact .marked found (isMark tag) induction
      | false =>
          have pass := passed tag.text later tag.start
          rw [← stop_eq, ← whole] at pass
          rw [List.filter_cons_of_neg (by simp [eligible]), pass]
          exact .kept found eligible induction
  | case3 offset rest missed induction =>
      have pass := passed ['<'] rest offset
      simp only [List.singleton_append, Text.byteLength, open_,
        Nat.add_zero] at pass
      rw [pass]
      exact .bracket missed induction
  | case4 offset character rest other induction =>
      have pass := passed [character] rest offset
      simp only [List.singleton_append, Text.byteLength, Nat.add_zero] at pass
      rw [pass]
      exact .character other induction

end Scans

end OpeningTag

/-! ## Templates -/

/-- Of the options, only the names that are left alone decide. -/
theorem isEligible_of_ignored {options again : FileOptions}
    (ignored : again.ignored = options.ignored) :
    isEligible again = isEligible options := by
  funext tag
  simp [isEligible, FileOptions.ignores, ignored]

/-- Where nothing is eligible in a marked text, nothing is marked. -/
theorem markedTags_of_remarked {options again : FileOptions} {offset : Nat}
    {text out : List Char} (ignored : again.ignored = options.ignored)
    (remarked : Remarked options offset text out) (index : LineIndex)
    (start : Nat) : markedTags index again start out = [] := by
  have none : (scan start out).filter (isEligible again) = [] := by
    rw [isEligible_of_ignored ignored, List.filter_eq_nil_iff]
    intro tag member
    simp [remarked.isEligible_of_mem_scan start tag member]
  rw [markedTags, none, List.map_nil]

/-- A template that has been marked stays as it is, whatever file it is marked
for then, if the first file has no bracket in its name. -/
theorem annotateTemplate_of_marked {options again : FileOptions}
    {source out : String} (plain : '<' ∉ options.filename.toList)
    (ignored : again.ignored = options.ignored) (named : again.filename ≠ "")
    (done : annotateTemplate source options = .ok (some out)) :
    annotateTemplate out again = .ok none := by
  have isMark (tag : OpeningTag) : IsMark (Marker.attributeText
      Marker.combined (tag.location options.filename source.toList)).toList :=
    isMark_attributeText plain
  have remarked :=
    OpeningTag.remarked_insertions options isMark 0 source.toList
  have pass : out.toList = Insertion.interleave
      (OpeningTag.insertions options (fun tag => Marker.attributeText
        Marker.combined (tag.location options.filename source.toList)) 0
          source.toList) 0 source.toList :=
    interleave_of_annotateTemplate done
  rw [← pass] at remarked
  have nothing : templateInsertions out.toList again = [] := by
    rw [templateInsertions, markedTags_of_remarked ignored remarked,
      List.map_nil]
  rw [annotateTemplate, FileOptions.requireFilename_of_named named, nothing]
  rfl

/-- A tag inside another one's attributes, a comment that is no tag, and a file
whose name ends the marked tags early. -/
theorem annotateTemplate_of_marked_early :
    let options : FileOptions :=
      { filename := "a/>b\".html", ignored := ["hr"] }
    let source := "<a <b c=d/>é<a<br\t/><!-- <i> --><hr>"
    let out := "<a <b c=d data-locatorjs=\"a/>b&quot;.html:1:0\"/>é" ++
      "<a<br\t data-locatorjs=\"a/>b&quot;.html:1:14\"/><!-- <i> --><hr>"
    '<' ∉ options.filename.toList ∧ options.filename ≠ "" ∧
      annotateTemplate source options = .ok (some out) ∧
      annotateTemplate out options = .ok none := by
  intro options source out
  have plain : '<' ∉ options.filename.toList := by decide
  have named : options.filename ≠ "" := by decide
  have done : annotateTemplate source options = .ok (some out) :=
    eq_ok_of_toOption (by decide +kernel)
  exact ⟨plain, named, done,
    annotateTemplate_of_marked plain rfl named done⟩

end Markup

end SourceMark
