import SourceMark.Proofs.Markup.SecondScans
import SourceMark.Proofs.Text.Searches

/-!
# Searching for tags by an expression

The opening tags of a text are those that the expression of a tag matches.  It
has several ways to share out what stands between the name and the bracket
among the attributes, the blanks and the slash.  The one that is tried first
ends the attributes where nothing but blanks and a slash follows, and it is the
tag that a scan reads.
-/

namespace SourceMark

namespace Markup

open Text (SearchExpression Way isBlank)

/-! ## The expression of a tag -/

/-- A slash or none, and a bracket; the slash is asked for. -/
def endingExpression : SearchExpression :=
  .sequence (.part (.optional (.one (· == '/')))) (.one (· == '>'))

/-- Blanks in front of an ending. -/
def closingExpression : SearchExpression :=
  .sequence (.most isBlank) endingExpression

/-- Blanks, and other characters but brackets. -/
def attributesExpression : SearchExpression :=
  .sequence (.one isBlank)
    (.sequence (.most isBlank) (.fewest (· != '>')))

/-- Attributes or none, and a closing; the attributes are asked for with the
blanks in front of them. -/
def insideExpression : SearchExpression :=
  .sequence (.part (.optional attributesExpression)) closingExpression

/-- A bracket, a name and the inside of a tag; the name is asked for. -/
def tagExpression : SearchExpression :=
  .sequence (.one (· == '<'))
    (.sequence
      (.part (.sequence (.one isNameStart) (.most isNameCharacter)))
      insideExpression)

/-! ## Where attributes end -/

/-- Only blanks are left, or blanks and a slash. -/
def isClosing (text : List Char) : Bool :=
  text.dropWhile isBlank == [] || text.dropWhile isBlank == ['/']

/-- The text up to where only blanks and a slash are left. -/
def beforeClosing : List Char → List Char
  | [] => []
  | character :: rest =>
      if isClosing (character :: rest) then []
      else character :: beforeClosing rest

/-- The blanks and the slash that are left. -/
def closingPart (text : List Char) : List Char :=
  text.drop (beforeClosing text).length

/-- The blanks at the start of the inside of a tag, and the attributes. -/
def attributePart (inside : List Char) : List Char :=
  inside.takeWhile isBlank ++ beforeClosing (inside.dropWhile isBlank)

/-- The slash at the end of the inside of a tag, if there is one. -/
def slashOf (inside : List Char) : List Char :=
  if inside.getLast? == some '/' then ['/'] else []

/-- A tag as a match of the expression of a tag. -/
def OpeningTag.occurrence (tag : OpeningTag) : Text.Occurrence where
  start := tag.start
  taken := tag.text
  parts := [tag.name, attributePart tag.inside, slashOf tag.inside]

theorem beforeClosing_prefix (text : List Char) :
    beforeClosing text <+: text := by
  induction text with
  | nil => exact List.prefix_refl []
  | cons character rest induction =>
      rw [beforeClosing]
      split
      · exact List.nil_prefix
      · exact List.cons_prefix_cons.mpr ⟨rfl, induction⟩

theorem beforeClosing_append_closingPart (text : List Char) :
    beforeClosing text ++ closingPart text = text := by
  obtain ⟨closing, split⟩ := beforeClosing_prefix text
  have behind : closingPart text = closing := by
    unfold closingPart
    conv => lhs; arg 2; rw [← split]
    exact List.drop_left
  rw [behind, split]

theorem attributePart_append_closingPart (inside : List Char) :
    attributePart inside ++ closingPart (inside.dropWhile isBlank) =
      inside := by
  rw [attributePart, List.append_assoc, beforeClosing_append_closingPart,
    List.takeWhile_append_dropWhile]

theorem slashOf_append {blanks : List Char}
    (blank : ∀ character ∈ blanks, isBlank character = true)
    (text : List Char) : slashOf (blanks ++ text) = slashOf text := by
  cases text with
  | nil =>
      have last : blanks.getLast? ≠ some '/' := by
        intro solidus
        have member := blank '/' (List.mem_of_getLast? solidus)
        exact absurd member (by decide)
      simp [slashOf, last]
  | cons first others => simp [slashOf]

theorem slashOf_dropWhile {blank : Char} (leads : isBlank blank = true)
    (others : List Char) :
    slashOf (others.dropWhile isBlank) = slashOf (blank :: others) := by
  have run : ∀ character ∈ blank :: others.takeWhile isBlank,
      isBlank character = true := by
    simpa [leads] using List.all_eq_true.mp List.all_takeWhile
  have added := slashOf_append run (others.dropWhile isBlank)
  rw [List.cons_append, List.takeWhile_append_dropWhile] at added
  exact added.symm

section Answers

open Text.SearchExpression (answer_sequence answer_part answer_optional
  answer_one_cons answer_one_nil answer_most_of_dead answer_most_of_longest
  answer_fewest_cons answer_fewest_nil)

variable {Answer : Type} {next : Way → Option Answer}
  {inside text rest : List Char}

/-! ## Closings -/

theorem answer_ending_nil : endingExpression.answer [] next = none := by
  simp [endingExpression, answer_sequence, answer_part, answer_optional,
    answer_one_nil, Way.nothing, Way.asPart]

theorem answer_ending_bracket :
    endingExpression.answer ('>' :: rest) next =
      next { taken := ['>'], parts := [[]], rest } := by
  simp [endingExpression, answer_sequence, answer_part, answer_optional,
    answer_one_cons, Way.nothing, Way.asPart, Way.join, Way.behind]

theorem answer_ending_slash :
    endingExpression.answer ('/' :: '>' :: rest) next =
      next { taken := ['/', '>'], parts := [['/']], rest } := by
  simp [endingExpression, answer_sequence, answer_part, answer_optional,
    answer_one_cons, Way.nothing, Way.asPart, Way.join, Way.behind]

theorem answer_ending_other {character : Char} (other : character ≠ '>')
    (unclosed : character = '/' → rest.head? ≠ some '>') :
    endingExpression.answer (character :: rest) next = none := by
  by_cases solidus : character = '/'
  · have follows := unclosed solidus
    subst solidus
    cases rest with
    | nil =>
        simp [endingExpression, answer_sequence, answer_part, answer_optional,
          answer_one_cons, answer_one_nil, Way.nothing, Way.asPart, Way.behind]
    | cons second others =>
        have later : second ≠ '>' := by simpa using follows
        simp [endingExpression, answer_sequence, answer_part, answer_optional,
          answer_one_cons, Way.nothing, Way.asPart, Way.behind, later]
  · simp [endingExpression, answer_sequence, answer_part, answer_optional,
      answer_one_cons, Way.nothing, Way.asPart, solidus, other]

/-- No ending goes on behind a blank, so all blanks in front of it count. -/
theorem answer_closing_eq :
    closingExpression.answer text next =
      endingExpression.answer (text.dropWhile isBlank)
        (next ∘ (Way.longest isBlank text).join) := by
  rw [closingExpression, answer_sequence, answer_most_of_dead]
  · rfl
  · intro taken character rest blank
    apply answer_ending_other
    · rintro rfl
      exact absurd blank (by decide)
    · rintro rfl
      exact absurd blank (by decide)

/-- A text is closed when only blanks and a slash stand in front of its first
bracket. -/
theorem answer_closing (bracketless : '>' ∉ inside) (rest : List Char)
    (next : Way → Option Answer) :
    closingExpression.answer (inside ++ '>' :: rest) next =
      if isClosing inside then
        next {
          taken := inside ++ ['>']
          parts := [slashOf inside]
          rest }
      else none := by
  have blanks := List.takeWhile_append_dropWhile (p := isBlank) (l := inside)
  have blank : ∀ character ∈ inside.takeWhile isBlank,
      isBlank character = true := List.all_eq_true.mp List.all_takeWhile
  have stops : ∀ character ∈
      (inside.dropWhile isBlank ++ '>' :: rest).head?,
      isBlank character = false := by
    have failed := List.head?_dropWhile_not isBlank inside
    cases behind : inside.dropWhile isBlank with
    | nil => simpa using (by decide : isBlank '>' = false)
    | cons first others => simpa [behind] using failed
  have taken := span_append isBlank
    (inside.dropWhile isBlank ++ '>' :: rest) blank stops
  rw [← List.append_assoc, blanks] at taken
  rw [answer_closing_eq, Way.longest, taken.1, taken.2]
  unfold isClosing
  cases behind : inside.dropWhile isBlank with
  | nil =>
      rw [behind, List.append_nil] at blanks
      have plain : slashOf inside = [] := by
        have added := slashOf_append blank []
        rwa [List.append_nil, blanks] at added
      rw [List.nil_append, answer_ending_bracket]
      simp [Way.join, blanks, plain]
  | cons first others =>
      rw [behind] at blanks
      by_cases solidus : first :: others = ['/']
      · obtain ⟨rfl, rfl⟩ := List.cons.inj solidus
        have last : inside.getLast? = some '/' := by
          rw [← blanks]
          simp
        have whole : inside.takeWhile isBlank ++ ['/', '>'] =
            inside ++ ['>'] := by
          have longer := congrArg (· ++ ['>']) blanks
          simpa using longer
        rw [List.cons_append, List.nil_append, answer_ending_slash]
        simp [Way.join, last, whole, slashOf]
      · have absent : '>' ∉ first :: others := by
          intro member
          apply bracketless
          rw [← blanks]
          exact List.mem_append_right _ member
        rw [List.cons_append, answer_ending_other, if_neg]
        · simpa using solidus
        · rintro rfl
          exact absent List.mem_cons_self
        · rintro rfl
          cases others with
          | nil => exact absurd rfl solidus
          | cons second more =>
              intro closes
              obtain rfl : second = '>' := by simpa using closes
              exact absent (by simp)

theorem answer_closing_eq_none (bracketless : '>' ∉ text) :
    closingExpression.answer text next = none := by
  have absent : '>' ∉ text.dropWhile isBlank := fun member =>
    bracketless ((List.dropWhile_suffix isBlank).subset member)
  rw [answer_closing_eq]
  cases behind : text.dropWhile isBlank with
  | nil => exact answer_ending_nil
  | cons first others =>
      rw [behind] at absent
      apply answer_ending_other
      · rintro rfl
        exact absent List.mem_cons_self
      · intro _ closes
        exact absent (List.mem_cons_of_mem _ (List.mem_of_head? closes))

/-! ## Attributes -/

/-- Attributes end where only a closing is left. -/
theorem answer_fewest_closing (bracketless : '>' ∉ inside)
    (rest : List Char) (result : Way → Way → Answer) :
    (SearchExpression.fewest (· != '>')).answer (inside ++ '>' :: rest)
        (fun way => closingExpression.answer way.rest
          fun other => some (result way other)) =
      some (result
        { taken := beforeClosing inside, parts := []
          rest := closingPart inside ++ '>' :: rest }
        { taken := closingPart inside ++ ['>'], parts := [slashOf inside]
          rest }) := by
  induction inside generalizing result with
  | nil =>
      have closes := answer_closing bracketless rest fun other =>
        some (result (.nothing ('>' :: rest)) other)
      rw [List.nil_append] at closes ⊢
      rw [answer_fewest_cons]
      simp only [Way.nothing] at closes ⊢
      rw [closes]
      simp [isClosing, beforeClosing, closingPart]
  | cons character inside induction =>
      obtain ⟨other, absent⟩ := by simpa using bracketless
      have closes := answer_closing bracketless rest fun other =>
        some (result (.nothing (character :: inside ++ '>' :: rest)) other)
      have passes : (character != '>') = true := by
        simpa using Ne.symm other
      rw [List.cons_append] at closes ⊢
      rw [answer_fewest_cons, if_pos passes]
      simp only [Way.nothing] at closes ⊢
      rw [closes, closingPart, beforeClosing]
      by_cases ends : isClosing (character :: inside) = true
      · simp [ends]
      · have later := induction absent fun way => result (way.behind character)
        have same : slashOf (character :: inside) = slashOf inside := by
          cases inside with
          | nil =>
              have plain : character ≠ '/' := by
                rintro rfl
                exact ends (by decide)
              simp [slashOf, plain]
          | cons second more => simp [slashOf, List.getLast?_cons_cons]
        rw [if_neg ends, Option.none_or, if_neg ends, same]
        exact later

/-- Attributes are tried first with all blanks in front of them. -/
theorem answer_attributesExpression {blank : Char}
    (isBlank : Text.isBlank blank = true) (bracketless : '>' ∉ inside)
    (rest : List Char) (result : Way → Way → Answer) :
    let behind := inside.dropWhile Text.isBlank
    attributesExpression.answer (blank :: inside ++ '>' :: rest)
        (fun way => closingExpression.answer way.rest
          fun other => some (result way other)) =
      some (result
        { taken := attributePart (blank :: inside), parts := []
          rest := closingPart behind ++ '>' :: rest }
        { taken := closingPart behind ++ ['>'], parts := [slashOf behind]
          rest }) := by
  intro behind
  have blanks := List.takeWhile_append_dropWhile (p := Text.isBlank)
    (l := inside)
  have absent : '>' ∉ behind := fun member =>
    bracketless ((List.dropWhile_suffix Text.isBlank).subset member)
  have passes : ∀ character ∈ inside.takeWhile Text.isBlank,
      Text.isBlank character = true := List.all_eq_true.mp List.all_takeWhile
  have stops : ∀ character ∈ (behind ++ '>' :: rest).head?,
      Text.isBlank character = false := by
    have failed := List.head?_dropWhile_not Text.isBlank inside
    cases given : behind with
    | nil => simpa using (by decide : Text.isBlank '>' = false)
    | cons first others =>
        have head : inside.dropWhile Text.isBlank = first :: others := given
        simpa [head] using failed
  have taken := span_append Text.isBlank (behind ++ '>' :: rest) passes stops
  rw [← List.append_assoc, blanks] at taken
  have later := answer_fewest_closing absent rest fun way other =>
    result { way with
      taken := blank :: (inside.takeWhile Text.isBlank ++ way.taken) } other
  rw [attributesExpression, List.cons_append, answer_sequence,
    answer_one_cons, if_pos isBlank]
  simp only [Way.behind, Way.nothing]
  rw [answer_sequence]
  apply answer_most_of_longest
  rw [Way.longest, taken.1, taken.2]
  simpa [Way.join, Function.comp_def, attributePart, isBlank] using later

theorem answer_attributesExpression_eq_none
    (stops : ∀ character ∈ text.head?, isBlank character = false) :
    attributesExpression.answer text next = none := by
  rw [attributesExpression, answer_sequence]
  cases text with
  | nil => exact answer_one_nil
  | cons first others =>
      have plain : isBlank first = false := stops first rfl
      rw [answer_one_cons]
      simp [plain]

/-- Without a blank, what may stand behind a name is a closing. -/
theorem isInside_eq_isClosing
    (stops : ∀ character ∈ inside.head?, isBlank character = false) :
    isInside inside = isClosing inside := by
  cases inside with
  | nil => rfl
  | cons first others =>
      have plain : isBlank first = false := stops first rfl
      unfold isInside
      split
      · simp at *
      · next solidus => rw [solidus]; decide
      · next solidus equality =>
          obtain ⟨rfl, rfl⟩ := List.cons.inj equality
          simpa [isClosing, plain] using solidus

theorem attributePart_of_isClosing
    (stops : ∀ character ∈ inside.head?, isBlank character = false)
    (closes : isClosing inside = true) : attributePart inside = [] := by
  cases inside with
  | nil => rfl
  | cons first others =>
      have plain : isBlank first = false := stops first rfl
      simp [attributePart, plain, beforeClosing, closes]

/-- Behind the name of a tag its inside is shared out in one way. -/
theorem answer_inside (bracketless : '>' ∉ inside) (rest : List Char)
    (result : Way → Answer) :
    insideExpression.answer (inside ++ '>' :: rest)
        (fun way => some (result way)) =
      if isInside inside then
        some (result {
          taken := inside ++ ['>']
          parts := [attributePart inside, slashOf inside]
          rest })
      else none := by
  rw [insideExpression, answer_sequence, answer_part, answer_optional]
  simp only [Function.comp_def]
  by_cases stops : ∀ character ∈ inside.head?, isBlank character = false
  · have bracketFirst : ∀ character ∈ (inside ++ '>' :: rest).head?,
        isBlank character = false := by
      cases inside with
      | nil => simpa using (by decide : isBlank '>' = false)
      | cons first others => exact stops
    rw [answer_attributesExpression_eq_none bracketFirst, Option.none_or,
      isInside_eq_isClosing stops]
    simp only [Way.nothing, Way.asPart]
    rw [answer_closing bracketless]
    by_cases closes : isClosing inside = true
    · simp [closes, Way.join, attributePart_of_isClosing stops closes]
    · simp [closes]
  · cases inside with
    | nil => simp at stops
    | cons blank others =>
        have leads : isBlank blank = true := by simpa using stops
        have absent : '>' ∉ others := fun member =>
          bracketless (List.mem_cons_of_mem _ member)
        have follows : isInside (blank :: others) = true :=
          isInside_of_isBlank leads others
        have tried := answer_attributesExpression leads absent rest
          fun way other => result (way.asPart.join other)
        have first : attributesExpression.answer
            (blank :: others ++ '>' :: rest)
            (fun way => closingExpression.answer way.asPart.rest
              fun other => some (result (way.asPart.join other))) =
            some (result {
              taken := blank :: others ++ ['>']
              parts := [attributePart (blank :: others),
                slashOf (blank :: others)]
              rest }) := by
          rw [← slashOf_dropWhile leads]
          conv =>
            rhs; arg 1; arg 1; arg 1
            rw [← attributePart_append_closingPart (blank :: others),
              List.append_assoc, List.dropWhile_cons_of_pos leads]
          exact tried
        rw [first, Option.some_or, if_pos follows]

/-! ## Tags -/

/-- Behind a shorter name there is nothing that can follow a name. -/
theorem answer_inside_of_isNameCharacter {character : Char}
    (named : isNameCharacter character = true) :
    insideExpression.answer (character :: rest) next = none := by
  have plain : isBlank character = false := by
    cases blank : isBlank character with
    | false => rfl
    | true =>
        rw [isNameCharacter_of_isBlank blank] at named
        cases named
  have stops : ∀ other ∈ (character :: rest).head?,
      isBlank other = false := by
    simpa using plain
  rw [insideExpression, answer_sequence, answer_part, answer_optional,
    answer_attributesExpression_eq_none stops, Option.none_or]
  simp only [Function.comp, Way.nothing, Way.asPart]
  rw [answer_closing_eq, List.dropWhile_cons_of_neg (by simp [plain])]
  apply answer_ending_other
  · rintro rfl
    exact absurd named (by decide)
  · rintro rfl
    exact absurd named (by decide)

theorem answer_inside_eq_none (bracketless : '>' ∉ text) :
    insideExpression.answer text next = none := by
  rw [insideExpression, answer_sequence]
  apply Text.SearchExpression.answer_eq_none
  intro way suffix
  exact answer_closing_eq_none fun member => bracketless (suffix.subset member)

/-- The first way to match the expression of a tag behind a bracket is the tag
that is read there. -/
theorem answer_tagExpression (text : List Char) (start : Nat) :
    tagExpression.answer ('<' :: text) some =
      (OpeningTag.read? start text).map fun (tag, rest) =>
        { taken := tag.occurrence.taken
          parts := tag.occurrence.parts
          rest } := by
  rw [tagExpression, answer_sequence, answer_one_cons, if_pos (by decide),
    answer_sequence, answer_part, answer_sequence]
  simp only [Way.behind, Way.nothing]
  cases text with
  | nil => exact answer_one_nil
  | cons first text =>
      rw [answer_one_cons]
      by_cases begins : isNameStart first = true
      · rw [if_pos begins]
        simp only [Way.behind, Way.nothing]
        rw [answer_most_of_dead]
        · simp only [Way.longest, OpeningTag.read?, begins, if_true]
          generalize text.dropWhile isNameCharacter = later
          generalize text.takeWhile isNameCharacter = name
          have whole := List.takeWhile_append_dropWhile (p := (· != '>'))
            (l := later)
          have bracketless : '>' ∉ later.takeWhile (· != '>') := by
            intro member
            have other := List.all_eq_true.mp List.all_takeWhile _ member
            simp at other
          have stopped := List.head?_dropWhile_not (· != '>') later
          cases behind : later.dropWhile (· != '>') with
          | nil =>
              rw [behind, List.append_nil] at whole
              rw [whole] at bracketless
              exact answer_inside_eq_none bracketless
          | cons bracket rest =>
              rw [behind] at stopped
              obtain rfl : bracket = '>' := by simpa using stopped
              rw [behind] at whole
              have answered := answer_inside bracketless rest
                fun way => {
                  taken := '<' :: first :: (name ++ way.taken)
                  parts := (first :: name) :: way.parts
                  rest := way.rest : Way }
              rw [whole] at answered
              refine Eq.trans answered ?_
              simp only
              split
              · simp [OpeningTag.occurrence, OpeningTag.text]
              · rfl
        · intro taken character rest named
          exact answer_inside_of_isNameCharacter named
      · simp [OpeningTag.read?, begins]

end Answers

/-! ## Searches -/

namespace OpeningTag

open Text.SearchExpression (answer_sequence answer_one_cons)

/-- A tag stands at the front of a text: a bracket, a letter or an exclamation
mark, all characters of names behind it, and then the closing bracket, a slash
in front of it, or anything that a blank sets off, up to the next closing
bracket. -/
structure StandsAt (offset : Nat) (text : List Char) (tag : OpeningTag)
    (rest : List Char) : Prop where
  start : tag.start = offset
  spelled : text = '<' :: (tag.name ++ (tag.inside ++ '>' :: rest))
  begins : ∃ first ∈ tag.name.head?,
    Text.isAsciiLetter first = true ∨ first = '!'
  continues : ∀ character ∈ tag.name.tail, isNameCharacter character = true
  longest : ∀ character ∈ (tag.inside ++ '>' :: rest).head?,
    isNameCharacter character = false
  follows : tag.inside = [] ∨ tag.inside = ['/'] ∨
    ∃ blank ∈ tag.inside.head?, isBlank blank = true
  bracketless : '>' ∉ tag.inside

theorem standsAt_iff {offset : Nat} {text rest : List Char}
    {tag : OpeningTag} :
    StandsAt offset text tag rest ↔
      ∃ behind, text = '<' :: behind ∧
        read? offset behind = some (tag, rest) := by
  constructor
  · intro stands
    refine ⟨_, stands.spelled, ?_⟩
    have begins : ∃ first ∈ tag.name.head?, isNameStart first = true := by
      simpa [isNameStart] using stands.begins
    have follows : isInside tag.inside = true := by
      rcases stands.follows with none | slash | ⟨blank, leads, isBlank⟩
      · rw [none]
        rfl
      · rw [slash]
        rfl
      · obtain ⟨others, whole⟩ := List.head?_eq_some_iff.mp leads
        rw [whole]
        exact isInside_of_isBlank isBlank others
    have read := read?_of_found begins stands.continues stands.bracketless
      follows rest offset
    rw [read]
    obtain rfl := stands.start
    rfl
  · rintro ⟨behind, rfl, found⟩
    obtain ⟨start, whole, isFound⟩ := isFound_of_read? found
    have follows := isInside_of_read? found
    constructor
    · exact start
    · simpa [OpeningTag.text] using whole
    · simpa [isNameStart] using isFound.begins
    · exact isFound.continues
    · exact isNameCharacter_of_isInside follows rest
    · cases given : tag.inside with
      | nil => exact .inl rfl
      | cons first others =>
          by_cases blank : isBlank first = true
          · exact .inr (.inr ⟨first, rfl, blank⟩)
          · rw [given, isInside_eq_isClosing (by simpa using blank)] at follows
            exact .inr (.inl (by simpa [isClosing, blank] using follows))
    · exact isFound.bracketless

theorem isDetermined_standsAt : Text.IsDetermined StandsAt := by
  intro offset text tag rest other after left right
  obtain ⟨behind, rfl, read⟩ := standsAt_iff.mp left
  obtain ⟨again, same, reread⟩ := standsAt_iff.mp right
  obtain ⟨-, rfl⟩ := List.cons.inj same
  simpa [read] using reread

/-- A scan is a search for tags. -/
theorem finds_scan (offset : Nat) (text : List Char) :
    Text.Finds StandsAt offset text (scan offset text) := by
  fun_induction scan offset text with
  | case1 => exact .nothing
  | case2 offset rest tag later found induction =>
      obtain ⟨start, whole, -⟩ := isFound_of_read? found
      refine .found (standsAt_iff.mpr ⟨rest, rfl, found⟩) whole ?_ ?_
      · simp [OpeningTag.text]
      · rw [← start, ← stop_eq]
        exact induction
  | case3 offset rest missed induction =>
      refine .passed (fun tag after stands => ?_) induction
      obtain ⟨behind, same, found⟩ := standsAt_iff.mp stands
      obtain ⟨-, rfl⟩ := List.cons.inj same
      simp [missed] at found
  | case4 offset character rest other induction =>
      refine .passed (fun tag after stands => ?_) induction
      obtain ⟨behind, same, found⟩ := standsAt_iff.mp stands
      exact other (List.cons.inj same).1

theorem matches_iff {offset : Nat} {text rest : List Char}
    {occurrence : Text.Occurrence} :
    tagExpression.Matches offset text occurrence rest ↔
      ∃ tag, occurrence = tag.occurrence ∧ StandsAt offset text tag rest := by
  constructor
  · rintro ⟨start, first⟩
    cases text with
    | nil => cases first
    | cons character behind =>
        by_cases bracket : character = '<'
        · subst bracket
          rw [answer_tagExpression behind offset, Option.map_eq_some_iff] at first
          obtain ⟨⟨tag, after⟩, found, same⟩ := first
          simp only [Way.mk.injEq] at same
          obtain ⟨taken, parts, rfl⟩ := same
          have stands := standsAt_iff.mpr ⟨behind, rfl, found⟩
          refine ⟨tag, ?_, stands⟩
          obtain ⟨itsStart, itsTaken, itsParts⟩ := occurrence
          simp only at start taken parts
          rw [OpeningTag.occurrence, Text.Occurrence.mk.injEq]
          exact ⟨start.trans stands.start.symm, taken.symm, parts.symm⟩
        · rw [tagExpression, answer_sequence, answer_one_cons,
            if_neg (by simpa using bracket)] at first
          cases first
  · rintro ⟨tag, rfl, stands⟩
    obtain ⟨behind, rfl, found⟩ := standsAt_iff.mp stands
    refine ⟨stands.start, ?_⟩
    rw [answer_tagExpression behind offset, found]
    rfl

/-- A scan is a search for the expression of a tag. -/
theorem finds_occurrences (offset : Nat) (text : List Char) :
    Text.Finds tagExpression.Matches offset text
      ((scan offset text).map occurrence) := by
  apply (finds_scan offset text).map
  · intro offset text tag rest stands
    exact matches_iff.mpr ⟨tag, rfl, stands⟩
  · intro offset text occurrence rest matched
    obtain ⟨tag, -, stands⟩ := matches_iff.mp matched
    exact ⟨tag, rest, stands⟩

end OpeningTag

end Markup

end SourceMark
