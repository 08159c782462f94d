import SourceMark.Proofs.Marker
import SourceMark.Proofs.Template.Visibility

/-!
# Templates whose brackets start tags

Where every bracket starts a tag or a comment, nothing inside a token looks
like the tag of a template element in the raw text.  Marks without brackets
leave it so, and such a text is balanced with its marks if it is without them.
-/

namespace SourceMark

namespace Template

/-! ## Taking balanced texts apart -/

/-- A text that is spelled as a piece shows in front of any other one where it
ends and which piece it is. -/
theorem BodyPiece.Spells.unique {first second : BodyPiece}
    {text other rest later : List Char} (spells : first.Spells text)
    (again : second.Spells other) (same : text ++ rest = other ++ later) :
    first = second ∧ rest = later := by
  obtain ⟨inside, rfl⟩ := spells.eq_cons
  obtain ⟨others, rfl⟩ := again.eq_cons
  have here := bodyPiece?_of_spells spells rest 0
  have there := bodyPiece?_of_spells again later 0
  have inner : inside ++ rest = others ++ later := List.tail_eq_of_cons_eq same
  rw [inner, there] at here
  simp only [Option.some.injEq, Prod.mk.injEq, Cursor.mk.injEq] at here
  exact ⟨here.1.symm, here.2.1.symm⟩

theorem BodyPiece.Spells.startsPiece {piece : BodyPiece} {text : List Char}
    (spells : piece.Spells text) (later : List Char) :
    startsPiece (text ++ later) = true := by
  have leads := List.prefix_append text later
  simp only [Template.startsPiece, Bool.or_eq_true]
  cases spells with
  | comment starts ends =>
      exact .inl (.inl (List.isPrefixOf_iff_prefix.mpr (starts.trans leads)))
  | childless starts whole closed =>
      exact .inr <| startsTag_of_prefix starts leads
  | opening starts whole left =>
      exact .inr <| startsTag_of_prefix starts leads
  | closing starts ends =>
      exact .inl (.inr <| startsTag_of_prefix starts leads)

/-- What follows a piece in a balanced text can be replaced by what is balanced
in its place. -/
theorem Balanced.replace_behind {depth : Nat} {piece : BodyPiece}
    {text rest other : List Char} (balanced : Balanced depth (text ++ rest))
    (spells : piece.Spells text)
    (replaces : ∀ depth, Balanced depth rest → Balanced depth other) :
    Balanced depth (text ++ other) := by
  generalize whole : text ++ rest = all at balanced
  cases balanced with
  | nil =>
      obtain ⟨inside, rfl⟩ := spells.eq_cons
      simp at whole
  | character plain later =>
      have starts := spells.startsPiece rest
      rw [whole, plain] at starts
      simp at starts
  | plain given later =>
      obtain ⟨rfl, rfl⟩ := spells.unique given whole
      exact .plain spells (replaces _ later)
  | opens given later =>
      obtain ⟨rfl, rfl⟩ := spells.unique given whole
      exact .opens spells (replaces _ later)
  | closes given later =>
      obtain ⟨rfl, rfl⟩ := spells.unique given whole
      exact .closes spells (replaces _ later)

theorem Balanced.tail {depth : Nat} {character : Char} {rest : List Char}
    (balanced : Balanced depth (character :: rest))
    (plain : startsPiece (character :: rest) = false) : Balanced depth rest := by
  generalize whole : character :: rest = all at balanced plain
  cases balanced with
  | nil => simp at whole
  | character _ later =>
      obtain ⟨-, rfl⟩ := List.cons.inj whole
      exact later
  | plain given later => simp [given.startsPiece] at plain
  | opens given later => simp [given.startsPiece] at plain
  | closes given later => simp [given.startsPiece] at plain

/-- A text without pieces can be taken off a balanced text. -/
theorem Balanced.behind {depth : Nat} {text later : List Char}
    (balanced : Balanced depth (text ++ later))
    (plain : holdsPiece text = false) (ends : EndsInFrontOf text later) :
    Balanced depth later := by
  induction text with
  | nil => exact balanced
  | cons character rest induction =>
      simp only [holdsPiece, Bool.or_eq_false_iff] at plain
      have here := plain.1
      rw [← startsPiece_append (by simp) ends] at here
      have further := balanced.tail here
      cases rest with
      | nil => exact further
      | cons second others =>
          exact induction further plain.2 (ends.tail (by simp))

/-! ## Brackets inside tokens -/

/-- How many brackets the tags, or the comment, of a token start with. -/
def Token.brackets : Token → Nat
  | comment _ => 1
  | opening _ => 1
  | raw _ _ => 2
  | closing _ => 1
  | _ => 0

/-- Whether a token, given with its text, has no other brackets. -/
def Token.isSparse (entry : Token × List Char) : Bool :=
  entry.2.count '<' = entry.1.brackets

/-- Every bracket of a text starts an opening tag, a closing tag or a
comment. -/
def bracketsAreTags (text : List Char) : Bool :=
  (tokenTexts 0 text).all Token.isSparse

theorem startsPiece_of_ne {first : Char} (other : first ≠ '<')
    (rest : List Char) : startsPiece (first :: rest) = false := by
  cases starts : startsPiece (first :: rest) with
  | false => rfl
  | true =>
      obtain ⟨mark, member, leads⟩ := (startsPiece_iff _).mp starts
      have known : pieceMarks.all (fun mark => mark.head? = some '<') = true := by
        decide +kernel
      have opens := List.all_eq_true.mp known mark member
      obtain ⟨later, whole⟩ := leads
      cases mark with
      | nil => simp at opens
      | cons head tail =>
          obtain ⟨rfl, -⟩ := List.cons.inj whole
          exact absurd (by simpa using opens) other

/-- Pieces start at brackets only. -/
theorem holdsPiece_append {front : List Char} (absent : '<' ∉ front)
    (rest : List Char) : holdsPiece (front ++ rest) = holdsPiece rest := by
  induction front with
  | nil => rfl
  | cons first others induction =>
      simp only [List.mem_cons, not_or] at absent
      rw [List.cons_append, holdsPiece, startsPiece_of_ne (Ne.symm absent.1),
        induction absent.2]
      rfl

theorem holdsPiece_of_notMem {text : List Char} (absent : '<' ∉ text) :
    holdsPiece text = false := by
  have nothing := holdsPiece_append absent []
  rw [List.append_nil] at nothing
  rw [nothing, holdsPiece]

/-- The tag that a piece shows is the one of a template element. -/
theorem BodyPiece.Shows.named {piece : BodyPiece} {token : Token}
    (shown : piece.Shows token) :
    ∀ tag ∈ token.tag?, tag.name.toList = templateName := by
  intro tag given
  cases shown with
  | comment value => simp [Token.tag?] at given
  | childless named closed =>
      obtain rfl := by simpa [Token.tag?] using given
      exact named
  | opening named left =>
      obtain rfl := by simpa [Token.tag?] using given
      exact named
  | closing named => simp [Token.tag?] at given

section Steps

variable {first : Char} {rest text : List Char} {offset : Nat} {token : Token}
  {behind : Cursor}

/-- Tags and comments start with a bracket. -/
theorem bracket_of_step (taken : step first rest offset = (token, behind))
    (brackets : token.brackets ≠ 0) : first = '<' := by
  by_cases bracket : first = '<'
  · exact bracket
  · have others : ∀ mark : List Char, ('<' :: mark).isPrefixOf (first :: rest) =
        false := by
      intro mark
      simp [List.isPrefixOf, Ne.symm bracket]
    simp only [step, others, bracket, if_false] at taken
    split at taken
    · unfold interpolationStep at taken
      split at taken
      · obtain ⟨rfl, -⟩ := by simpa using taken
        exact absurd rfl brackets
      · obtain ⟨rfl, -⟩ := by simpa [faultStep] using taken
        exact absurd rfl brackets
    · obtain ⟨rfl, -⟩ := by simpa [textStep] using taken
      exact absurd rfl brackets

/-- The names of the elements whose body is text start alike. -/
theorem head?_of_isRaw {name : String} (isText : isRaw name = true) :
    (Text.lowerAscii name.toList).head? = some 's' := by
  have member : Text.lowerString name ∈ rawNames := by
    simpa [isRaw] using isText
  have known : rawNames.all (fun name => name.toList.head? = some 's') = true := by
    decide +kernel
  have starts := List.all_eq_true.mp known _ member
  simpa [Text.lowerString] using starts

/-- So do their end tags. -/
theorem head?_of_startsEndTag {name : String} (isText : isRaw name = true)
    (ends : startsEndTag name.toList ('<' :: '/' :: text) = true) :
    (Text.lowerAscii text).head? = some 's' := by
  have alike : Text.lowerAscii (text.take name.toList.length) =
      Text.lowerAscii name.toList := by
    simp only [startsEndTag, Bool.and_eq_true, Text.sameIgnoringCase,
      beq_iff_eq] at ends
    exact ends.1
  have start := head?_of_isRaw isText
  rw [← alike, Text.lowerAscii, List.head?_map, List.head?_take] at start
  rw [Text.lowerAscii, List.head?_map]
  split at start
  · simp at start
  · exact start

/-- No end tag of an element whose body is text is a piece. -/
theorem startsPiece_of_startsEndTag {name : String}
    (isText : isRaw name = true)
    (ends : startsEndTag name.toList text = true) :
    startsPiece text = false := by
  have spelled : templateName = 't' :: "emplate".toList := rfl
  obtain ⟨inside, rfl⟩ := eq_cons_of_startsEndTag ends
  cases starts : startsPiece ('<' :: '/' :: inside) with
  | false => rfl
  | true =>
      simp only [startsPiece, Bool.or_eq_true] at starts
      rcases starts with (comment | closes) | opens
      · simp [commentOpening] at comment
      · obtain ⟨last, _, later, -, shape⟩ := eq_of_closing closes
        obtain ⟨-, rfl⟩ := List.cons.inj shape
        have start := head?_of_startsEndTag isText ends
        rw [spelled, Text.lowerAscii, List.head?_map, List.cons_append,
          List.head?_cons, Option.map_some] at start
        exact absurd start (by decide)
      · obtain ⟨last, _, later, -, shape⟩ := eq_of_opening opens
        rw [spelled] at shape
        exact absurd (List.cons.inj shape).1 (by decide)

/-- What is passed over behind the body of an element starts where its end tag
does. -/
theorem reaches_behindBracket {close : Cursor} {later : List Char}
    (bracket : close.rest = '<' :: later) :
    ∃ ending, close.Reaches ('<' :: ending) (behindBracket close) := by
  obtain ⟨taken, reaches, reached, -⟩ := behindBracket_local close
  have whole : '<' :: later = taken ++ (behindBracket close).rest :=
    bracket ▸ reaches.rest
  cases taken with
  | nil => simp [(reached.resolve_left (by simp))] at whole
  | cons first ending =>
      obtain ⟨rfl, -⟩ := List.cons.inj whole
      exact ⟨ending, reaches⟩

/-- An element whose body is text ends with an end tag, which is no piece. -/
theorem raw_of_step {tag : OpenTag} {body inside : List Char}
    (taken : step first rest offset = (.raw tag body, behind))
    (passed : Cursor.Reaches { rest := first :: rest, offset }
      (first :: inside) behind) :
    ∃ front ending, inside = front ++ '<' :: ending ∧
      startsPiece ('<' :: ending) = false := by
  rcases cleaves_or_opened taken (by simp) with
    ⟨untagged, -⟩ | ⟨rfl, given, opened, read, inner⟩
  · simp [Token.tag?] at untagged
  · obtain ⟨front, -, -, -, -, begins, -⟩ := readOpenTag_local read
    unfold openedStep at inner
    split at inner
    · simp at inner
    · next isText =>
        split at inner
        · next text close found =>
            obtain ⟨⟨rfl, rfl⟩, rfl⟩ := by simpa using inner
            have ends := startsEndTag_of_findEndTagBehind? found
            have raw : isRaw given.name = true := by
              simpa using (Bool.or_eq_false_iff.mp
                (Bool.eq_false_iff.mpr isText)).2
            have plain := startsPiece_of_startsEndTag raw ends
            obtain ⟨later, bracket⟩ := eq_cons_of_startsEndTag ends
            obtain ⟨ending, reaches⟩ := reaches_behindBracket bracket
            have same := passed.unique (begins.trans
              ((reaches_findEndTag? found).trans reaches))
            rw [reaches.rest] at plain
            refine ⟨given.name.toList ++ front ++ text, ending, ?_, ?_⟩
            · simpa using same
            · cases starts : startsPiece ('<' :: ending) with
              | false => rfl
              | true =>
                  have further := startsPiece_of_prefix starts
                    (List.prefix_append _ (behindBracket close).rest)
                  rw [plain] at further
                  simp at further
        · simp [faultStep] at inner

/-- No piece starts at the tag of any other element. -/
theorem startsPiece_of_tag {tag : OpenTag}
    (taken : step first rest offset = (token, behind))
    (given : token.tag? = some tag) (other : tag.name.toList ≠ templateName) :
    startsPiece (first :: rest) = false := by
  cases starts : startsPiece (first :: rest) with
  | false => rfl
  | true =>
      have sound : ∀ fault, token ≠ .fault fault := by
        rintro fault rfl
        simp [Token.tag?] at given
      obtain ⟨piece, -, shown⟩ := shows_of_step starts taken sound
      exact absurd (shown.named tag given) other

end Steps

/-- A token that is read at some place and has no other brackets than those of
its tags; `inside` is its text without the first character. -/
structure SparseStep (first : Char) (rest : List Char) (offset : Nat)
    (token : Token) (inside : List Char) (behind : Cursor) : Prop where
  taken : step first rest offset = (token, behind)
  sound : ∀ fault, token ≠ .fault fault
  passed : Cursor.Reaches { rest := first :: rest, offset } (first :: inside)
    behind
  sparse : Token.isSparse (token, first :: inside) = true

namespace SparseStep

variable {first : Char} {rest inside : List Char} {offset : Nat}
  {token : Token} {behind : Cursor}

theorem whole
    (sparseStep : SparseStep first rest offset token inside behind) :
    first :: rest = (first :: inside) ++ behind.rest :=
  sparseStep.passed.rest

/-- No piece starts behind the first character of the token. -/
theorem holdsPiece_inside
    (sparseStep : SparseStep first rest offset token inside behind) :
    holdsPiece inside = false := by
  obtain ⟨taken, -, passed, sparse⟩ := sparseStep
  have counted : (first :: inside).count '<' = token.brackets := by
    simpa [Token.isSparse] using sparse
  by_cases raw : ∃ tag body, token = .raw tag body
  · obtain ⟨tag, body, rfl⟩ := raw
    obtain rfl := bracket_of_step taken (by simp [Token.brackets])
    obtain ⟨front, ending, rfl, plain⟩ := raw_of_step taken passed
    rw [List.count_cons_self, List.count_append, List.count_cons_self,
      Token.brackets] at counted
    have before : '<' ∉ front := List.count_eq_zero.mp (by omega)
    have after : '<' ∉ ending := List.count_eq_zero.mp (by omega)
    rw [holdsPiece_append before, holdsPiece, plain, holdsPiece_of_notMem after]
    rfl
  · have few : token.brackets ≤ 1 := by
      cases token with
      | raw tag body => exact absurd ⟨tag, body, rfl⟩ raw
      | _ => simp [Token.brackets]
    apply holdsPiece_of_notMem
    by_cases none : token.brackets = 0
    · rw [none, List.count_eq_zero] at counted
      exact fun member => counted (List.mem_cons_of_mem first member)
    · obtain rfl := bracket_of_step taken none
      rw [List.count_cons_self] at counted
      exact List.count_eq_zero.mp (by omega)

/-- Where no piece starts, the token is passed over character by character. -/
theorem plain_of_not_starts
    (sparseStep : SparseStep first rest offset token inside behind)
    (plain : startsPiece (first :: rest) = false) :
    holdsPiece (first :: inside) = false ∧
      EndsInFrontOf (first :: inside) behind.rest := by
  obtain ⟨text, reached, ends⟩ :=
    cleaves_step sparseStep.taken sparseStep.sound
  obtain rfl : text = first :: inside := reached.unique sparseStep.passed
  rw [sparseStep.whole, startsPiece_append (by simp) ends] at plain
  refine ⟨?_, ends⟩
  rw [holdsPiece, plain, sparseStep.holdsPiece_inside]
  rfl

/-- What follows the token in a balanced text can be replaced by what starts
alike and is balanced in its place. -/
theorem replace_behind {depth : Nat} {other : List Char}
    (sparseStep : SparseStep first rest offset token inside behind)
    (balanced : Balanced depth (first :: rest))
    (alike : other.head? = behind.rest.head?)
    (replaces : ∀ depth, Balanced depth behind.rest → Balanced depth other) :
    Balanced depth ((first :: inside) ++ other) := by
  cases starts : startsPiece (first :: rest) with
  | true =>
      obtain ⟨piece, read, -⟩ :=
        shows_of_step starts sparseStep.taken sparseStep.sound
      obtain ⟨text, reached, spells⟩ := spells_of_bodyPiece? starts read
      obtain rfl : text = first :: inside := reached.unique sparseStep.passed
      rw [sparseStep.whole] at balanced
      exact balanced.replace_behind spells replaces
  | false =>
      obtain ⟨plain, ends⟩ := sparseStep.plain_of_not_starts starts
      rw [sparseStep.whole] at balanced
      exact balanced_append plain (ends.congr alike)
        (replaces depth (balanced.behind plain ends))

end SparseStep

/-! ## Balanced texts with marks -/

theorem Addition.bracket_notMem_mark {location : Location}
    (plain : '<' ∉ location.file.toList) :
    '<' ∉ (Addition.mark location).text := by
  simpa only [Addition.mark] using Marker.bracket_notMem_attributeText plain

theorem Token.tag?_adding (addition : Addition) (token : Token) :
    (token.adding addition).tag? = token.tag?.map (OpenTag.adding addition) := by
  cases token with
  | _ => rfl

theorem Token.brackets_adding (addition : Addition) (token : Token) :
    (token.adding addition).brackets = token.brackets := by
  cases token with
  | _ => rfl

namespace SparseStep

variable {first : Char} {rest front back other : List Char} {offset : Nat}
  {token : Token} {behind : Cursor} {tag : OpenTag} {addition : Addition}

/-- An addition without a bracket leaves it so. -/
theorem adding
    (sparseStep : SparseStep first rest offset token (front ++ back) behind)
    (reads : token.ReadsAs first front back behind.rest.head?)
    (given : token.tag? = some tag) (plain : '<' ∉ addition.text)
    (alike : other.head? = behind.rest.head?) :
    SparseStep first (front ++ (addition.text ++ (back ++ other))) offset
      (token.adding addition) (front ++ (addition.text ++ back)) {
        rest := other
        offset := offset + Text.byteLength
          (first :: (front ++ (addition.text ++ back))) } where
  taken := reads.again addition (by simp [given]) other offset alike
  sound := by
    intro fault same
    have tagged := token.tag?_adding addition
    rw [same, given] at tagged
    simp [Token.tag?] at tagged
  passed := ⟨by simp, rfl⟩
  sparse := by
    have none := List.count_eq_zero.mpr plain
    simpa [Token.isSparse, Token.brackets_adding, List.count_cons, none]
      using sparseStep.sparse

/-- The tag of another element is passed over character by character, with an
addition and without it. -/
theorem replace_behind_adding {depth : Nat}
    (sparseStep : SparseStep first rest offset token (front ++ back) behind)
    (reads : token.ReadsAs first front back behind.rest.head?)
    (balanced : Balanced depth (first :: rest)) (given : token.tag? = some tag)
    (unlike : tag.name.toList ≠ templateName) (plain : '<' ∉ addition.text)
    (alike : other.head? = behind.rest.head?)
    (replaces : ∀ depth, Balanced depth behind.rest → Balanced depth other) :
    Balanced depth
      ((first :: (front ++ (addition.text ++ back))) ++ other) := by
  have again := sparseStep.adding reads given plain alike
  have tagged : (token.adding addition).tag? = some (tag.adding addition) := by
    rw [Token.tag?_adding, given, Option.map_some]
  obtain ⟨here, ends⟩ := sparseStep.plain_of_not_starts
    (startsPiece_of_tag sparseStep.taken given unlike)
  obtain ⟨hereAgain, endsAgain⟩ := again.plain_of_not_starts
    (startsPiece_of_tag again.taken tagged unlike)
  rw [sparseStep.whole] at balanced
  exact balanced_append hereAgain endsAgain
    (replaces depth (balanced.behind here ends))

end SparseStep

namespace Marking

/-- A marking leaves template elements alone and puts in no bracket. -/
structure KeepsPieces (marking : Marking) : Prop where
  others : ∀ offset tag location, marking offset tag = some location →
    tag.name.toList ≠ templateName
  bracketless : ∀ offset tag location, marking offset tag = some location →
    '<' ∉ location.file.toList

variable {marking : Marking}

/-- A text whose brackets start tags is balanced with its marks if it is
without them. -/
theorem KeepsPieces.balanced_interleave (keeps : marking.KeepsPieces)
    {offset depth : Nat} {text : List Char}
    (sound : AreSound (tokens offset text))
    (sparse : (tokenTexts offset text).all Token.isSparse = true)
    (balanced : Balanced depth text) :
    Balanced depth (Insertion.interleave
      (marking.insertions (tokens offset text)) offset text) := by
  induction offset, text, sound using sound_induction generalizing depth with
  | nil offset sound =>
      simpa [tokens, insertions, tagsOf, Insertion.interleave,
        Insertion.textsAt] using balanced
  | cons first rest offset sound token behind front back later taken reaches
      reads induction =>
      have here : ∀ fault, token ≠ .fault fault := by
        rw [tokens_cons taken] at sound
        exact sound (offset, token) (by simp)
      rw [tokenTexts_cons taken reaches, List.all_cons, Bool.and_eq_true]
        at sparse
      have replaces (depth : Nat) (balanced : Balanced depth behind.rest) :=
        induction sparse.2 balanced
      have beyond : ∀ insertion ∈
          marking.insertions (tokens behind.offset behind.rest),
          behind.offset < insertion.offset := lt_offset_of_insertion later
      have alike := Insertion.head?_interleave behind.rest beyond
      rw [interleave_cons taken reaches reads later]
      have sparseStep : SparseStep first rest offset token (front ++ back)
          behind := ⟨taken, here, reaches, sparse.1⟩
      -- A token without a mark may be a piece; one with a mark never is.
      cases chosen : token.tag?.bind (marking offset) with
      | none =>
          have unmarked := sparseStep.replace_behind balanced alike replaces
          simpa [addition, chosen] using unmarked
      | some location =>
          obtain ⟨tag, given, chosen⟩ := Option.bind_eq_some_iff.mp chosen
          have plain : '<' ∉ (Addition.mark location).text :=
            Addition.bracket_notMem_mark
              (keeps.bracketless offset tag location chosen)
          have marked := sparseStep.replace_behind_adding reads balanced given
            (keeps.others offset tag location chosen) plain alike replaces
          simpa only [addition, given, chosen, Option.bind_some,
            List.cons_append, List.append_assoc] using marked

end Marking

theorem Token.adding_none (token : Token) : token.adding .none = token := by
  cases token with
  | _ => rfl

/-- The tokens of a text and their texts are the same wherever it starts. -/
theorem tokenTexts_eq {offset : Nat} {text : List Char}
    (sound : AreSound (tokens offset text)) (start : Nat) :
    tokenTexts start text = tokenTexts offset text := by
  induction offset, text, sound using sound_induction generalizing start with
  | nil offset sound => rw [tokenTexts, tokenTexts]
  | cons first rest offset sound token behind front back later taken reaches
      reads induction =>
      have again := reads.again .none (fun _ => rfl) behind.rest start rfl
      have whole : first :: rest = (first :: (front ++ back)) ++ behind.rest :=
        reaches.rest
      have inside : rest = front ++ (back ++ behind.rest) := by
        simpa using List.tail_eq_of_cons_eq whole
      rw [Addition.text_none, List.nil_append, ← inside, Token.adding_none]
        at again
      rw [tokenTexts_cons again ⟨whole, rfl⟩, tokenTexts_cons taken reaches,
        induction]

theorem keepsPieces_markingFor {options : FileOptions}
    {locate : Nat → Position} (plain : '<' ∉ options.filename.toList) :
    (markingFor options locate).KeepsPieces where
  others := by
    intro offset tag location chosen named
    have template : tag.name = "template" := String.toList_inj.mp named
    have ineligible : isEligible options tag.name tag.attributes = false := by
      rw [template]
      rfl
    simp [markingFor, ineligible] at chosen
  bracketless := by
    intro offset tag location chosen
    simp only [markingFor] at chosen
    split at chosen
    · obtain rfl := by simpa using chosen
      exact plain
    · simp at chosen

/-- A template whose brackets start tags stays balanced when it is marked for a
file without a bracket in its name. -/
theorem balanced_of_marking {options : FileOptions} {locate : Nat → Position}
    {origin : Nat} {text : List Char} {nodes : List Node}
    (plain : '<' ∉ options.filename.toList)
    (tidy : bracketsAreTags text = true)
    (success : parse locate origin text = .ok nodes)
    (balanced : Balanced 0 text) :
    Balanced 0 (Insertion.interleave
      ((markingFor options locate).insertions (tokens origin text))
      origin text) := by
  have sound := (elements_of_parse success).1
  rw [bracketsAreTags, tokenTexts_eq sound 0] at tidy
  exact (keepsPieces_markingFor plain).balanced_interleave sound tidy balanced

end Template

end SourceMark
