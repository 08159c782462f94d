import SourceMark.Proofs.Evaluation
import SourceMark.Proofs.Template.Blocks
import SourceMark.Proofs.Template.Tokens

/-!
# Template elements in a raw text

The end of a template is looked for in the raw text.  Only comments and the
tags of template elements are passed over as a whole; all else is passed over
character by character, whatever it belongs to.  `Balanced` is the grammar of
the raw text in front of that end.
-/

namespace SourceMark

namespace Template

/-! ## Where a piece starts -/

/-- The marks at which more than one character is passed over. -/
def pieceMarks : List (List Char) :=
  commentOpening ::
    (nameEnds.map (fun last => "</template".toList ++ [last]) ++
      nameEnds.map (fun last => "<template".toList ++ [last]))

/-- Whether a text starts with a comment or with the tag of a template
element, complete or not. -/
def startsPiece (text : List Char) : Bool :=
  commentOpening.isPrefixOf text || startsTag "</template".toList text ||
    startsTag "<template".toList text

theorem mem_nameEnds_iff (character : Char) :
    character ∈ nameEnds ↔ isTagNamePart character = false := by
  simp only [nameEnds, isTagNamePart, Text.isAsciiBlank, List.mem_cons,
    List.not_mem_nil, Bool.not_eq_false', Bool.or_eq_true, decide_eq_true_eq,
    or_false, or_assoc]

theorem startsTag_iff (opening text : List Char) :
    startsTag opening text = true ↔
      ∃ last ∈ nameEnds, opening ++ [last] <+: text := by
  rw [startsTag, Bool.and_eq_true, List.isPrefixOf_iff_prefix]
  constructor
  · rintro ⟨⟨behind, rfl⟩, ends⟩
    rw [List.drop_left] at ends
    cases behind with
    | nil => simp at ends
    | cons last later =>
        refine ⟨last, ?_, later, by simp⟩
        rw [mem_nameEnds_iff]
        simp only [isTagNamePart, Bool.not_eq_false']
        grind
  · rintro ⟨last, member, later, rfl⟩
    rw [mem_nameEnds_iff] at member
    simp only [isTagNamePart, Bool.not_eq_false'] at member
    rw [List.append_assoc, List.drop_left]
    refine ⟨List.prefix_append _ _, ?_⟩
    simp only [List.singleton_append]
    grind

theorem startsPiece_iff (text : List Char) :
    startsPiece text = true ↔ ∃ mark ∈ pieceMarks, mark <+: text := by
  simp only [startsPiece, Bool.or_eq_true, startsTag_iff,
    List.isPrefixOf_iff_prefix, pieceMarks, List.mem_cons, List.mem_append,
    List.mem_map]
  constructor
  · rintro ((comment | ⟨last, member, closes⟩) | ⟨last, member, opens⟩)
    · exact ⟨_, .inl rfl, comment⟩
    · exact ⟨_, .inr (.inl ⟨last, member, rfl⟩), closes⟩
    · exact ⟨_, .inr (.inr ⟨last, member, rfl⟩), opens⟩
  · rintro ⟨mark, rfl | ⟨last, member, rfl⟩ | ⟨last, member, rfl⟩, starts⟩
    · exact .inl (.inl starts)
    · exact .inl (.inr ⟨last, member, starts⟩)
    · exact .inr ⟨last, member, starts⟩

theorem startsPiece_of_prefix {text whole : List Char}
    (starts : startsPiece text = true) (leads : text <+: whole) :
    startsPiece whole = true := by
  rw [startsPiece_iff] at starts ⊢
  obtain ⟨mark, member, inside⟩ := starts
  exact ⟨mark, member, inside.trans leads⟩

/-- A text ends in front of another one: its last character ends a tag or an
interpolation, or the first character of the other one may start something
new. -/
def EndsInFrontOf (text later : List Char) : Prop :=
  (∃ last ∈ text.getLast?, last = '>' ∨ last = '}') ∨
    ∀ next ∈ later.head?, next = '<' ∨ next = '{'

theorem EndsInFrontOf.tail {character : Char} {text later : List Char}
    (ends : EndsInFrontOf (character :: text) later) (inhabited : text ≠ []) :
    EndsInFrontOf text later := by
  cases text with
  | nil => exact absurd rfl inhabited
  | cons second others => simpa [EndsInFrontOf] using ends

theorem EndsInFrontOf.congr {text later other : List Char}
    (ends : EndsInFrontOf text later) (same : other.head? = later.head?) :
    EndsInFrontOf text other := by
  rw [EndsInFrontOf, same]
  exact ends

/-- A mark goes on behind no closing bracket or brace, and with no opening
one. -/
theorem inside_of_mem_pieceMarks {mark : List Char}
    (member : mark ∈ pieceMarks) :
    (∀ character ∈ mark.dropLast, character ≠ '>' ∧ character ≠ '}') ∧
      ∀ character ∈ mark.tail, character ≠ '<' ∧ character ≠ '{' := by
  have all : pieceMarks.all (fun mark =>
      mark.dropLast.all (fun character => character ≠ '>' && character ≠ '}') &&
        mark.tail.all fun character => character ≠ '<' && character ≠ '{') =
          true := by decide +kernel
  simpa only [Bool.and_eq_true, List.all_eq_true, decide_eq_true_eq]
    using List.all_eq_true.mp all mark member

/-- No mark runs from one text into another one behind its end. -/
theorem startsPiece_append {text later : List Char} (inhabited : text ≠ [])
    (ends : EndsInFrontOf text later) :
    startsPiece (text ++ later) = startsPiece text := by
  rw [Bool.eq_iff_iff, startsPiece_iff, startsPiece_iff]
  constructor
  · rintro ⟨mark, member, starts⟩
    refine ⟨mark, member, ?_⟩
    rcases List.prefix_or_prefix_of_prefix starts
        (List.prefix_append text later) with inside | ⟨tail, rfl⟩
    · exact inside
    · cases tail with
      | nil => simp
      | cons next others =>
          have shape := inside_of_mem_pieceMarks member
          rcases ends with ⟨last, final, bracket⟩ | opens
          · have inside : last ∈ (text ++ next :: others).dropLast := by
              rw [List.dropLast_append_cons]
              exact List.mem_append_left _ (List.mem_of_getLast? final)
            exact absurd bracket (by simpa using shape.1 last inside)
          · have inside : next ∈ (text ++ next :: others).tail := by
              rw [List.tail_append_of_ne_nil inhabited]
              simp
            have first : next ∈ later.head? := by
              obtain ⟨rest, whole⟩ :=
                (List.prefix_append_right_inj text).mp starts
              simp [← whole]
            exact absurd (opens next first) (by simpa using shape.2 next inside)
  · rintro ⟨mark, member, starts⟩
    exact ⟨mark, member, starts.trans (List.prefix_append text later)⟩

/-! ## Single pieces -/

/-- The first occurrence of a mark in a text is at its end. -/
def EndsAtFirst (mark text : List Char) : Prop :=
  ∃ before close, Cursor.find? mark 0 text = some (before, close) ∧
    close.rest = mark

/-- A text is an opening tag and nothing else. -/
def IsOpenTag (tag : OpenTag) (text : List Char) : Prop :=
  ∃ behind, readOpenTag (Cursor.ofText text) = .ok (some (tag, behind)) ∧
    behind.rest = []

/-- How a piece of more than one character is spelled. -/
inductive BodyPiece.Spells : BodyPiece → List Char → Prop where
  | comment {text : List Char} (starts : commentOpening <+: text)
      (ends : EndsAtFirst commentClosing text) : Spells .plain text
  | childless {text : List Char} {tag : OpenTag}
      (starts : startsTag "<template".toList text = true)
      (whole : IsOpenTag tag text) (closed : tag.selfClosing = true) :
      Spells .plain text
  | opening {text : List Char} {tag : OpenTag}
      (starts : startsTag "<template".toList text = true)
      (whole : IsOpenTag tag text) (left : tag.selfClosing = false) :
      Spells .opens text
  | closing {text : List Char}
      (starts : startsTag "</template".toList text = true)
      (ends : EndsAtFirst ['>'] text) : Spells .closes text

/-- A mark that is found ends what stands up to it. -/
theorem endsAtFirst_of_find? {mark text before : List Char} {offset : Nat}
    {close : Cursor} (inhabited : mark ≠ [])
    (found : Cursor.find? mark offset text = some (before, close)) :
    EndsAtFirst mark (before ++ mark) := by
  obtain ⟨after, here⟩ := Cursor.rest_of_find? found
  have again := Cursor.find?_append inhabited found here [] 0
  rw [List.append_nil] at again
  exact ⟨before, _, again, rfl⟩

/-- A text that ends at its first mark is passed over up to its end, whatever
stands behind it. -/
theorem EndsAtFirst.find?_append {mark text : List Char}
    (ends : EndsAtFirst mark text) (inhabited : mark ≠ []) (later : List Char)
    (offset : Nat) :
    ∃ before close,
      Cursor.find? mark offset (text ++ later) = some (before, close) ∧
        close.skip mark.length =
          { rest := later, offset := offset + Text.byteLength text } := by
  obtain ⟨before, close, found, last⟩ := ends
  have whole : text = before ++ mark := by
    rw [← last]
    exact (Cursor.reaches_find? found).rest
  obtain ⟨again, refound, skipped⟩ := find?_again inhabited found later offset
  rw [← List.append_assoc, ← whole] at refound
  rw [← whole] at skipped
  exact ⟨before, again, refound, skipped⟩

/-- A closing bracket is looked for behind the opening one. -/
theorem find?_closing_cons (rest : List Char) (offset : Nat) :
    Cursor.find? ['>'] offset ('<' :: rest) =
      (Cursor.find? ['>'] (offset + '<'.utf8Size) rest).map
        fun found => ('<' :: found.1, found.2) := by
  rw [Cursor.find?, if_neg (by simp)]
  cases Cursor.find? ['>'] (offset + '<'.utf8Size) rest with
  | none => rfl
  | some found => rfl

theorem eq_cons_of_startsTag {name text : List Char}
    (starts : startsTag ('<' :: name) text = true) :
    ∃ rest, text = '<' :: rest := by
  cases text with
  | nil => simp [startsTag] at starts
  | cons character rest => exact ⟨rest, by rw [eq_of_startsTag starts]⟩

/-- What is read as an opening tag is one and nothing else. -/
theorem isOpenTag_of_readOpenTag {rest : List Char} {offset : Nat}
    {tag : OpenTag} {behind : Cursor}
    (read : readOpenTag { rest := '<' :: rest, offset } =
      .ok (some (tag, behind))) :
    ∃ text, Cursor.Reaches { rest := '<' :: rest, offset } text behind ∧
      text.getLast? = some '>' ∧ IsOpenTag tag text := by
  obtain ⟨inside, bracket, _, _, _, reaches, again⟩ := readOpenTag_local read
  refine ⟨_, reaches, by simp [List.getLast?_cons, bracket], ?_⟩
  have alone := again .none [] 0
  simp only [Addition.text_none, List.nil_append, List.append_nil] at alone
  exact ⟨_, alone, rfl⟩

theorem IsOpenTag.readOpenTag_append {tag : OpenTag} {rest : List Char}
    (whole : IsOpenTag tag ('<' :: rest)) (later : List Char) (offset : Nat) :
    readOpenTag { rest := '<' :: (rest ++ later), offset } =
      .ok (some (tag, {
        rest := later
        offset := offset + Text.byteLength ('<' :: rest) })) := by
  obtain ⟨behind, read, last⟩ := whole
  obtain ⟨inside, _, _, _, _, reaches, again⟩ := readOpenTag_local read
  have same : rest = tag.name.toList ++ inside := by
    have whole := reaches.rest
    rw [last, List.append_nil] at whole
    exact List.tail_eq_of_cons_eq whole
  have there := again .none later offset
  simp only [Addition.text_none, List.nil_append] at there
  rw [same, List.append_assoc]
  exact there

/-! ## Reading a piece -/

/-- Whether a text starts with a tag is decided by any leading part that
reaches a bracket. -/
theorem startsTag_append {opening text : List Char} (bracket : '>' ∈ text)
    (absent : '>' ∉ opening) (later : List Char) :
    startsTag opening (text ++ later) = startsTag opening text := by
  have same := Text.isPrefixOf_append_of_mem bracket absent later
  cases leads : opening.isPrefixOf text with
  | false => simp [startsTag, same, leads]
  | true =>
      obtain ⟨tail, rfl⟩ := List.isPrefixOf_iff_prefix.mp leads
      cases tail with
      | nil => exact absurd (by simpa using bracket) absent
      | cons next others =>
          rw [startsTag, same, startsTag, List.append_assoc, List.drop_left,
            List.drop_left]
          rfl

section Pieces

variable {character : Char} {rest : List Char} {offset : Nat}
  {piece : BodyPiece} {behind : Cursor}

theorem comment_of_behindComment?
    (starts : commentOpening.isPrefixOf (character :: rest) = true)
    (found : behindComment? { rest := character :: rest, offset } =
      some behind) :
    ∃ text, Cursor.Reaches { rest := character :: rest, offset } text behind ∧
      BodyPiece.Spells .plain text := by
  unfold behindComment? at found
  split at found
  · next before close equality =>
      obtain rfl := by simpa using found
      have passed := reaches_behind equality
      have bracket : '>' ∈ before ++ commentClosing := by
        simp [commentClosing]
      have whole : character :: rest = _ := passed.rest
      rw [whole, Text.isPrefixOf_append_of_mem bracket (by decide),
        List.isPrefixOf_iff_prefix] at starts
      exact ⟨_, passed, .comment starts
        (endsAtFirst_of_find? (by simp [commentClosing]) equality)⟩
  · simp at found

theorem closing_of_find? {before : List Char} {bracket : Cursor}
    (starts : startsTag "</template".toList (character :: rest) = true)
    (found : Cursor.find? ['>'] (offset + character.utf8Size) rest =
      some (before, bracket)) :
    ∃ text, Cursor.Reaches { rest := character :: rest, offset } text
        (bracket.skip 1) ∧
      BodyPiece.Spells .closes text := by
  obtain rfl := eq_of_startsTag starts
  have whole : Cursor.find? ['>'] offset ('<' :: rest) =
      some ('<' :: before, bracket) := by
    rw [find?_closing_cons, found]
    rfl
  have passed := reaches_behind whole
  have member : '>' ∈ '<' :: before ++ ['>'] := by simp
  have same : '<' :: rest = _ := passed.rest
  rw [same, startsTag_append member (by decide)] at starts
  exact ⟨_, passed, .closing starts (endsAtFirst_of_find? (by simp) whole)⟩

theorem tag_of_readOpenTag {tag : OpenTag}
    (starts : startsTag "<template".toList (character :: rest) = true)
    (read : readOpenTag { rest := character :: rest, offset } =
      .ok (some (tag, behind))) :
    ∃ text, Cursor.Reaches { rest := character :: rest, offset } text behind ∧
      BodyPiece.Spells (if tag.selfClosing then .plain else .opens) text := by
  obtain rfl := eq_of_startsTag starts
  obtain ⟨text, passed, ends, whole⟩ := isOpenTag_of_readOpenTag read
  have bracket := List.mem_of_getLast? ends
  have same : '<' :: rest = _ := passed.rest
  rw [same, startsTag_append bracket (by decide)] at starts
  refine ⟨text, passed, ?_⟩
  cases closed : tag.selfClosing with
  | true => exact .childless starts whole closed
  | false => exact .opening starts whole closed

/-- Where a piece starts, what is passed over is spelled as that piece. -/
theorem spells_of_bodyPiece?
    (starts : startsPiece (character :: rest) = true)
    (found : bodyPiece? character rest offset = some (piece, behind)) :
    ∃ text, Cursor.Reaches { rest := character :: rest, offset } text behind ∧
      piece.Spells text := by
  unfold bodyPiece? at found
  split at found
  · next comment =>
      split at found
      · next later equality =>
          simp only [Option.some.injEq, Prod.mk.injEq] at found
          obtain ⟨rfl, rfl⟩ := found
          exact comment_of_behindComment? comment equality
      · simp at found
  · next uncommented =>
      split at found
      · next closes =>
          split at found
          · next before bracket equality =>
              simp only [Option.some.injEq, Prod.mk.injEq] at found
              obtain ⟨rfl, rfl⟩ := found
              exact closing_of_find? closes equality
          · simp at found
      · next unclosed =>
          split at found
          · next opens =>
              split at found
              · next tag later equality =>
                  simp only [Option.some.injEq, Prod.mk.injEq] at found
                  obtain ⟨rfl, rfl⟩ := found
                  exact tag_of_readOpenTag opens equality
              · simp at found
          · next unopened =>
              simp only [startsPiece, Bool.or_eq_true] at starts
              rcases starts with (comment | closes) | opens
              · exact absurd comment uncommented
              · exact absurd closes unclosed
              · exact absurd opens unopened

/-- A character at which no piece starts is passed over alone. -/
theorem bodyPiece?_character
    (plain : startsPiece (character :: rest) = false) (offset : Nat) :
    bodyPiece? character rest offset =
      some (.plain, { rest, offset := offset + character.utf8Size }) := by
  simp only [startsPiece, Bool.or_eq_false_iff] at plain
  obtain ⟨⟨comment, closes⟩, opens⟩ := plain
  rw [bodyPiece?, comment, closes, opens]
  rfl

end Pieces

theorem prefix_of_startsTag {opening text : List Char}
    (starts : startsTag opening text = true) : opening <+: text := by
  simp only [startsTag, Bool.and_eq_true, List.isPrefixOf_iff_prefix] at starts
  exact starts.1

/-- An end tag of a template element opens no comment. -/
theorem distinct_of_closing {text : List Char}
    (closes : startsTag "</template".toList text = true) :
    commentOpening.isPrefixOf text = false := by
  obtain ⟨tail, rfl⟩ := prefix_of_startsTag closes
  rfl

/-- The tag of a template element opens no comment and is no end tag. -/
theorem distinct_of_opening {text : List Char}
    (opens : startsTag "<template".toList text = true) :
    commentOpening.isPrefixOf text = false ∧
      startsTag "</template".toList text = false := by
  obtain ⟨tail, rfl⟩ := prefix_of_startsTag opens
  exact ⟨rfl, rfl⟩

theorem BodyPiece.Spells.eq_cons {piece : BodyPiece} {text : List Char}
    (spells : piece.Spells text) : ∃ rest, text = '<' :: rest := by
  cases spells with
  | comment starts ends =>
      obtain ⟨tail, rfl⟩ := starts
      exact ⟨_, rfl⟩
  | childless starts whole closed => exact eq_cons_of_startsTag starts
  | opening starts whole left => exact eq_cons_of_startsTag starts
  | closing starts ends => exact eq_cons_of_startsTag starts

theorem startsTag_of_prefix {opening text whole : List Char}
    (starts : startsTag opening text = true) (leads : text <+: whole) :
    startsTag opening whole = true := by
  rw [startsTag_iff] at starts ⊢
  obtain ⟨last, member, inside⟩ := starts
  exact ⟨last, member, inside.trans leads⟩

/-- What is spelled as a piece is passed over as that piece, whatever stands
behind it. -/
theorem bodyPiece?_of_spells {piece : BodyPiece} {rest : List Char}
    (spells : piece.Spells ('<' :: rest)) (later : List Char) (offset : Nat) :
    bodyPiece? '<' (rest ++ later) offset = some (piece, {
      rest := later
      offset := offset + Text.byteLength ('<' :: rest) }) := by
  have leads : '<' :: rest <+: '<' :: (rest ++ later) :=
    List.prefix_append ('<' :: rest) later
  cases spells with
  | comment starts ends =>
      obtain ⟨before, close, found, behind⟩ :=
        ends.find?_append (by simp [commentClosing]) later offset
      have comment := List.isPrefixOf_iff_prefix.mpr (starts.trans leads)
      rw [List.cons_append] at found
      have passed : behindComment?
          { rest := '<' :: (rest ++ later), offset } = some (close.skip 3) := by
        simp only [behindComment?, found]
      rw [bodyPiece?, if_pos comment, passed, ← behind]
      rfl
  | closing starts ends =>
      obtain ⟨before, close, found, behind⟩ :=
        ends.find?_append (by simp) later offset
      have closes := startsTag_of_prefix starts leads
      have other := Bool.eq_false_iff.mp (distinct_of_closing closes)
      rw [List.cons_append, find?_closing_cons] at found
      obtain ⟨⟨inner, bracket⟩, equality, same⟩ := Option.map_eq_some_iff.mp found
      obtain rfl : bracket = close := (Prod.mk.inj same).2
      rw [bodyPiece?, if_neg other, if_pos closes, equality, ← behind]
      rfl
  | childless starts whole closed =>
      have opens := startsTag_of_prefix starts leads
      obtain ⟨comment, closes⟩ := distinct_of_opening opens
      rw [bodyPiece?, if_neg (Bool.eq_false_iff.mp comment),
        if_neg (Bool.eq_false_iff.mp closes), if_pos opens,
        whole.readOpenTag_append later offset]
      simp only [closed, if_true]
  | opening starts whole left =>
      have opens := startsTag_of_prefix starts leads
      obtain ⟨comment, closes⟩ := distinct_of_opening opens
      rw [bodyPiece?, if_neg (Bool.eq_false_iff.mp comment),
        if_neg (Bool.eq_false_iff.mp closes), if_pos opens,
        whole.readOpenTag_append later offset]
      simp only [left]
      rfl

/-! ## Balanced texts -/

/-- A text in which the tags of template elements close every element that is
opened in it and, besides, `depth` elements that are open in front of it.  Tags
in comments do not count; all other ones do. -/
inductive Balanced : Nat → List Char → Prop where
  | nil : Balanced 0 []
  | character {depth : Nat} {character : Char} {rest : List Char}
      (plain : startsPiece (character :: rest) = false)
      (later : Balanced depth rest) : Balanced depth (character :: rest)
  | plain {depth : Nat} {text rest : List Char}
      (piece : BodyPiece.Spells .plain text) (later : Balanced depth rest) :
      Balanced depth (text ++ rest)
  | opens {depth : Nat} {text rest : List Char}
      (piece : BodyPiece.Spells .opens text)
      (later : Balanced (depth + 1) rest) : Balanced depth (text ++ rest)
  | closes {depth : Nat} {text rest : List Char}
      (piece : BodyPiece.Spells .closes text) (later : Balanced depth rest) :
      Balanced (depth + 1) (text ++ rest)

/-- The text in front of the end of a template is balanced, and an end tag
stands there. -/
theorem balanced_of_templateEnd? {depth offset : Nat} {text : List Char}
    {close after : Cursor}
    (found : templateEnd? depth offset text = some (close, after)) :
    ∃ body ending, Cursor.Reaches { rest := text, offset } body close ∧
      Cursor.Reaches close ending after ∧
      BodyPiece.Spells .closes ending ∧ Balanced depth body := by
  match text with
  | [] => simp [templateEnd?] at found
  | character :: rest =>
      cases starts : startsPiece (character :: rest) with
      | false =>
          rw [templateEnd?_cons, bodyPiece?_character starts] at found
          obtain ⟨body, ending, inside, passed, closes, balanced⟩ :=
            balanced_of_templateEnd? found
          refine ⟨character :: body, ending, inside.cons, passed, closes,
            .character ?_ balanced⟩
          -- The end tag starts with a bracket, which no mark goes on with.
          have opens : ∀ next ∈ close.rest.head?, next = '<' ∨ next = '{' := by
            obtain ⟨others, rfl⟩ := closes.eq_cons
            simp [passed.rest]
          have whole : rest = body ++ close.rest := inside.rest
          rw [whole, ← List.cons_append,
            startsPiece_append (by simp) (.inr opens)] at starts
          exact starts
      | true =>
          cases read : bodyPiece? character rest offset with
          | none => simp [templateEnd?_cons, read] at found
          | some step =>
              obtain ⟨piece, behind⟩ := step
              have shorter := length_bodyPiece? read
              obtain ⟨front, begins, spells⟩ := spells_of_bodyPiece? starts read
              rw [templateEnd?_cons, read] at found
              cases piece with
              | plain =>
                  obtain ⟨body, ending, inside, passed, closes, balanced⟩ :=
                    balanced_of_templateEnd? found
                  exact ⟨front ++ body, ending, begins.trans inside, passed,
                    closes, .plain spells balanced⟩
              | opens =>
                  obtain ⟨body, ending, inside, passed, closes, balanced⟩ :=
                    balanced_of_templateEnd? found
                  exact ⟨front ++ body, ending, begins.trans inside, passed,
                    closes, .opens spells balanced⟩
              | closes =>
                  cases depth with
                  | zero =>
                      obtain ⟨rfl, rfl⟩ := by simpa using found
                      exact ⟨[], front, Cursor.Reaches.refl _, begins, spells,
                        .nil⟩
                  | succ depth =>
                      obtain ⟨body, ending, inside, passed, closes, balanced⟩ :=
                        balanced_of_templateEnd? found
                      exact ⟨front ++ body, ending, begins.trans inside, passed,
                        closes, .closes spells balanced⟩
termination_by text.length
decreasing_by
  all_goals
    simp only [List.length_cons] at *
    omega

/-- How the search for the end of a template goes on behind a text that is
spelled as a piece. -/
theorem templateEnd?_append {piece : BodyPiece} {text : List Char}
    (spells : piece.Spells text) (depth offset : Nat) (rest : List Char) :
    templateEnd? depth offset (text ++ rest) =
      match piece, depth with
      | .plain, depth => templateEnd? depth (offset + Text.byteLength text) rest
      | .opens, depth =>
          templateEnd? (depth + 1) (offset + Text.byteLength text) rest
      | .closes, 0 => some ({ rest := text ++ rest, offset },
          { rest, offset := offset + Text.byteLength text })
      | .closes, depth + 1 =>
          templateEnd? depth (offset + Text.byteLength text) rest := by
  obtain ⟨more, rfl⟩ := spells.eq_cons
  rw [List.cons_append, templateEnd?_cons, bodyPiece?_of_spells spells]
  cases piece with
  | plain => rfl
  | opens => rfl
  | closes =>
      cases depth with
      | zero => rfl
      | succ depth => rfl

/-- Behind a balanced text, an end tag is the end of the template. -/
theorem templateEnd?_of_balanced {depth : Nat} {body ending : List Char}
    (balanced : Balanced depth body) (closes : BodyPiece.Spells .closes ending)
    (later : List Char) (offset : Nat) :
    templateEnd? depth offset (body ++ (ending ++ later)) = some ({
        rest := ending ++ later
        offset := offset + Text.byteLength body }, {
        rest := later
        offset := offset + Text.byteLength (body ++ ending) }) := by
  induction balanced generalizing offset with
  | nil =>
      rw [List.nil_append, templateEnd?_append closes]
      rfl
  | @character depth character rest plain balanced induction =>
      have opens :
          ∀ next ∈ (ending ++ later).head?, next = '<' ∨ next = '{' := by
        obtain ⟨others, rfl⟩ := closes.eq_cons
        simp
      have still : startsPiece (character :: (rest ++ (ending ++ later))) =
          false := by
        rw [← List.cons_append, startsPiece_append (by simp) (.inr opens)]
        exact plain
      rw [List.cons_append, templateEnd?_cons, bodyPiece?_character still]
      simp only [induction, Text.byteLength, List.cons_append, Nat.add_assoc]
  | plain spells balanced induction =>
      rw [List.append_assoc, templateEnd?_append spells]
      simp only [induction, List.append_assoc, Text.byteLength_append,
        Nat.add_assoc]
  | opens spells balanced induction =>
      rw [List.append_assoc, templateEnd?_append spells]
      simp only [induction, List.append_assoc, Text.byteLength_append,
        Nat.add_assoc]
  | closes spells balanced induction =>
      rw [List.append_assoc, templateEnd?_append spells]
      simp only [induction, List.append_assoc, Text.byteLength_append,
        Nat.add_assoc]

/-! ## A file with nothing but a template -/

/-- A text between the tags of a template. -/
def wrapped (body : List Char) : List Char :=
  "<template>".toList ++ (body ++ "</template>".toList)

/-- Between the tags of a template, a text is split off as its body. -/
def SplitsWhole (body : List Char) : Prop :=
  ∃ blocks block, splitBlocks (wrapped body) = .ok blocks ∧
    blocks.template = some block ∧
    block.start = Text.byteLength "<template>".toList ∧ block.body = body

/-- The template that starts a file. -/
def leadingBlock (body : List Char) : Block where
  kind := "template"
  attributes := []
  start := 10
  body

theorem readOpenTag_template (text : List Char) :
    readOpenTag { rest := '<' :: ("template>".toList ++ text), offset := 0 } =
      .ok (some ({ name := "template", attributes := [], selfClosing := false },
        { rest := text, offset := 10 })) := by
  have whole : IsOpenTag
      { name := "template", attributes := [], selfClosing := false }
      ('<' :: "template>".toList) := ⟨{ rest := [], offset := 10 }, rfl, rfl⟩
  exact whole.readOpenTag_append text 0

theorem blocksFrom_template (text : List Char) :
    blocksFrom false 0 ("<template>".toList ++ text) =
      match templateEnd? 0 10 text with
      | none => .error (.missingEndTag "template")
      | some (close, after) =>
          (blocksFrom true after.offset after.rest).map fun later =>
            leadingBlock (Cursor.upTo { rest := text, offset := 10 } close) ::
              later := by
  have shape : "<template>".toList ++ text =
      '<' :: ("template>".toList ++ text) := rfl
  rw [shape, blocksFrom_bracket, if_neg (by simp [commentOpening]),
    readOpenTag_template]
  cases found : templateEnd? 0 10 text with
  | none => simp [readBody, found]
  | some ends => simp [readBody, found, leadingBlock, Block.isTemplate]

theorem splitBlocks_wrapped {body : List Char} (balanced : Balanced 0 body) :
    splitBlocks (wrapped body) = .ok (Blocks.ofList [leadingBlock body]) := by
  have closes : BodyPiece.Spells .closes "</template>".toList :=
    .closing (by decide) ⟨_, _, rfl, rfl⟩
  have found := templateEnd?_of_balanced balanced closes [] 10
  rw [List.append_nil] at found
  unfold splitBlocks wrapped
  rw [blocksFrom_template, found]
  simp [blocksFrom, Except.map, Cursor.upTo]

/-- A text is split off as a whole just when it is balanced. -/
theorem splitsWhole_iff (body : List Char) :
    SplitsWhole body ↔ Balanced 0 body := by
  constructor
  · rintro ⟨blocks, block, split, template, -, whole⟩
    unfold splitBlocks wrapped at split
    rw [blocksFrom_template] at split
    cases found : templateEnd? 0 10 (body ++ "</template>".toList) with
    | none => simp only [found, reduceCtorEq] at split
    | some ends =>
        obtain ⟨close, after⟩ := ends
        obtain ⟨front, ending, inside, _, _, balanced⟩ :=
          balanced_of_templateEnd? found
        rw [found] at split
        simp only [inside.upTo_eq] at split
        split at split
        · next list listed =>
            obtain ⟨later, -, rfl⟩ := exists_ok_of_map listed
            obtain rfl := by simpa using split
            obtain rfl : leadingBlock front = block := by
              simpa [Blocks.ofList, leadingBlock, Block.isTemplate]
                using template
            obtain rfl : front = body := whole
            exact balanced
        · simp at split
  · intro balanced
    exact ⟨Blocks.ofList [leadingBlock body], leadingBlock body,
      splitBlocks_wrapped balanced, rfl, rfl, rfl⟩

end Template

end SourceMark
