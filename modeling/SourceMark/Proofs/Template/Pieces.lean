import SourceMark.Proofs.Template.Nesting

/-!
# Pieces of the raw text that are tokens

The search for the end of a template and the reader of its tokens pass over the
same text where a comment or the tag of a template element starts.  Every token
ends where no mark of such a piece can run on into the next one.
-/

namespace SourceMark

namespace Template

/-! ## Pieces that are tokens -/

/-- The name that the tags of template elements have in the raw text. -/
def templateName : List Char := "template".toList

/-- A token is what a piece of the raw text is taken for.  A slash may stand
behind the name of an end tag, which then is no name of an element. -/
inductive BodyPiece.Shows : BodyPiece → Token → Prop where
  | comment (value : List Char) : Shows .plain (.comment value)
  | childless {tag : OpenTag} (named : tag.name.toList = templateName)
      (closed : tag.selfClosing = true) : Shows .plain (.opening tag)
  | opening {tag : OpenTag} (named : tag.name.toList = templateName)
      (left : tag.selfClosing = false) : Shows .opens (.opening tag)
  | closing {name : List Char} (named : name = templateName ∨ '/' ∈ name) :
      Shows .closes (.closing name)

section Steps

variable {first : Char} {rest : List Char} {offset : Nat} {token : Token}
  {behind : Cursor}

theorem eq_of_opening
    (starts : startsTag "<template".toList (first :: rest) = true) :
    ∃ last ∈ nameEnds, ∃ later, first = '<' ∧
      rest = templateName ++ last :: later := by
  have spelled : "<template".toList = '<' :: templateName := rfl
  obtain ⟨last, member, later, whole⟩ := (startsTag_iff _ _).mp starts
  rw [spelled, List.cons_append, List.cons_append, List.append_assoc] at whole
  obtain ⟨here, behind⟩ := List.cons.inj whole
  exact ⟨last, member, later, here.symm, behind.symm⟩

theorem eq_of_closing
    (starts : startsTag "</template".toList (first :: rest) = true) :
    ∃ last ∈ nameEnds, ∃ later, first = '<' ∧
      rest = '/' :: (templateName ++ last :: later) := by
  have spelled : "</template".toList = '<' :: '/' :: templateName := rfl
  obtain ⟨last, member, later, whole⟩ := (startsTag_iff _ _).mp starts
  rw [spelled, List.cons_append, List.cons_append, List.append_assoc] at whole
  obtain ⟨here, behind⟩ := List.cons.inj whole
  exact ⟨last, member, later, here.symm, behind.symm⟩

theorem shows_of_comment
    (starts : commentOpening.isPrefixOf (first :: rest) = true)
    (taken : step first rest offset = (token, behind))
    (sound : ∀ fault, token ≠ .fault fault) :
    bodyPiece? first rest offset = some (.plain, behind) ∧
      BodyPiece.Shows .plain token := by
  obtain ⟨more, whole⟩ := List.isPrefixOf_iff_prefix.mp starts
  obtain ⟨rfl, rfl⟩ : '<' = first ∧ '!' :: '-' :: '-' :: more = rest := by
    simpa [commentOpening] using whole
  rw [step_comment] at taken
  unfold commentStep at taken
  split at taken
  · next before close found =>
      split at taken
      · exact absurd taken (faultStep_ne sound)
      · obtain ⟨rfl, rfl⟩ := by simpa using taken
        refine ⟨?_, .comment _⟩
        have passed : behindComment?
            { rest := '<' :: '!' :: '-' :: '-' :: more, offset } =
              some (close.skip 3) := by
          simp only [behindComment?, commentClosing, found]
        rw [bodyPiece?, if_pos starts, passed]
  · exact absurd taken (faultStep_ne sound)

/-- What stands behind the name in the end tag of a template element. -/
theorem takeWhile_isEndNamePart {last : Char} (member : last ∈ nameEnds)
    (later : List Char) :
    let name := (templateName ++ last :: later).takeWhile isEndNamePart
    name = templateName ∨ '/' ∈ name := by
  have whole : templateName.all isEndNamePart = true := by decide
  have known : nameEnds.all (fun last =>
      last = '/' || !isEndNamePart last) = true := by decide +kernel
  have ends := List.all_eq_true.mp known last member
  simp only [Bool.or_eq_true, decide_eq_true_eq, Bool.not_eq_true'] at ends
  intro name
  have inside :
      name = templateName ++ (last :: later).takeWhile isEndNamePart :=
    List.takeWhile_append_of_pos (List.all_eq_true.mp whole)
  rcases ends with rfl | ends
  · right
    rw [inside]
    have part : isEndNamePart '/' = true := by decide
    simp [part]
  · left
    rw [inside]
    simp [ends]

theorem shows_of_closing
    (starts : startsTag "</template".toList (first :: rest) = true)
    (taken : step first rest offset = (token, behind))
    (sound : ∀ fault, token ≠ .fault fault) :
    bodyPiece? first rest offset = some (.closes, behind) ∧
      BodyPiece.Shows .closes token := by
  have other := Bool.eq_false_iff.mp (distinct_of_closing starts)
  obtain ⟨last, member, later, rfl, rfl⟩ := eq_of_closing starts
  rw [step_endTag] at taken
  rw [bodyPiece?, if_neg other, if_pos starts]
  unfold endTagStep at taken
  simp only at taken
  split at taken
  · next before close found =>
      split at taken
      · exact absurd taken (faultStep_ne sound)
      · obtain ⟨rfl, rfl⟩ := by simpa using taken
        rw [find?_closing_cons] at found
        obtain ⟨⟨inner, bracket⟩, equality, same⟩ :=
          Option.map_eq_some_iff.mp found
        obtain rfl : bracket = close := (Prod.mk.inj same).2
        rw [equality]
        exact ⟨rfl, .closing (takeWhile_isEndNamePart member later)⟩
  · exact absurd taken (faultStep_ne sound)

theorem name_of_readOpenTag {last : Char} (member : last ∈ nameEnds)
    {later : List Char} {tag : OpenTag}
    (read : readOpenTag
      { rest := '<' :: (templateName ++ last :: later), offset } =
        .ok (some (tag, behind))) :
    tag.name.toList = templateName := by
  have named : templateName.all isTagNamePart = true := by decide +kernel
  have ends : ∀ character ∈ (last :: later).head?,
      isTagNamePart character = false := by
    simpa using (mem_nameEnds_iff last).mp member
  have run := Cursor.takeWhile_append (List.all_eq_true.mp named) ends
    (offset + 1)
  have spelled : templateName = 't' :: "emplate".toList := rfl
  have letter : Text.isAsciiLetter 't' = true := by decide
  rw [spelled, List.cons_append] at read run
  simp only [readOpenTag, letter, if_true, run] at read
  split at read
  · simp only [Except.ok.injEq, Option.some.injEq, Prod.mk.injEq] at read
    rw [← read.1, String.toList_ofList, spelled]
  · simp at read

theorem shows_of_opening
    (starts : startsTag "<template".toList (first :: rest) = true)
    (taken : step first rest offset = (token, behind))
    (sound : ∀ fault, token ≠ .fault fault) :
    ∃ piece, bodyPiece? first rest offset = some (piece, behind) ∧
      piece.Shows token := by
  obtain ⟨comment, closes⟩ := distinct_of_opening starts
  obtain ⟨last, member, later, rfl, rfl⟩ := eq_of_opening starts
  rw [bodyPiece?, if_neg (Bool.eq_false_iff.mp comment),
    if_neg (Bool.eq_false_iff.mp closes), if_pos starts]
  have letter : Text.isAsciiLetter 't' = true := by decide
  have bracket : step '<' (templateName ++ last :: later) offset =
      bracketStep '<' (templateName ++ last :: later) offset :=
    step_bracket letter _ offset
  rw [bracket] at taken
  unfold bracketStep at taken
  simp only at taken
  split at taken
  · exact absurd taken (faultStep_ne sound)
  · next tag opened read =>
      have named := name_of_readOpenTag member read
      have nested : isRaw tag.name = false := by
        rw [← String.ofList_toList (s := tag.name), named]
        decide +kernel
      rw [openedStep_opening (by simp [nested])] at taken
      obtain ⟨rfl, rfl⟩ := by simpa using taken
      rw [read]
      refine ⟨_, rfl, ?_⟩
      cases closed : tag.selfClosing with
      | true => exact .childless named closed
      | false => exact .opening named closed
  · next unread =>
      have spelled : templateName = 't' :: "emplate".toList := rfl
      rw [spelled, List.cons_append] at unread
      simp only [readOpenTag, letter, if_true] at unread
      split at unread
      · simp at unread
      · simp at unread

/-- Where a piece starts, the token there is what the piece is taken for, and
both end at the same place. -/
theorem shows_of_step (starts : startsPiece (first :: rest) = true)
    (taken : step first rest offset = (token, behind))
    (sound : ∀ fault, token ≠ .fault fault) :
    ∃ piece, bodyPiece? first rest offset = some (piece, behind) ∧
      piece.Shows token := by
  simp only [startsPiece, Bool.or_eq_true] at starts
  rcases starts with (comment | closes) | opens
  · exact ⟨_, shows_of_comment comment taken sound⟩
  · exact ⟨_, shows_of_closing closes taken sound⟩
  · exact shows_of_opening opens taken sound

end Steps

/-! ## Where tokens end -/

/-- Between two cursors stands a text that ends in front of what follows. -/
def Cleaves (first later : Cursor) : Prop :=
  ∃ text, Cursor.Reaches first text later ∧ EndsInFrontOf text later.rest

theorem cleaves_of_find? {mark text before : List Char} {offset : Nat}
    {close : Cursor}
    (ends : mark.getLast? = some '>' ∨ mark.getLast? = some '}')
    (found : Cursor.find? mark offset text = some (before, close)) :
    Cleaves { rest := text, offset } (close.skip mark.length) := by
  refine ⟨_, reaches_behind found, .inl ?_⟩
  rcases ends with ends | ends
  · exact ⟨'>', by simp [List.getLast?_append, ends], .inl rfl⟩
  · exact ⟨'}', by simp [List.getLast?_append, ends], .inr rfl⟩

theorem cleaves_toEnd (cursor : Cursor) :
    Cleaves cursor
      { rest := [], offset := cursor.offset + Text.byteLength cursor.rest } :=
  ⟨_, Cursor.Reaches.toEnd cursor, .inr (by simp)⟩

/-- More characters in front change nothing about the end of a text. -/
theorem Cleaves.of_reaches {first between later : Cursor} {front : List Char}
    (begins : Cursor.Reaches first front between)
    (cleaves : Cleaves between later) : Cleaves first later := by
  obtain ⟨text, passed, cut⟩ := cleaves
  refine ⟨front ++ text, begins.trans passed, ?_⟩
  rcases cut with ⟨last, final, bracket⟩ | opens
  · exact .inl ⟨last, by simp [List.getLast?_append, Option.mem_def.mp final],
      bracket⟩
  · exact .inr opens

section Endings

variable {first : Char} {rest : List Char} {offset : Nat} {token : Token}
  {cursor behind : Cursor}

theorem cleaves_textStep
    (taken : textStep first rest offset = (token, behind)) :
    token.tag? = none ∧ Cleaves { rest := first :: rest, offset } behind := by
  have passed := Cursor.reaches_takeWhile isPlain (offset + first.utf8Size) rest
  have ends : ∀ character ∈ (Cursor.takeWhile isPlain
      (offset + first.utf8Size) rest).2.rest.head?,
      isPlain character = false := Cursor.head?_takeWhile
  simp only [textStep, Prod.mk.injEq] at taken
  obtain ⟨rfl, rfl⟩ := taken
  refine ⟨rfl, _, passed.cons, .inr fun next member => ?_⟩
  have stops := ends next member
  simp only [isPlain] at stops
  grind

theorem cleaves_interpolationStep
    (taken : interpolationStep cursor = (token, behind))
    (sound : ∀ fault, token ≠ .fault fault) :
    token.tag? = none ∧ Cleaves cursor behind := by
  unfold interpolationStep at taken
  split at taken
  · next before close found =>
      obtain ⟨rfl, rfl⟩ := by simpa using taken
      exact ⟨rfl, cleaves_of_find? (.inr rfl) found⟩
  · exact absurd taken (faultStep_ne sound)

theorem cleaves_commentStep (taken : commentStep cursor = (token, behind))
    (sound : ∀ fault, token ≠ .fault fault) :
    token.tag? = none ∧ Cleaves cursor behind := by
  unfold commentStep at taken
  split at taken
  · next before close found =>
      split at taken
      · exact absurd taken (faultStep_ne sound)
      · obtain ⟨rfl, rfl⟩ := by simpa using taken
        exact ⟨rfl, cleaves_of_find? (.inl rfl) found⟩
  · exact absurd taken (faultStep_ne sound)

theorem cleaves_declarationStep
    (taken : declarationStep cursor = (token, behind)) :
    token.tag? = none ∧ Cleaves cursor behind := by
  unfold declarationStep at taken
  split at taken
  · next before close found =>
      obtain ⟨rfl, rfl⟩ := by simpa using taken
      exact ⟨rfl, cleaves_of_find? (.inl rfl) found⟩
  · obtain ⟨rfl, rfl⟩ := by simpa using taken
    exact ⟨rfl, cleaves_toEnd cursor⟩

theorem cleaves_endTagStep (taken : endTagStep cursor = (token, behind))
    (sound : ∀ fault, token ≠ .fault fault) :
    token.tag? = none ∧ Cleaves cursor behind := by
  unfold endTagStep at taken
  simp only at taken
  split at taken
  · next before close found =>
      split at taken
      · exact absurd taken (faultStep_ne sound)
      · obtain ⟨rfl, rfl⟩ := by simpa using taken
        exact ⟨rfl, cleaves_of_find? (.inl rfl) found⟩
  · exact absurd taken (faultStep_ne sound)

theorem cleaves_behindBracket (cursor : Cursor) :
    Cleaves cursor (behindBracket cursor) := by
  unfold behindBracket
  split
  · next before bracket found => exact cleaves_of_find? (.inl rfl) found
  · exact cleaves_toEnd cursor

/-- A token that opens no tag ends in front of the next one; a token that opens
one starts with an opening tag. -/
theorem cleaves_or_opened (taken : step first rest offset = (token, behind))
    (sound : ∀ fault, token ≠ .fault fault) :
    (token.tag? = none ∧ Cleaves { rest := first :: rest, offset } behind) ∨
      first = '<' ∧ ∃ tag opened,
        readOpenTag { rest := '<' :: rest, offset } = .ok (some (tag, opened)) ∧
        openedStep tag opened = (token, behind) := by
  simp only [step] at taken
  split at taken
  · exact .inl (cleaves_interpolationStep taken sound)
  · split at taken
    · exact .inl (cleaves_commentStep taken sound)
    · split at taken
      · exact .inl (cleaves_declarationStep taken)
      · split at taken
        · exact .inl (cleaves_endTagStep taken sound)
        · split at taken
          · next bracket =>
              subst bracket
              unfold bracketStep at taken
              simp only at taken
              split at taken
              · exact absurd taken (faultStep_ne sound)
              · next tag opened read =>
                  exact .inr ⟨rfl, tag, opened, read, taken⟩
              · exact .inl (cleaves_textStep taken)
          · exact .inl (cleaves_textStep taken)

/-- Every token ends in front of the next one. -/
theorem cleaves_step (taken : step first rest offset = (token, behind))
    (sound : ∀ fault, token ≠ .fault fault) :
    Cleaves { rest := first :: rest, offset } behind := by
  rcases cleaves_or_opened taken sound with
    ⟨-, cleaves⟩ | ⟨rfl, tag, opened, read, inside⟩
  · exact cleaves
  · obtain ⟨front, begins, ends, -⟩ := isOpenTag_of_readOpenTag read
    unfold openedStep at inside
    split at inside
    · obtain ⟨-, rfl⟩ := by simpa using inside
      exact ⟨front, begins, .inl ⟨'>', ends, .inl rfl⟩⟩
    · split at inside
      · next body close found =>
          obtain ⟨-, rfl⟩ := by simpa using inside
          exact (cleaves_behindBracket close).of_reaches
            (begins.trans (reaches_findEndTag? found))
      · exact absurd inside (faultStep_ne sound)

/-- The name of a tag has no slash. -/
theorem slash_notMem_of_step {tag : OpenTag}
    (taken : step first rest offset = (.opening tag, behind)) :
    '/' ∉ tag.name.toList := by
  rcases cleaves_or_opened taken (by simp) with
    ⟨untagged, -⟩ | ⟨rfl, given, opened, read, inside⟩
  · simp [Token.tag?] at untagged
  · obtain ⟨_, _, _, named, _⟩ := readOpenTag_local read
    unfold openedStep at inside
    split at inside
    · obtain ⟨rfl, -⟩ := by simpa using inside
      intro member
      exact absurd (named '/' member) (by decide)
    · split at inside
      · simp at inside
      · simp [faultStep] at inside

end Endings

end Template

end SourceMark
