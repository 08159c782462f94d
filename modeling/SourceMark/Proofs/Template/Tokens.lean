import SourceMark.Template.Token
import SourceMark.Proofs.Template.Tags

/-!
# Tokens read in other surroundings

Where a token ends is decided by its own characters and by the first one behind
it.  A token that is not a fault is therefore read again in front of any text
that starts alike, and a tag is read again with additions behind its name.
-/

namespace SourceMark

namespace Template

namespace Token

/-- The tag that a token opens. -/
def tag? : Token → Option OpenTag
  | opening tag => some tag
  | raw tag _ => some tag
  | _ => none

/-- A token with an addition behind the name of its tag. -/
def adding (addition : Addition) : Token → Token
  | opening tag => opening (tag.adding addition)
  | raw tag body => raw (tag.adding addition) body
  | other => other

/-- A token is made of its first character, a front and a back, whatever
follows as long as it starts with `next`.  In a tag the front is the name, and
additions may stand behind it. -/
structure ReadsAs (token : Token) (first : Char) (front back : List Char)
    (next : Option Char) : Prop where
  named : ∀ tag ∈ token.tag?, first = '<' ∧ front = tag.name.toList
  parsed : ∀ tag ∈ token.tag?, ∀ given ∈ tag.attributes,
    given.isAdded = false
  again : ∀ addition : Addition, (token.tag? = none → addition = .none) →
    ∀ later start, later.head? = next →
      step first (front ++ (addition.text ++ (back ++ later))) start =
        (token.adding addition, {
          rest := later
          offset := start + Text.byteLength
            (first :: (front ++ (addition.text ++ back))) })

/-- A token that opens no tag has no place for additions. -/
theorem ReadsAs.of_untagged {token : Token} {first : Char}
    {front : List Char} {next : Option Char} (untagged : token.tag? = none)
    (again : ∀ later start, later.head? = next →
      step first (front ++ later) start = (token, {
        rest := later
        offset := start + Text.byteLength (first :: front) })) :
    ReadsAs token first front [] next where
  named := by simp [untagged]
  parsed := by simp [untagged]
  again := by
    intro addition unchanged later start same
    obtain rfl := unchanged untagged
    have plain : token.adding .none = token := by
      cases token with
      | opening tag => simp [tag?] at untagged
      | raw tag body => simp [tag?] at untagged
      | _ => rfl
    simpa [plain] using again later start same

end Token

/-! ## Which step is taken -/

/-- Whether something else than a text starts with a character and the one
behind it. -/
def opensMarkup (first : Char) (next : Option Char) : Bool :=
  (first = '{' && next = some '{') ||
    (first = '<' && next.any fun character =>
      character = '!' || character = '/' || Text.isAsciiLetter character)

theorem step_eq_textStep {first : Char} {rest : List Char}
    (plain : opensMarkup first rest.head? = false) (offset : Nat) :
    step first rest offset = textStep first rest offset := by
  cases rest with
  | nil =>
      by_cases bracket : first = '<'
      · simp [step, bracket, bracketStep, readOpenTag]
      · simp [step, bracket]
  | cons next rest =>
      simp only [opensMarkup, List.head?_cons, Option.some.injEq,
        Option.any_some, Bool.or_eq_false_iff, Bool.and_eq_false_iff,
        decide_eq_false_iff_not] at plain
      obtain ⟨braces, brackets⟩ := plain
      by_cases bracket : first = '<'
      · subst bracket
        have others : (next ≠ '!' ∧ next ≠ '/') ∧
            Text.isAsciiLetter next = false := by simpa using brackets
        simp [step, bracketStep, readOpenTag, Ne.symm others.1.1,
          Ne.symm others.1.2, others.2]
      · have noBraces : ¬ ('{' = first ∧ '{' = next) := by
          rintro ⟨rfl, rfl⟩
          simp at braces
        simp [step, Ne.symm bracket, bracket, noBraces]

theorem step_interpolation (more : List Char) (offset : Nat) :
    step '{' ('{' :: more) offset =
      interpolationStep { rest := '{' :: '{' :: more, offset } := by
  simp [step]

theorem step_comment (more : List Char) (offset : Nat) :
    step '<' ('!' :: '-' :: '-' :: more) offset =
      commentStep { rest := '<' :: '!' :: '-' :: '-' :: more, offset } := by
  simp [step]

theorem step_declaration {more : List Char}
    (other : ['-', '-'].isPrefixOf more = false) (offset : Nat) :
    step '<' ('!' :: more) offset =
      declarationStep { rest := '<' :: '!' :: more, offset } := by
  simp [step, other]

theorem step_endTag (more : List Char) (offset : Nat) :
    step '<' ('/' :: more) offset =
      endTagStep { rest := '<' :: '/' :: more, offset } := by
  simp [step]

theorem step_bracket {letter : Char} (isLetter : Text.isAsciiLetter letter = true)
    (more : List Char) (offset : Nat) :
    step '<' (letter :: more) offset = bracketStep '<' (letter :: more) offset := by
  have declares : letter ≠ '!' := by
    rintro rfl
    exact absurd isLetter (by decide)
  have closes : letter ≠ '/' := by
    rintro rfl
    exact absurd isLetter (by decide)
  simp [step, Ne.symm declares, Ne.symm closes]

/-! ## The tokens one by one -/

/-- A step to a fault gives no other token. -/
theorem faultStep_ne {token : Token} (sound : ∀ fault, token ≠ .fault fault)
    {fault : Fault} {cursor behind : Cursor} :
    faultStep fault cursor ≠ (token, behind) := by
  intro taken
  simp only [faultStep, Prod.mk.injEq] at taken
  exact sound _ taken.1.symm

/-- The cursor behind a mark that has been found. -/
theorem reaches_behind {needle text before : List Char} {offset : Nat}
    {close : Cursor}
    (found : Cursor.find? needle offset text = some (before, close)) :
    Cursor.Reaches { rest := text, offset } (before ++ needle)
      (close.skip needle.length) := by
  obtain ⟨after, here⟩ := Cursor.rest_of_find? found
  have skipped := Cursor.reaches_skip needle.length close
  rw [here, List.take_left] at skipped
  exact (Cursor.reaches_find? found).trans skipped

theorem find?_again {needle text before : List Char} {offset : Nat}
    {close : Cursor} (inhabited : needle ≠ [])
    (found : Cursor.find? needle offset text = some (before, close))
    (later : List Char) (start : Nat) :
    ∃ again, Cursor.find? needle start (before ++ (needle ++ later)) =
        some (before, again) ∧
      again.skip needle.length = {
        rest := later
        offset := start + Text.byteLength (before ++ needle) } := by
  obtain ⟨after, here⟩ := Cursor.rest_of_find? found
  refine ⟨_, Cursor.find?_append inhabited found here later start, ?_⟩
  rw [Cursor.skip_append, Text.byteLength_append, Nat.add_assoc]

/-- A mark that no character of an opening starts is found behind it. -/
theorem inside_of_found (opening : List Char)
    {text needle before : List Char} {offset : Nat} {close : Cursor}
    (inhabited : needle ≠ [])
    (absent : ∀ character ∈ opening, needle.head? ≠ some character)
    (found : Cursor.find? needle offset (opening ++ text) =
      some (before, close)) :
    ∃ inner after, before = opening ++ inner ∧
      text = inner ++ (needle ++ after) := by
  obtain ⟨after, here⟩ := Cursor.rest_of_find? found
  have whole : opening ++ text = before ++ (needle ++ after) := by
    rw [← here]
    exact (Cursor.reaches_find? found).rest
  rcases List.append_eq_append_iff.mp whole with
    ⟨inner, rfl, equality⟩ | ⟨early, equality, missed⟩
  · exact ⟨inner, after, rfl, equality⟩
  · cases early with
    | nil => exact ⟨[], after, by simpa using equality.symm, missed.symm⟩
    | cons character early =>
        -- The mark would have to start inside the opening.
        cases needle with
        | nil => exact absurd rfl inhabited
        | cons first others =>
            simp only [List.cons_append, List.cons.injEq] at missed
            exact absurd (by simp [missed.1])
              (absent character (by simp [equality]))

variable {first : Char} {rest more : List Char} {offset : Nat} {token : Token}
  {behind : Cursor}

theorem reads_text (plain : opensMarkup first rest.head? = false)
    (taken : textStep first rest offset = (token, behind)) :
    ∃ front back,
      Cursor.Reaches { rest := first :: rest, offset }
        (first :: (front ++ back)) behind ∧
      token.ReadsAs first front back behind.rest.head? := by
  have reaches := Cursor.reaches_takeWhile isPlain (offset + first.utf8Size)
    rest
  have run : ∀ character ∈ (Cursor.takeWhile isPlain
      (offset + first.utf8Size) rest).1, isPlain character = true :=
    fun _ member => Cursor.test_of_mem_takeWhile member
  have ends : ∀ character ∈ (Cursor.takeWhile isPlain
      (offset + first.utf8Size) rest).2.rest.head?,
      isPlain character = false := Cursor.head?_takeWhile
  simp only [textStep, Prod.mk.injEq] at taken
  obtain ⟨rfl, rfl⟩ := taken
  generalize Cursor.takeWhile isPlain (offset + first.utf8Size) rest =
    found at reaches run ends
  obtain ⟨front, close⟩ := found
  refine ⟨front, [], by simpa using reaches.cons, ?_⟩
  apply Token.ReadsAs.of_untagged rfl
  intro later start same
  have whole : rest = front ++ close.rest := reaches.rest
  have alike : (front ++ later).head? = rest.head? := by
    rw [whole]
    cases front with
    | nil => exact same
    | cons character front => rfl
  rw [← alike] at plain
  rw [← same] at ends
  have again := Cursor.takeWhile_append run ends (start + first.utf8Size)
  simp only [step_eq_textStep plain, textStep, again, Text.byteLength,
    Nat.add_assoc]

theorem reads_interpolation
    (taken : interpolationStep { rest := '{' :: '{' :: more, offset } =
      (token, behind)) (sound : ∀ fault, token ≠ .fault fault) :
    ∃ front back,
      Cursor.Reaches { rest := '{' :: '{' :: more, offset }
        ('{' :: (front ++ back)) behind ∧
      token.ReadsAs '{' front back behind.rest.head? := by
  unfold interpolationStep at taken
  split at taken
  · next before close found =>
      simp only [Prod.mk.injEq] at taken
      obtain ⟨rfl, rfl⟩ := taken
      have passed := reaches_behind found
      obtain ⟨inner, after, rfl, whole⟩ :=
        inside_of_found ['{', '{'] (by simp) (by simp) found
      refine ⟨'{' :: (inner ++ ['}', '}']), [], by simpa using passed, ?_⟩
      apply Token.ReadsAs.of_untagged rfl
      intro later start _
      obtain ⟨again, refound, skipped⟩ :=
        find?_again (by simp) found later start
      simp only [List.cons_append, List.nil_append] at refound
      simp only [List.cons_append, List.append_assoc, List.nil_append,
        step_interpolation, interpolationStep, refound]
      rw [show 2 = ['}', '}'].length from rfl, skipped]
      rfl
  · exact absurd taken (faultStep_ne sound)

theorem reads_comment
    (taken : commentStep { rest := '<' :: '!' :: '-' :: '-' :: more, offset } =
      (token, behind)) (sound : ∀ fault, token ≠ .fault fault) :
    ∃ front back,
      Cursor.Reaches { rest := '<' :: '!' :: '-' :: '-' :: more, offset }
        ('<' :: (front ++ back)) behind ∧
      token.ReadsAs '<' front back behind.rest.head? := by
  unfold commentStep at taken
  split at taken
  · next before close found =>
      split at taken
      · exact absurd taken (faultStep_ne sound)
      · next roomy =>
          simp only [Prod.mk.injEq] at taken
          obtain ⟨rfl, rfl⟩ := taken
          have passed := reaches_behind found
          obtain ⟨inner, rfl⟩ : ∃ inner,
              before = '<' :: '!' :: '-' :: '-' :: inner := by
            have whole := (Cursor.reaches_find? found).rest
            match before with
            | _ :: _ :: _ :: _ :: inner =>
                simp only [List.cons_append, List.cons.injEq] at whole
                obtain ⟨rfl, rfl, rfl, rfl, _⟩ := whole
                exact ⟨inner, rfl⟩
            | [] | [_] | [_, _] | [_, _, _] => simp at roomy
          refine ⟨'!' :: '-' :: '-' :: (inner ++ ['-', '-', '>']), [],
            by simpa using passed, ?_⟩
          apply Token.ReadsAs.of_untagged rfl
          intro later start _
          obtain ⟨again, refound, skipped⟩ :=
            find?_again (by simp) found later start
          simp only [List.cons_append, List.nil_append] at refound
          simp only [List.cons_append, List.append_assoc, List.nil_append,
            step_comment, commentStep, refound, roomy, if_false]
          rw [show 3 = ['-', '-', '>'].length from rfl, skipped]
          rfl
  · exact absurd taken (faultStep_ne sound)

theorem reads_declaration (other : ['-', '-'].isPrefixOf more = false)
    (taken : declarationStep { rest := '<' :: '!' :: more, offset } =
      (token, behind)) :
    ∃ front back,
      Cursor.Reaches { rest := '<' :: '!' :: more, offset }
        ('<' :: (front ++ back)) behind ∧
      token.ReadsAs '<' front back behind.rest.head? := by
  unfold declarationStep at taken
  split at taken
  · next before close found =>
      simp only [Prod.mk.injEq] at taken
      obtain ⟨rfl, rfl⟩ := taken
      have passed := reaches_behind found
      obtain ⟨inner, after, rfl, whole⟩ :=
        inside_of_found ['<', '!'] (by simp) (by simp) found
      refine ⟨'!' :: (inner ++ ['>']), [], by simpa using passed, ?_⟩
      apply Token.ReadsAs.of_untagged rfl
      intro later start _
      -- The bracket keeps the text behind it from completing a comment mark.
      have bracket : '>' ∈ inner ++ ['>'] := by simp
      have decided (text : List Char) :
          ['-', '-'].isPrefixOf (inner ++ ['>'] ++ text) =
            ['-', '-'].isPrefixOf (inner ++ ['>']) :=
        Text.isPrefixOf_append_of_mem bracket (by simp) text
      have still : ['-', '-'].isPrefixOf (inner ++ ['>'] ++ later) = false := by
        rw [whole, ← List.append_assoc, decided] at other
        rw [decided, other]
      obtain ⟨again, refound, skipped⟩ :=
        find?_again (by simp) found later start
      have declares := step_declaration still start
      simp only [List.cons_append, List.append_assoc, List.nil_append]
        at refound declares
      simp only [List.cons_append, List.append_assoc, List.nil_append, declares,
        declarationStep, refound]
      rw [show 1 = ['>'].length from rfl, skipped]
      rfl
  · next missed =>
      simp only [Prod.mk.injEq] at taken
      obtain ⟨rfl, rfl⟩ := taken
      refine ⟨'!' :: more, [], ?_, ?_⟩
      · simpa using Cursor.Reaches.toEnd { rest := '<' :: '!' :: more, offset }
      · apply Token.ReadsAs.of_untagged rfl
        intro later start same
        obtain rfl : later = [] := by simpa using same
        have nowhere := Cursor.find?_eq_none missed start
        simp only [List.append_nil, step_declaration other, declarationStep,
          nowhere]

theorem reads_endTag
    (taken : endTagStep { rest := '<' :: '/' :: more, offset } =
      (token, behind)) (sound : ∀ fault, token ≠ .fault fault) :
    ∃ front back,
      Cursor.Reaches { rest := '<' :: '/' :: more, offset }
        ('<' :: (front ++ back)) behind ∧
      token.ReadsAs '<' front back behind.rest.head? := by
  unfold endTagStep at taken
  simp only at taken
  split at taken
  · next before close found =>
      split at taken
      · exact absurd taken (faultStep_ne sound)
      · next named =>
          simp only [Prod.mk.injEq] at taken
          obtain ⟨rfl, rfl⟩ := taken
          have passed := reaches_behind found
          obtain ⟨inner, after, rfl, whole⟩ :=
            inside_of_found ['<', '/'] (by simp) (by simp) found
          refine ⟨'/' :: (inner ++ ['>']), [], by simpa using passed, ?_⟩
          apply Token.ReadsAs.of_untagged rfl
          intro later start _
          have bracket : isEndNamePart '>' = false := by decide
          have sameName : (inner ++ ('>' :: later)).takeWhile isEndNamePart =
              more.takeWhile isEndNamePart := by
            rw [whole]
            simp [List.takeWhile_append, bracket]
          obtain ⟨again, refound, skipped⟩ :=
            find?_again (by simp) found later start
          simp only [List.cons_append, List.nil_append] at refound
          simp only [List.drop_succ_cons, List.drop_zero] at named
          simp only [List.cons_append, step_endTag, endTagStep,
            List.append_assoc, List.nil_append, refound, List.drop_succ_cons,
            List.drop_zero, sameName, named]
          rw [show 1 = ['>'].length from rfl, skipped]
          rfl
  · exact absurd taken (faultStep_ne sound)

theorem openedStep_opening {tag : OpenTag}
    (childless : (tag.selfClosing || isVoid tag.name || !isRaw tag.name) =
      true) (behind : Cursor) :
    openedStep tag behind = (.opening tag, behind) := by
  simp only [openedStep, childless, if_true]

theorem openedStep_raw {tag : OpenTag} {offset : Nat}
    {text body : List Char} {close : Cursor}
    (isText : (tag.selfClosing || isVoid tag.name || !isRaw tag.name) = false)
    (found : findEndTag? tag.name.toList offset text = some (body, close)) :
    openedStep tag { rest := text, offset } =
      (.raw tag body, behindBracket close) := by
  simp only [openedStep, isText, found]
  rfl

/-- A tag is read again with additions, and so is the body of text that may
come along with it. -/
theorem reads_tag {tag : OpenTag} {opened : Cursor}
    (read : readOpenTag { rest := '<' :: rest, offset } =
      .ok (some (tag, opened)))
    (taken : openedStep tag opened = (token, behind))
    (sound : ∀ fault, token ≠ .fault fault) :
    ∃ front back,
      Cursor.Reaches { rest := '<' :: rest, offset }
        ('<' :: (front ++ back)) behind ∧
      token.ReadsAs '<' front back behind.rest.head? := by
  obtain ⟨inside, _, ⟨letter, head, isLetter⟩, named, parsed, reaches, again⟩ :=
    readOpenTag_local read
  obtain ⟨others, name⟩ : ∃ others, tag.name.toList = letter :: others := by
    cases name : tag.name.toList with
    | nil => simp [name] at head
    | cons first others =>
        obtain rfl : first = letter := by simpa [name] using head
        exact ⟨others, rfl⟩
  have opens (addition : Addition) (later : List Char) (start : Nat) :
      step '<' (tag.name.toList ++ (addition.text ++ (inside ++ later))) start =
        openedStep (tag.adding addition) {
          rest := later
          offset := start + Text.byteLength
            ('<' :: (tag.name.toList ++ (addition.text ++ inside))) } := by
    have bracket := step_bracket isLetter
      (others ++ (addition.text ++ (inside ++ later))) start
    rw [← List.cons_append, ← name] at bracket
    rw [bracket]
    simp only [bracketStep, again]
  unfold openedStep at taken
  split at taken
  · next childless =>
      obtain ⟨rfl, rfl⟩ := by simpa using taken
      refine ⟨tag.name.toList, inside, reaches, ?_, ?_, ?_⟩
      · simp [Token.tag?]
      · simpa [Token.tag?] using parsed
      · intro addition _ later start _
        have still : ((tag.adding addition).selfClosing ||
            isVoid (tag.adding addition).name ||
            !isRaw (tag.adding addition).name) = true := childless
        rw [opens, openedStep_opening still]
        rfl
  · next isText =>
      split at taken
      · next body close found =>
          simp only [Prod.mk.injEq] at taken
          obtain ⟨rfl, rfl⟩ := taken
          have bracketless : '>' ∉ tag.name.toList := by
            intro member
            exact absurd (named '>' member) (by decide)
          obtain ⟨ending, passed, refound⟩ :=
            findEndTag?_local bracketless found
          refine ⟨tag.name.toList, inside ++ (body ++ ending), ?_, ?_, ?_, ?_⟩
          · simpa using reaches.trans passed
          · simp [Token.tag?]
          · simpa [Token.tag?] using parsed
          · intro addition _ later start same
            have still : ((tag.adding addition).selfClosing ||
                isVoid (tag.adding addition).name ||
                !isRaw (tag.adding addition).name) = false :=
              Bool.eq_false_iff.mpr isText
            have shape : inside ++ (body ++ ending) ++ later =
                inside ++ (body ++ (ending ++ later)) := by simp
            obtain ⟨there, ends⟩ := refound later
              (start + Text.byteLength
                ('<' :: (tag.name.toList ++ (addition.text ++ inside)))) same
            rw [shape, opens, openedStep_raw still there, ends]
            simp [Token.adding, Text.byteLength, Nat.add_assoc]
      · exact absurd taken (faultStep_ne sound)

/-- Every token but a fault is read again where it stands in other
surroundings. -/
theorem reads_step (taken : step first rest offset = (token, behind))
    (sound : ∀ fault, token ≠ .fault fault) :
    ∃ front back,
      Cursor.Reaches { rest := first :: rest, offset }
        (first :: (front ++ back)) behind ∧
      token.ReadsAs first front back behind.rest.head? := by
  by_cases markup : opensMarkup first rest.head? = true
  · cases rest with
    | nil => simp [opensMarkup] at markup
    | cons next more =>
        simp only [opensMarkup, List.head?_cons, Option.some.injEq,
          Option.any_some, Bool.or_eq_true, Bool.and_eq_true,
          decide_eq_true_eq] at markup
        rcases markup with ⟨rfl, rfl⟩ | ⟨rfl, (rfl | rfl) | isLetter⟩
        · rw [step_interpolation] at taken
          exact reads_interpolation taken sound
        · by_cases comment : ['-', '-'].isPrefixOf more = true
          · obtain ⟨inner, rfl⟩ := List.isPrefixOf_iff_prefix.mp comment
            simp only [List.cons_append, List.nil_append, step_comment] at taken
            exact reads_comment taken sound
          · have other := Bool.eq_false_iff.mpr comment
            rw [step_declaration other] at taken
            exact reads_declaration other taken
        · rw [step_endTag] at taken
          exact reads_endTag taken sound
        · rw [step_bracket isLetter] at taken
          unfold bracketStep at taken
          simp only at taken
          split at taken
          · exact absurd taken (faultStep_ne sound)
          · next tag opened read => exact reads_tag read taken sound
          · next unread =>
              simp only [readOpenTag, isLetter, if_true] at unread
              split at unread
              · simp at unread
              · simp at unread
  · have plain := Bool.eq_false_iff.mpr markup
    rw [step_eq_textStep plain] at taken
    exact reads_text plain taken

end Template

end SourceMark
