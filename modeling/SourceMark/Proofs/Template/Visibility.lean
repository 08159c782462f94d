import SourceMark.Proofs.Evaluation
import SourceMark.Proofs.Template.Pieces
import SourceMark.Proofs.Template.Reparsing

/-!
# Which tags both readers see

A file is split in the raw text, while its template is read token by token.
The two agree on a template as long as the tags of template elements, and
nothing that looks like one of them, are tokens of their own: the elements that
are open in the tree are then the ones that the raw text still has to close.
-/

namespace SourceMark

namespace Template

/-! ## The open elements -/

/-- What a token does to the tags of the open elements, innermost first. -/
inductive Token.Turns : Token → List OpenTag → List OpenTag → Prop where
  | keeps {token : Token} {tags : List OpenTag}
      (childless : ∀ tag, token = .opening tag →
        (tag.selfClosing || isVoid tag.name) = true)
      (stays : ∀ name, token ≠ .closing name) : Turns token tags tags
  | opens {tag : OpenTag} {tags : List OpenTag}
      (left : (tag.selfClosing || isVoid tag.name) = false) :
      Turns (.opening tag) tags (tag :: tags)
  | closes {name : List Char} {tag : OpenTag} {tags : List OpenTag}
      (same : Text.sameIgnoringCase tag.name.toList name = true) :
      Turns (.closing name) (tag :: tags) tags

namespace Draft

/-- The tags of the open elements, innermost first. -/
def openTags (draft : Draft) : List OpenTag :=
  draft.opened.map OpenElement.tag

theorem openTags_mapNodes (change : List Node → List Node) (draft : Draft) :
    (draft.mapNodes change).openTags = draft.openTags := by
  obtain ⟨opened, roots⟩ := draft
  cases opened with
  | nil => rfl
  | cons inner outer => rfl

theorem openTags_addElement {tag : OpenTag} {place : Place}
    {children : List Node} {draft later : Draft}
    (added : draft.addElement tag place children = .ok later) :
    later.openTags = draft.openTags := by
  obtain ⟨opened, roots⟩ := draft
  unfold addElement at added
  cases opened with
  | nil =>
      simp only at added
      split at added
      · obtain rfl := by simpa using added
        rfl
      · simp at added
  | cons inner outer =>
      simp only at added
      split at added
      · obtain rfl := by simpa using added
        rfl
      · simp at added

/-- An end tag closes the innermost element, which has its name. -/
theorem openTags_close {name : List Char} {draft later : Draft}
    (closed : draft.close name = .ok later) :
    ∃ tag, draft.openTags = tag :: later.openTags ∧
      Text.sameIgnoringCase tag.name.toList name = true := by
  obtain ⟨opened, roots⟩ := draft
  unfold close at closed
  cases opened with
  | nil => simp at closed
  | cons inner outer =>
      simp only at closed
      split at closed
      · next same =>
          refine ⟨inner.tag, ?_, same⟩
          rw [openTags_addElement closed]
          rfl
      · split at closed
        · simp at closed
        · simp at closed

theorem turns_of_add {locate : Nat → Position} {draft later : Draft}
    {offset : Nat} {token : Token}
    (added : draft.add locate offset token = .ok later) :
    token.Turns draft.openTags later.openTags := by
  cases token with
  | text value =>
      obtain rfl := by simpa [add] using added
      rw [openTags_mapNodes]
      exact .keeps (by simp) (by simp)
  | interpolation value =>
      obtain rfl := by simpa [add] using added
      rw [openTags_mapNodes]
      exact .keeps (by simp) (by simp)
  | comment value =>
      obtain rfl := by simpa [add] using added
      rw [openTags_mapNodes]
      exact .keeps (by simp) (by simp)
  | opening tag =>
      simp only [add] at added
      split at added
      · next childless =>
          rw [openTags_addElement added]
          exact .keeps (by simpa using childless) (by simp)
      · next left =>
          obtain rfl := by simpa using added
          exact .opens (Bool.eq_false_iff.mpr left)
  | raw tag body =>
      rw [openTags_addElement added]
      exact .keeps (by simp) (by simp)
  | closing name =>
      obtain ⟨tag, tags, same⟩ := openTags_close added
      rw [tags]
      exact .closes same
  | fault fault => simp [add] at added

end Draft

/-! ## Visible tags -/

/-- Whether a piece starts somewhere in a text. -/
def holdsPiece : List Char → Bool
  | [] => false
  | character :: rest => startsPiece (character :: rest) || holdsPiece rest

/-- Whether a name is the one of template elements, in any case. -/
def isTemplateName (name : List Char) : Bool :=
  Text.sameIgnoringCase name templateName

/-- Whether a token opens or closes a template element. -/
def Token.turnsTemplate : Token → Bool
  | opening tag => !tag.selfClosing && isTemplateName tag.name.toList
  | closing name => isTemplateName name
  | _ => false

/-- Whether a token, given with its text, is seen alike in the raw text: it is
a piece there, or it holds none and neither opens nor closes a template
element. -/
def Token.isVisible (entry : Token × List Char) : Bool :=
  startsPiece entry.2 || (!holdsPiece entry.2 && !entry.1.turnsTemplate)

/-- The tokens of a text, each with its own text. -/
def tokenTexts (offset : Nat) : List Char → List (Token × List Char)
  | [] => []
  | first :: rest =>
      ((step first rest offset).1, Cursor.upTo { rest := first :: rest, offset }
          (step first rest offset).2) ::
        tokenTexts (step first rest offset).2.offset
          (step first rest offset).2.rest
termination_by text => text.length
decreasing_by
  have := length_step first rest offset
  simp only [List.length_cons]
  omega

/-- They are the tokens of the text. -/
theorem tokens_of_tokenTexts (offset : Nat) (text : List Char) :
    (tokens offset text).map Prod.snd = (tokenTexts offset text).map Prod.fst := by
  match text with
  | [] => rw [tokens, tokenTexts, List.map_nil, List.map_nil]
  | first :: rest =>
      have shorter := length_step first rest offset
      rw [tokens, tokenTexts, List.map_cons, List.map_cons,
        tokens_of_tokenTexts]
termination_by text.length

/-- Every token of a text is seen alike in the raw text. -/
def tagsAreVisible (text : List Char) : Bool :=
  (tokenTexts 0 text).all Token.isVisible

theorem tokenTexts_cons {first : Char} {rest : List Char} {offset : Nat}
    {token : Token} {behind : Cursor} {text : List Char}
    (taken : step first rest offset = (token, behind))
    (passed : Cursor.Reaches { rest := first :: rest, offset } text behind) :
    tokenTexts offset (first :: rest) =
      (token, text) :: tokenTexts behind.offset behind.rest := by
  rw [tokenTexts, taken, passed.upTo_eq]

/-! ## Counting open elements -/

/-- How many of the tags are those of template elements. -/
def countTemplates (tags : List OpenTag) : Nat :=
  tags.countP fun tag => isTemplateName tag.name.toList

theorem countTemplates_cons {tag : OpenTag}
    (named : isTemplateName tag.name.toList = true) (tags : List OpenTag) :
    countTemplates (tag :: tags) = countTemplates tags + 1 := by
  simp [countTemplates, named]

theorem isTemplateName_of_eq {name : List Char} (same : name = templateName) :
    isTemplateName name = true := by
  rw [same]
  decide

theorem isTemplateName_congr {first second : List Char}
    (same : Text.sameIgnoringCase first second = true) :
    isTemplateName first = isTemplateName second := by
  have equality : Text.lowerAscii first = Text.lowerAscii second := by
    simpa [Text.sameIgnoringCase] using same
  rw [isTemplateName, Text.sameIgnoringCase, equality]
  rfl

theorem isVoid_of_isTemplateName {tag : OpenTag}
    (named : isTemplateName tag.name.toList = true) :
    isVoid tag.name = false := by
  have equality :
      Text.lowerAscii tag.name.toList = Text.lowerAscii templateName := by
    simpa [isTemplateName, Text.sameIgnoringCase] using named
  rw [isVoid, Text.lowerString, equality]
  decide +kernel

section Counts

variable {token : Token} {before after : List OpenTag}

theorem countTemplates_of_turns (turns : token.Turns before after)
    (other : token.turnsTemplate = false) :
    countTemplates after = countTemplates before := by
  cases turns with
  | keeps childless stays => rfl
  | @opens tag tags left =>
      simp only [Bool.or_eq_false_iff] at left
      have unlike : isTemplateName tag.name.toList = false := by
        simpa [Token.turnsTemplate, left.1] using other
      simp [countTemplates, unlike]
  | @closes name tag tags same =>
      have unlike : isTemplateName tag.name.toList = false := by
        rw [isTemplateName_congr same]
        exact other
      simp [countTemplates, unlike]

/-- A piece changes the number of template elements that the raw text still has
to close as its token changes the number of those that are open. -/
theorem balanced_of_shows {piece : BodyPiece} {text rest : List Char}
    (shown : piece.Shows token) (turns : token.Turns before after)
    (named : ∀ tag ∈ before, '/' ∉ tag.name.toList)
    (spells : piece.Spells text)
    (later : Balanced (countTemplates after) rest) :
    Balanced (countTemplates before) (text ++ rest) := by
  cases shown with
  | comment value =>
      cases turns with
      | keeps childless stays => exact .plain spells later
  | childless same closed =>
      cases turns with
      | keeps childless stays => exact .plain spells later
      | opens left => simp [closed] at left
  | @opening tag same left =>
      have template := isTemplateName_of_eq same
      cases turns with
      | keeps childless stays =>
          have none := childless tag rfl
          simp [left, isVoid_of_isTemplateName template] at none
      | opens _ =>
          rw [countTemplates_cons template] at later
          exact .opens spells later
  | @closing name same =>
      cases turns with
      | keeps childless stays => exact absurd rfl (stays name)
      | @closes _ tag tags alike =>
          rcases same with same | slash
          · have template : isTemplateName tag.name.toList = true := by
              rw [isTemplateName_congr alike]
              exact isTemplateName_of_eq same
            rw [countTemplates_cons template]
            exact .closes spells later
          · -- No element has a slash in its name.
            have turned :
                Text.sameIgnoringCase name tag.name.toList = true := by
              rw [Text.sameIgnoringCase, BEq.comm]
              exact alike
            have absent := notMem_of_sameIgnoringCase (by decide) turned
              (named tag (by simp))
            exact absurd slash absent

end Counts

/-! ## Whole templates -/

/-- A text without pieces is passed over character by character. -/
theorem balanced_append {depth : Nat} {text later : List Char}
    (plain : holdsPiece text = false) (ends : EndsInFrontOf text later)
    (balanced : Balanced depth later) : Balanced depth (text ++ later) := by
  induction text with
  | nil => exact balanced
  | cons character rest induction =>
      simp only [holdsPiece, Bool.or_eq_false_iff] at plain
      have here : startsPiece (character :: (rest ++ later)) = false := by
        rw [← List.cons_append, startsPiece_append (by simp) ends]
        exact plain.1
      refine .character here ?_
      cases rest with
      | nil => exact balanced
      | cons second others => exact induction plain.2 (ends.tail (by simp))

/-- What holds of the names of all open elements and of a tag that is opened
holds of those that are open then. -/
theorem named_of_turns {first : Char} {rest : List Char} {offset : Nat}
    {token : Token} {behind : Cursor} {before after : List OpenTag}
    (taken : step first rest offset = (token, behind))
    (turns : token.Turns before after)
    (named : ∀ tag ∈ before, '/' ∉ tag.name.toList) :
    ∀ tag ∈ after, '/' ∉ tag.name.toList := by
  cases turns with
  | keeps childless stays => exact named
  | opens left =>
      intro tag member
      rcases List.mem_cons.mp member with rfl | outer
      · exact slash_notMem_of_step taken
      · exact named tag outer
  | closes same =>
      intro tag outer
      exact named tag (List.mem_cons_of_mem _ outer)

/-- What one token adds: the text behind it is balanced for the elements that
are open then, so the text from it on is for those that are open now. -/
theorem balanced_of_add {locate : Nat → Position} {draft later : Draft}
    {first : Char} {rest text : List Char} {offset : Nat} {token : Token}
    {behind : Cursor} (taken : step first rest offset = (token, behind))
    (added : draft.add locate offset token = .ok later)
    (passed : Cursor.Reaches { rest := first :: rest, offset } text behind)
    (ends : EndsInFrontOf text behind.rest)
    (visible : Token.isVisible (token, text) = true)
    (named : ∀ tag ∈ draft.openTags, '/' ∉ tag.name.toList)
    (balanced : Balanced (countTemplates later.openTags) behind.rest) :
    Balanced (countTemplates draft.openTags) (first :: rest) := by
  have turns := Draft.turns_of_add added
  have sound : ∀ fault, token ≠ .fault fault := by
    rintro fault rfl
    simp [Draft.add] at added
  have whole : first :: rest = text ++ behind.rest := passed.rest
  cases starts : startsPiece text with
  | true =>
      have here : startsPiece (first :: rest) = true :=
        startsPiece_of_prefix starts ⟨behind.rest, whole.symm⟩
      obtain ⟨piece, read, shown⟩ := shows_of_step here taken sound
      obtain ⟨front, reached, spells⟩ := spells_of_bodyPiece? here read
      obtain rfl : front = text := reached.unique passed
      rw [whole]
      exact balanced_of_shows shown turns named spells balanced
  | false =>
      have plain : holdsPiece text = false ∧ token.turnsTemplate = false := by
        simpa [Token.isVisible, starts] using visible
      rw [countTemplates_of_turns turns plain.2] at balanced
      rw [whole]
      exact balanced_append plain.1 ends balanced

/-- The raw text from a token on closes as many template elements as are open
in front of the token. -/
theorem balanced_of_addAll {locate : Nat → Position} {draft last : Draft}
    {offset : Nat} {text : List Char}
    (added : draft.addAll locate (tokens offset text) = .ok last)
    (closed : last.opened = [])
    (visible : (tokenTexts offset text).all Token.isVisible = true)
    (named : ∀ tag ∈ draft.openTags, '/' ∉ tag.name.toList) :
    Balanced (countTemplates draft.openTags) text := by
  induction length : text.length using Nat.strongRecOn
    generalizing draft offset text with
  | _ length induction =>
  subst length
  cases text with
  | nil =>
      rw [tokens] at added
      obtain rfl : draft = last := by simpa [Draft.addAll] using added
      simp [Draft.openTags, closed, countTemplates, Balanced.nil]
  | cons first rest =>
      cases taken : step first rest offset with
      | mk token behind =>
          have shorter : behind.rest.length ≤ rest.length := by
            have bound := length_step first rest offset
            rwa [taken] at bound
          rw [tokens_cons taken, Draft.addAll] at added
          split at added
          · next between one =>
              have sound : ∀ fault, token ≠ .fault fault := by
                rintro fault rfl
                simp [Draft.add] at one
              obtain ⟨text, passed, ends⟩ := cleaves_step taken sound
              rw [tokenTexts_cons taken passed, List.all_cons,
                Bool.and_eq_true] at visible
              have still := named_of_turns taken (Draft.turns_of_add one) named
              have later := induction _ (Nat.lt_succ_of_le shorter) added
                visible.2 still rfl
              exact balanced_of_add taken one passed ends visible.1 named later
          · simp at added

/-- A text that the reader of templates accepts, all of it. -/
def IsAccepted (text : List Char) : Prop :=
  ∃ nodes, parseRange text 0 (Text.byteLength text) = .ok nodes

theorem balanced_of_accepted {text : List Char} (accepted : IsAccepted text)
    (visible : tagsAreVisible text = true) : Balanced 0 text := by
  obtain ⟨nodes, success⟩ := accepted
  rw [parseRange_whole] at success
  unfold parse at success
  split at success
  · next draft added =>
      have closed : draft.opened = [] := by
        unfold Draft.finish at success
        split at success
        · assumption
        · simp at success
      have none : ∀ tag ∈ Draft.empty.openTags, '/' ∉ tag.name.toList := by
        simp [Draft.openTags, Draft.empty]
      exact balanced_of_addAll added closed visible none
  · simp at success

theorem isAccepted_of_evaluated {text : List Char}
    (evaluated : ((parseRange text 0 (Text.byteLength text)).map
      fun _ => ()).toOption = some ()) : IsAccepted text := by
  obtain ⟨nodes, success, -⟩ := exists_ok_of_toOption_map evaluated
  exact ⟨nodes, success⟩

/-- Between the tags of a template, a text is split off as a whole just when it
is balanced.  A text that is accepted as a template is, as long as the tags of
its template elements, and nothing else in it, look like such tags. -/
theorem splitsWhole_of_visible (body : List Char) :
    (SplitsWhole body ↔ Balanced 0 body) ∧
      (IsAccepted body → tagsAreVisible body = true → SplitsWhole body) := by
  refine ⟨splitsWhole_iff body, ?_⟩
  intro accepted visible
  exact (splitsWhole_iff body).mpr (balanced_of_accepted accepted visible)

theorem splitsWhole_of_visible_nested :
    let body :=
      "<template v-if=\"a\"><p/></template><!-- </template> -->".toList
    IsAccepted body ∧ tagsAreVisible body = true ∧ SplitsWhole body := by
  intro body
  have accepted : IsAccepted body :=
    isAccepted_of_evaluated (by decide +kernel)
  have visible : tagsAreVisible body = true := by decide +kernel
  exact ⟨accepted, visible, (splitsWhole_of_visible body).2 accepted visible⟩

/-- An end tag in the value of an attribute ends the template, although it is
no tag of the template. -/
theorem not_splitsWhole_of_accepted :
    ¬ ∀ body, IsAccepted body → SplitsWhole body := by
  intro whole
  have accepted : IsAccepted "<p title=\"</template>\"></p>".toList :=
    isAccepted_of_evaluated (by decide +kernel)
  obtain ⟨blocks, block, split, template, -, body⟩ := whole _ accepted
  have cut : ((splitBlocks (wrapped "<p title=\"</template>\"></p>".toList)).map
      fun blocks => blocks.template.map Block.body).toOption =
        some (some "<p title=\"".toList) := by decide +kernel
  obtain ⟨found, again, early⟩ := exists_ok_of_toOption_map cut
  rw [split, Except.ok.injEq] at again
  subst again
  rw [template, Option.map_some, Option.some.injEq, body] at early
  exact absurd early (by decide)

end Template

end SourceMark
