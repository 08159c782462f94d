import SourceMark.Proofs.Evaluation
import SourceMark.Proofs.Template.Annotation
import SourceMark.Proofs.Template.SlicedFiles

/-!
# Which files get an answer

Faulty markup leaves a component file alone.  One thing is not gone over: a
comment in the template whose end lies in its opening mark.  Every file whose
template is not read up to such a comment gets an answer, and all slices of the
reading by offsets are then cut between characters and in order.
-/

namespace SourceMark

namespace Template

/-- Whether a text starts with a comment whose end lies in its opening mark. -/
def startsCrossedComment (text : List Char) : Bool :=
  "<!-->".toList.isPrefixOf text || "<!--->".toList.isPrefixOf text

/-- A text is read up to a crossed comment: the tokens in front of the comment
go into the draft. -/
def ReadsCrossedComment (locate : Nat → Position) (draft : Draft)
    (offset : Nat) (text : List Char) : Prop :=
  ∃ lead rest earlier later, text = lead ++ rest ∧
    startsCrossedComment rest = true ∧
    tokens offset text =
      earlier ++ tokens (offset + Text.byteLength lead) rest ∧
    draft.addAll locate earlier = .ok later

/-- The template of a file is read up to a crossed comment. -/
def MeetsCrossedComment (source : List Char) : Prop :=
  ∃ blocks block, splitBlocks source = .ok blocks ∧
    blocks.template = some block ∧ block.isMarkup = true ∧
    ReadsCrossedComment (LineIndex.ofText source).location Draft.empty
      block.start block.body

/-! ## Single tokens -/

section Steps

variable {first : Char} {rest more : List Char} {offset : Nat} {fault : Fault}
  {behind : Cursor}

/-- The end of a crossed comment is found in its opening mark. -/
theorem commentStep_of_crossed
    (crossed : startsCrossedComment ('<' :: '!' :: '-' :: '-' :: more) = true) :
    commentStep { rest := '<' :: '!' :: '-' :: '-' :: more, offset } =
      faultStep .crossedComment
        { rest := '<' :: '!' :: '-' :: '-' :: more, offset } := by
  simp only [startsCrossedComment, Bool.or_eq_true,
    List.isPrefixOf_iff_prefix] at crossed
  rcases crossed with ⟨inner, whole⟩ | ⟨inner, whole⟩
  · obtain rfl : '>' :: inner = more := by simpa using whole
    simp [commentStep, Cursor.find?, List.isPrefixOf]
  · obtain rfl : '-' :: '>' :: inner = more := by simpa using whole
    simp [commentStep, Cursor.find?, List.isPrefixOf]

theorem crossed_of_commentStep
    (taken : commentStep { rest := '<' :: '!' :: '-' :: '-' :: more, offset } =
      (.fault fault, behind)) (final : fault.isFinal = true) :
    startsCrossedComment ('<' :: '!' :: '-' :: '-' :: more) = true := by
  unfold commentStep at taken
  split at taken
  · next before close found =>
      have whole := (Cursor.reaches_find? found).rest
      obtain ⟨later, here⟩ :=
        List.isPrefixOf_iff_prefix.mp (Cursor.isPrefixOf_of_find? found)
      rw [← here] at whole
      split at taken
      · next short =>
          match before with
          | [] => simp at whole
          | [_] => simp at whole
          | [_, _] =>
              obtain ⟨_, _, rfl⟩ := by simpa using whole
              simp [startsCrossedComment, List.isPrefixOf]
          | [_, _, _] =>
              obtain ⟨_, _, _, rfl⟩ := by simpa using whole
              simp [startsCrossedComment, List.isPrefixOf]
          | _ :: _ :: _ :: _ :: _ =>
              simp only [List.length_cons] at short
              omega
      · simp at taken
  · obtain ⟨rfl, _⟩ := by simpa [faultStep] using taken
    simp [Fault.isFinal] at final

theorem isFinal_of_interpolationStep {cursor : Cursor}
    (taken : interpolationStep cursor = (.fault fault, behind)) :
    fault.isFinal = false := by
  unfold interpolationStep at taken
  split at taken
  · simp at taken
  · obtain ⟨rfl, _⟩ := by simpa [faultStep] using taken
    rfl

theorem isFinal_of_endTagStep {cursor : Cursor}
    (taken : endTagStep cursor = (.fault fault, behind)) :
    fault.isFinal = false := by
  unfold endTagStep at taken
  simp only at taken
  split at taken
  · split at taken
    · obtain ⟨rfl, _⟩ := by simpa [faultStep] using taken
      rfl
    · simp at taken
  · obtain ⟨rfl, _⟩ := by simpa [faultStep] using taken
    rfl

theorem isFinal_of_bracketStep
    (taken : bracketStep first rest offset = (.fault fault, behind)) :
    fault.isFinal = false := by
  unfold bracketStep at taken
  simp only at taken
  split at taken
  · next read =>
      obtain ⟨rfl, _⟩ := by simpa [faultStep] using taken
      exact Sliced.isFinal_of_readOpenTag read
  · unfold openedStep at taken
    split at taken
    · simp at taken
    · split at taken
      · simp at taken
      · obtain ⟨rfl, _⟩ := by simpa [faultStep] using taken
        rfl
  · simp [textStep] at taken

/-- A token ends the reading for good only at a crossed comment. -/
theorem crossed_of_step
    (taken : step first rest offset = (.fault fault, behind))
    (final : fault.isFinal = true) :
    startsCrossedComment (first :: rest) = true := by
  have impossible (open_ : fault.isFinal = false) :
      startsCrossedComment (first :: rest) = true := by
    rw [open_] at final
    simp at final
  simp only [step] at taken
  split at taken
  · exact impossible (isFinal_of_interpolationStep taken)
  · split at taken
    · next comment =>
        obtain ⟨more, whole⟩ := List.isPrefixOf_iff_prefix.mp comment
        obtain ⟨rfl, rfl⟩ : '<' = first ∧ '!' :: '-' :: '-' :: more = rest := by
          simpa using whole
        exact crossed_of_commentStep taken final
    · split at taken
      · unfold declarationStep at taken
        split at taken
        · simp at taken
        · simp at taken
      · split at taken
        · exact impossible (isFinal_of_endTagStep taken)
        · split at taken
          · exact impossible (isFinal_of_bracketStep taken)
          · simp [textStep] at taken

theorem step_of_crossed {text : List Char}
    (crossed : startsCrossedComment text = true) (offset : Nat) :
    ∃ later, tokens offset text = (offset, .fault .crossedComment) :: later := by
  have opening : ∃ more, text = '<' :: '!' :: '-' :: '-' :: more := by
    simp only [startsCrossedComment, Bool.or_eq_true,
      List.isPrefixOf_iff_prefix] at crossed
    rcases crossed with ⟨inner, rfl⟩ | ⟨inner, rfl⟩
    · exact ⟨_, rfl⟩
    · exact ⟨_, rfl⟩
  obtain ⟨more, rfl⟩ := opening
  have taken := (step_comment more offset).trans (commentStep_of_crossed crossed)
  exact ⟨_, tokens_cons taken⟩

end Steps

/-! ## Whole templates -/

theorem Draft.addAll_append {locate : Nat → Position} {draft later : Draft}
    {entries : List Entry}
    (added : draft.addAll locate entries = .ok later) (more : List Entry) :
    draft.addAll locate (entries ++ more) = later.addAll locate more := by
  induction entries generalizing draft with
  | nil =>
      obtain rfl := by simpa [addAll] using added
      rfl
  | cons entry entries induction =>
      obtain ⟨offset, token⟩ := entry
      simp only [addAll, List.cons_append] at added ⊢
      split at added
      · exact induction added
      · simp at added

section Texts

variable {locate : Nat → Position}

theorem addAll_of_readsCrossed {draft : Draft} {offset : Nat}
    {text : List Char}
    (reads : ReadsCrossedComment locate draft offset text) :
    draft.addAll locate (tokens offset text) = .error .crossedComment := by
  obtain ⟨lead, rest, earlier, later, rfl, crossed, whole, added⟩ := reads
  obtain ⟨others, here⟩ :=
    step_of_crossed crossed (offset + Text.byteLength lead)
  rw [whole, Draft.addAll_append added, here]
  rfl

/-- A reading that ends for good has come to a crossed comment. -/
theorem readsCrossed_of_addAll {draft : Draft} {offset : Nat}
    {text : List Char} {fault : Fault}
    (failed : draft.addAll locate (tokens offset text) = .error fault)
    (final : fault.isFinal = true) :
    ReadsCrossedComment locate draft offset text := by
  induction length : text.length using Nat.strongRecOn
    generalizing draft offset text with
  | _ length induction =>
  subst length
  cases text with
  | nil => simp [tokens, Draft.addAll] at failed
  | cons first rest =>
      have shorter := length_step first rest offset
      cases taken : step first rest offset with
      | mk token behind =>
          rw [taken] at shorter
          rw [tokens_cons taken, Draft.addAll] at failed
          cases added : draft.add locate offset token with
          | error fault =>
              rw [added] at failed
              obtain rfl := by simpa using failed
              by_cases faulty : ∃ fault, token = .fault fault
              · obtain ⟨inner, rfl⟩ := faulty
                obtain rfl := by simpa [Draft.add] using added
                have crossed := crossed_of_step taken final
                exact ⟨[], first :: rest, [], draft, rfl, crossed, rfl, rfl⟩
              · -- The tree refuses no other token for good.
                have sound : ∀ fault, token ≠ .fault fault :=
                  fun fault same => faulty ⟨fault, same⟩
                rw [Draft.isFinal_of_add sound added] at final
                simp at final
          | ok more =>
              have sound : ∀ fault, token ≠ .fault fault := by
                rintro fault rfl
                simp [Draft.add] at added
              obtain ⟨front, back, moved, _⟩ := reads_step taken sound
              rw [added] at failed
              obtain ⟨lead, last, earlier, later, whole, crossed, split, goes⟩ :=
                induction behind.rest.length (Nat.lt_succ_of_le shorter) failed
                  rfl
              refine ⟨first :: (front ++ back) ++ lead, last,
                (offset, token) :: earlier, later, ?_, crossed, ?_, ?_⟩
              · rw [List.append_assoc, ← whole]
                exact moved.rest
              · rw [tokens_cons taken, split, Text.byteLength_append,
                  ← Nat.add_assoc, List.cons_append]
                have place := moved.offset
                simp only at place
                rw [place]
              · simp only [Draft.addAll, added, goes]

/-- Only a crossed comment ends the reading of a template for good. -/
theorem parse_final_iff {offset : Nat} {text : List Char} :
    (∃ fault, parse locate offset text = .error fault ∧
        fault.isFinal = true) ↔
      ReadsCrossedComment locate Draft.empty offset text := by
  constructor
  · rintro ⟨fault, failed, final⟩
    unfold parse at failed
    split at failed
    · rw [Draft.isFinal_of_finish failed] at final
      simp at final
    · next inner added =>
        obtain rfl := by simpa using failed
        exact readsCrossed_of_addAll added final
  · intro reads
    refine ⟨.crossedComment, ?_, rfl⟩
    rw [parse, addAll_of_readsCrossed reads]

end Texts

/-! ## Whole files -/

theorem annotateBlock_final_iff {source : List Char} {options : FileOptions}
    {block : Block} :
    (∃ fault, annotateBlock source options block = .error fault ∧
        fault.isFinal = true) ↔
      ReadsCrossedComment (LineIndex.ofText source).location Draft.empty
        block.start block.body := by
  rw [← parse_final_iff]
  unfold annotateBlock
  cases parse (LineIndex.ofText source).location block.start block.body with
  | error fault => simp
  | ok nodes =>
      simp only
      split
      · simp
      · simp

theorem annotateFile_final_iff {source : List Char} {options : FileOptions} :
    (∃ fault, annotateFile source options = .error fault ∧
        fault.isFinal = true) ↔ MeetsCrossedComment source := by
  constructor
  · rintro ⟨fault, failed, final⟩
    simp only [annotateFile, bind, Except.bind] at failed
    split at failed
    · next inner split =>
        obtain rfl := by simpa using failed
        unfold splitBlocks at split
        split at split
        · simp at split
        · next found =>
            obtain rfl := by simpa using split
            rw [isFinal_of_blocksFrom found] at final
            simp at final
    · next blocks split =>
        split at failed
        · simp [pure, Except.pure] at failed
        · next block template =>
            split at failed
            · next markup =>
                exact ⟨blocks, block, split, template, markup,
                  annotateBlock_final_iff.mp ⟨fault, failed, final⟩⟩
            · simp [pure, Except.pure] at failed
  · rintro ⟨blocks, block, split, template, markup, reads⟩
    obtain ⟨fault, failed, final⟩ := annotateBlock_final_iff.mpr reads
    refine ⟨fault, ?_, final⟩
    simp only [annotateFile, bind, Except.bind, split, template, markup,
      if_true]
    exact failed

/-- What ends an annotation, and what does not. -/
structure BreaksAtCrossedComment (options : FileOptions) (source : String) :
    Prop where
  /-- Every file that does not meet a crossed comment gets an answer. -/
  answered : ¬ MeetsCrossedComment source.toList →
    ∃ code, annotate source options = .ok code
  /-- A file that meets one gets none. -/
  aborted : MeetsCrossedComment source.toList →
    annotate source options = .error .aborted
  /-- Reading by offsets, where every slice is checked, answers the same. -/
  sliced : Sliced.annotate source options = annotate source options
  /-- A slice breaks at a crossed comment only. -/
  unbroken : Sliced.annotateFile source.toList options = .error .broken ↔
    MeetsCrossedComment source.toList

theorem broken_iff {source : List Char} {options : FileOptions} :
    Sliced.annotateFile source options = .error .broken ↔
      MeetsCrossedComment source := by
  rw [← @annotateFile_final_iff source options, Sliced.annotateFile_eq]
  cases annotateFile source options with
  | ok code => simp [Sliced.settle]
  | error fault =>
      cases final : fault.isFinal with
      | true => simp [Sliced.settle, Sliced.halt, final]
      | false => simp [Sliced.settle, Sliced.halt, final]

/-- Annotation answers for every text, unless the template is read up to a
comment whose end lies in its opening mark. -/
theorem breaksAtCrossedComment_of_named {options : FileOptions}
    (named : options.filename ≠ "") (source : String) :
    BreaksAtCrossedComment options source := by
  have final := @annotateFile_final_iff source.toList options
  constructor
  · intro clear
    cases done : annotateFile source.toList options with
    | ok code => exact ⟨_, annotate_of_ok named done⟩
    | error fault =>
        have open_ : fault.isFinal ≠ true :=
          fun closed => clear (final.mp ⟨fault, done, closed⟩)
        have answer := annotate_of_error named done
        rw [if_neg open_] at answer
        exact ⟨none, answer⟩
  · intro meets
    obtain ⟨fault, failed, closed⟩ := final.mpr meets
    rw [annotate_of_error named failed, if_pos closed]
  · exact Sliced.annotate_eq source options
  · exact broken_iff

/-- A comment that is closed by its opening mark ends the annotation. -/
theorem breaksAtCrossedComment_arrow :
    let options : FileOptions := { filename := "t.vue", ignored := [] }
    let source := "<template>é<p/><!--></template>"
    options.filename ≠ "" ∧
      annotate source options = .error .aborted ∧
      BreaksAtCrossedComment options source := by
  intro options source
  have named : options.filename ≠ "" := by decide
  have done : annotate source options = .error .aborted :=
    eq_error_of_failure? (by decide +kernel)
  exact ⟨named, done, breaksAtCrossedComment_of_named named source⟩

/-- Not every file gets an answer. -/
theorem not_total_of_arrow :
    ¬ ∀ (options : FileOptions) (source : String), options.filename ≠ "" →
      ∃ code, annotate source options = .ok code := by
  intro total
  obtain ⟨code, done⟩ := total { filename := "t.vue", ignored := [] }
    "<template><!--></template>" (by decide)
  have broken : annotate "<template><!--></template>"
      { filename := "t.vue", ignored := [] } = .error .aborted :=
    eq_error_of_failure? (by decide +kernel)
  rw [broken] at done
  simp at done

end Template

end SourceMark
