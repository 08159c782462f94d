import SourceMark.Proofs.Template.Rewriting
import SourceMark.Proofs.Template.SlicedTokens

/-!
# Trees read by byte offsets

Reading a template token by token between two offsets of its file comes to the
tree of its text.  The reading breaks where a token does, and nowhere else: what
a tree refuses is never final.
-/

namespace SourceMark

namespace Template

/-! ## Texts that follow one another -/

namespace Node

theorem addText_cons (value : String) (node : Node) {nodes : List Node}
    (more : nodes ≠ []) :
    addText value (node :: nodes) = node :: addText value nodes := by
  cases nodes with
  | nil => exact absurd rfl more
  | cons next nodes => simp only [addText]

theorem addText_ne_nil (value : String) (nodes : List Node) :
    addText value nodes ≠ [] := by
  cases nodes with
  | nil => simp [addText]
  | cons node nodes =>
      by_cases last : nodes = []
      · subst last
        cases node with
        | _ => simp [addText]
      · simp [addText_cons value node last]

theorem addText_addText (first second : String) (nodes : List Node) :
    addText second (addText first nodes) = addText (first ++ second) nodes := by
  induction nodes with
  | nil => rfl
  | cons node nodes induction =>
      by_cases last : nodes = []
      · subst last
        cases node with
        | text before => simp [addText, String.append_assoc]
        | _ => rfl
      · rw [addText_cons first node last,
          addText_cons second node (addText_ne_nil first nodes), induction,
          addText_cons (first ++ second) node last]

end Node

namespace Draft

variable {locate : Nat → Position}

theorem mapNodes_mapNodes (first second : List Node → List Node)
    (draft : Draft) :
    (draft.mapNodes first).mapNodes second =
      draft.mapNodes fun nodes => second (first nodes) := by
  obtain ⟨opened, roots⟩ := draft
  cases opened with
  | nil => rfl
  | cons inner outer => rfl

/-- A text may be read in two parts. -/
theorem addAll_texts (draft : Draft) (first second : List Char)
    (start place both : Nat) (entries : List Entry) :
    addAll locate draft
        ((start, .text first) :: (place, .text second) :: entries) =
      addAll locate draft ((both, .text (first ++ second)) :: entries) := by
  simp only [addAll, add, mapNodes_mapNodes, Node.addText_addText,
    String.ofList_append]

/-! ## Faults of a tree -/

theorem isFinal_of_addElement {tag : OpenTag} {place : Place}
    {children : List Node} {draft : Draft} {fault : Fault}
    (failed : draft.addElement tag place children = .error fault) :
    fault.isFinal = false := by
  have refused {nodes : List Node} {fault : Fault}
      (failed : Node.addElement tag.name tag.attributes place tag.selfClosing
        children nodes = .error fault) : fault.isFinal = false := by
    unfold Node.addElement at failed
    simp only at failed
    split at failed
    · simp at failed
    · split at failed
      · split at failed
        · simp at failed
        · obtain rfl := by simpa using failed
          rfl
      · simp at failed
  simp only [addElement] at failed
  split at failed
  · split at failed
    · simp at failed
    · next inner equality =>
        obtain rfl := by simpa using failed
        exact refused equality
  · split at failed
    · simp at failed
    · next inner equality =>
        obtain rfl := by simpa using failed
        exact refused equality

theorem isFinal_of_close {name : List Char} {draft : Draft} {fault : Fault}
    (failed : draft.close name = .error fault) : fault.isFinal = false := by
  unfold close at failed
  split at failed
  · obtain rfl := by simpa using failed
    rfl
  · split at failed
    · exact isFinal_of_addElement failed
    · split at failed
      · obtain rfl := by simpa using failed
        rfl
      · obtain rfl := by simpa using failed
        rfl

/-- What a tree refuses is a fault that a reading gets over. -/
theorem isFinal_of_add {draft : Draft} {offset : Nat} {token : Token}
    {fault : Fault} (sound : ∀ fault, token ≠ .fault fault)
    (failed : draft.add locate offset token = .error fault) :
    fault.isFinal = false := by
  cases token with
  | text value => simp [add] at failed
  | interpolation value => simp [add] at failed
  | comment value => simp [add] at failed
  | opening tag =>
      simp only [add] at failed
      split at failed
      · exact isFinal_of_addElement failed
      · simp at failed
  | raw tag body => exact isFinal_of_addElement failed
  | closing name => exact isFinal_of_close failed
  | fault fault => exact absurd rfl (sound fault)

theorem isFinal_of_finish {draft : Draft} {fault : Fault}
    (failed : draft.finish = .error fault) : fault.isFinal = false := by
  unfold finish at failed
  split at failed
  · simp at failed
  · obtain rfl := by simpa using failed
    rfl

end Draft

/-! ## Reading a template -/

theorem addAll_brace {locate : Nat → Position} {rest : List Char}
    (lone : rest.head? ≠ some '{') (draft : Draft) (offset : Nat) :
    Draft.addAll locate draft (tokens offset ('{' :: rest)) =
      Draft.addAll locate (draft.mapNodes (Node.addText (String.ofList ['{'])))
        (tokens (offset + 1) rest) := by
  have single : opensMarkup '{' rest.head? = false := by
    cases rest with
    | nil => rfl
    | cons next rest =>
        have different : next ≠ '{' := by simpa using lone
        simp [opensMarkup, different]
  have read : step '{' rest offset =
      (.text ('{' :: (Cursor.takeWhile isPlain (offset + 1) rest).1),
        (Cursor.takeWhile isPlain (offset + 1) rest).2) :=
    step_eq_textStep single offset
  rw [tokens_cons read]
  cases rest with
  | nil => rfl
  | cons next rest =>
      by_cases plain : isPlain next = true
      · -- The text behind the brace is the next token.
        have markup : opensMarkup next rest.head? = false := by
          simp only [isPlain, Bool.and_eq_true, decide_eq_true_eq] at plain
          simp [opensMarkup, plain.1, plain.2]
        have later : step next rest (offset + 1) =
            (.text (Cursor.takeWhile isPlain (offset + 1) (next :: rest)).1,
              (Cursor.takeWhile isPlain (offset + 1) (next :: rest)).2) := by
          rw [step_eq_textStep markup]
          simp [textStep, Cursor.takeWhile, plain]
        rw [tokens_cons later]
        exact (Draft.addAll_texts draft ['{'] _ offset (offset + 1) offset
          _).symm
      · simp only [Cursor.takeWhile, plain, Bool.false_eq_true, if_false]
        rfl

namespace Sliced

open Cursor (IsWindow)

/-- A result of a reading, by offsets. -/
def settle {Result : Type} : Except Fault Result → Except Halt Result
  | .ok result => .ok result
  | .error fault => .error (halt fault)

section Reading

variable {source : List Char} {stop : Nat} {locate : Nat → Position}
  {first : Char} {rest : List Char} {offset : Nat} {draft : Draft}

theorem lt_of_window
    (window : IsWindow source stop { rest := first :: rest, offset }) :
    offset < stop := by
  have ends := window.le_iff
  rw [← Nat.not_le, ends]
  simp

theorem tokenRound_brace (lone : rest.head? ≠ some '{')
    (window : IsWindow source stop { rest := '{' :: rest, offset }) :
    tokenRound source stop locate offset draft = .ok (.next (offset + 1)
      (draft.mapNodes (Node.addText (String.ofList ['{'])))) := by
  have within := lt_of_window window
  simp only [tokenRound, within, if_true, bind, Except.bind,
    token_brace lone window, Draft.add]
  rfl

/-- Any other token is read and goes into the tree. -/
theorem tokenRound_eq (double : first = '{' → rest.head? = some '{')
    (window : IsWindow source stop { rest := first :: rest, offset }) :
    tokenRound source stop locate offset draft =
      match draft.add locate offset (step first rest offset).1 with
      | .ok more => .ok (.next (step first rest offset).2.offset more)
      | .error fault => .error (halt fault) := by
  have within := lt_of_window window
  have read := token_eq double window
  generalize step first rest offset = taken at read ⊢
  obtain ⟨token, behind⟩ := taken
  by_cases faulty : ∃ fault, token = .fault fault
  · obtain ⟨fault, rfl⟩ := faulty
    simp only [tokenRound, within, if_true, bind, Except.bind, read, ofStep]
    rfl
  · have sound : ∀ fault, token ≠ .fault fault :=
      fun fault same => faulty ⟨fault, same⟩
    have read : Sliced.token source stop offset =
        .ok (token, behind.offset) := by
      rw [read]
      cases token with
      | fault fault => exact absurd rfl (sound fault)
      | _ => rfl
    simp only [tokenRound, within, if_true, bind, Except.bind, read]
    cases added : draft.add locate offset token with
    | ok more => rfl
    | error fault =>
        simp only [halt_of_not_isFinal (Draft.isFinal_of_add sound added)]
        rfl

/-- A round over a template takes its next token into the tree. -/
theorem agrees_tokenRound (cursor : Cursor) (draft : Draft)
    (window : IsWindow source stop cursor) :
    Agrees (tokenRound source stop locate)
      (fun cursor draft => settle (Draft.addAll locate draft
        (tokens cursor.offset cursor.rest)))
      (fun _ => True) cursor draft := by
  obtain ⟨rest, offset⟩ := cursor
  cases rest with
  | nil =>
      have past : ¬ offset < stop := Nat.not_lt.mpr (window.le_iff.mpr rfl)
      have done : tokenRound source stop locate offset draft =
          .ok (.done draft) := by
        rw [tokenRound, if_neg past]
        rfl
      apply Agrees.ends done
      rw [tokens]
      rfl
  | cons first rest =>
      by_cases lone : first = '{' ∧ rest.head? ≠ some '{'
      · -- By offsets a single brace is a token, at the cursor it is not.
        obtain ⟨rfl, lone⟩ := lone
        have taken : Cursor.Reaches { rest := '{' :: rest, offset } ['{']
            { rest, offset := offset + 1 } := (Cursor.Reaches.refl _).cons
        apply Agrees.goes (tokenRound_brace lone window) taken (by simp) trivial
        rw [addAll_brace lone]
      · have double : first = '{' → rest.head? = some '{' := by
          intro brace
          exact Decidable.not_not.mp fun single => lone ⟨brace, single⟩
        have round := @tokenRound_eq source stop locate first rest offset draft
          double window
        cases taken : step first rest offset with
        | mk token behind =>
            rw [taken] at round
            cases added : draft.add locate offset token with
            | error fault =>
                simp only [added] at round
                apply Agrees.halts round
                simp only [tokens_cons taken, Draft.addAll, added, settle]
            | ok more =>
                have sound : ∀ fault, token ≠ .fault fault := by
                  rintro fault rfl
                  simp [Draft.add] at added
                obtain ⟨front, back, moved, _⟩ := reads_step taken sound
                simp only [added] at round
                apply Agrees.goes round moved (by simp) trivial
                simp only [tokens_cons taken, Draft.addAll, added]

theorem loop_tokenRound {cursor : Cursor}
    (window : IsWindow source stop cursor) (draft : Draft) :
    loop stop (tokenRound source stop locate) cursor.offset draft =
      settle (Draft.addAll locate draft
        (tokens cursor.offset cursor.rest)) :=
  loop_eq (fun cursor draft window _ => agrees_tokenRound cursor draft window)
    window trivial

/-- The tree of a part of a file is read alike by offsets. -/
theorem parse_eq {cursor : Cursor} (window : IsWindow source stop cursor) :
    parse source cursor.offset stop =
      settle (Template.parse (LineIndex.ofText source).location cursor.offset
        cursor.rest) := by
  have whole : min stop (Text.byteLength source) = stop :=
    Nat.min_eq_left window.le_byteLength
  simp only [parse, whole, bind, Except.bind, loop_tokenRound window,
    Template.parse]
  cases Draft.addAll (LineIndex.ofText source).location Draft.empty
      (tokens cursor.offset cursor.rest) with
  | error fault => rfl
  | ok draft =>
      cases finished : draft.finish with
      | ok nodes => simp only [settle, finished]; rfl
      | error fault =>
          simp only [settle, finished,
            halt_of_not_isFinal (Draft.isFinal_of_finish finished)]
          rfl

end Reading

end Sliced

end Template

end SourceMark
