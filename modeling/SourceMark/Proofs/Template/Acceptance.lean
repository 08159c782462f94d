import Mathlib.Data.List.Induction
import SourceMark.Proofs.Template.Choices
import SourceMark.Proofs.Template.Outlines
import SourceMark.Proofs.Template.Totality

/-!
# Which templates are accepted

A template is accepted just when its tokens are well formed, its tags nest and
every branch has a choice to belong to.  All three are said of the tokens alone,
which are read without regard to what is open; the tree that is built while
reading then has one element for each tag, nested as the tags are.
-/

namespace SourceMark

namespace Template

/-- What can be malformed about a token: something that it opens is not ended,
or it is an end tag without a name. -/
def Fault.isMalformed : Fault → Bool
  | openInterpolation _ => true
  | openComment _ => true
  | openStartTag _ => true
  | openAttributeValue _ => true
  | missingEndTag _ => true
  | openEndTag _ => true
  | namelessEndTag _ => true
  | _ => false

/-- Whether a token is malformed. -/
def Token.isMalformed : Token → Bool
  | fault found => found.isMalformed
  | _ => false

/-- Whether the mark of a comment is directly followed by its end somewhere. -/
def holdsCrossedComment (text : List Char) : Bool :=
  Text.occursIn "<!-->".toList text || Text.occursIn "<!--->".toList text

/-! ## Adding parts -/

section Adding

variable {locate : Nat → Position} {nodes more : List Node}

theorem Part.addAllTo_append (nodes : List Node) (first second : List Part) :
    addAllTo locate nodes (first ++ second) =
      (addAllTo locate nodes first).bind fun between =>
        addAllTo locate between second := by
  induction first generalizing nodes with
  | nil => rfl
  | cons part parts induction =>
      simp only [List.cons_append, addAllTo]
      cases part.addTo locate nodes with
      | error fault => rfl
      | ok between => exact induction between

theorem Part.addAllTo_concat {front : List Part} {part : Part}
    (added : addAllTo locate [] front = .ok nodes)
    (one : part.addTo locate nodes = .ok more) :
    addAllTo locate [] (front ++ [part]) = .ok more := by
  rw [addAllTo_append, added]
  simp only [Except.bind, addAllTo, one]

/-- A token that stands alone is added unless it is a fault or a branch that no
choice takes. -/
theorem Node.addToken_isOk_iff {token : Token}
    (alone : token.standsAlone = true) (offset : Nat) :
    (∃ more, addToken locate offset nodes token = .ok more) ↔
      (∀ fault, token ≠ .fault fault) ∧
      ∀ tag, token.tag? = some tag → tag.continuesChoice = true →
        takesBranch nodes.reverse = true := by
  cases token with
  | text value => simp [addToken, Token.tag?]
  | interpolation value => simp [addToken, Token.tag?]
  | comment value => simp [addToken, Token.tag?]
  | opening tag => simpa [addToken, Token.tag?] using addElement_isOk_iff
  | raw tag body => simpa [addToken, Token.tag?] using addElement_isOk_iff
  | closing name => simp [Token.standsAlone] at alone
  | fault fault => simp [addToken]

/-- Behind a part, a choice takes another branch when the part says so, or when
it is a gap and the choice did so before. -/
theorem Part.takesBranch_addTo {part : Part}
    (added : part.addTo locate nodes = .ok more) :
    Node.takesBranch more.reverse = true ↔
      part.isGap = true ∧ Node.takesBranch nodes.reverse = true ∨
        ∃ tag, part.tag? = some tag ∧ tag.awaitsBranch = true := by
  cases part with
  | pair offset tag inner =>
      simp only [addTo] at added
      split at added
      · rw [Node.takesBranch_addElement added]
        simp [isGap, tag?]
      · simp at added
  | single offset token =>
      cases token with
      | text value =>
          obtain rfl := by simpa [addTo, Node.addToken] using added
          simp [Node.takesBranch_addText, isGap, tag?, Token.tag?]
      | interpolation value =>
          obtain rfl := by simpa [addTo, Node.addToken] using added
          simp [Node.takesBranch, Node.isGap, isGap, tag?, Token.tag?]
      | comment value =>
          obtain rfl := by simpa [addTo, Node.addToken] using added
          simp [Node.takesBranch, Node.isGap, isGap, tag?, Token.tag?]
      | opening tag =>
          have awaits : _ = tag.awaitsBranch :=
            Node.takesBranch_addElement added
          simp [awaits, isGap, tag?, Token.tag?]
      | raw tag body =>
          have awaits : _ = tag.awaitsBranch :=
            Node.takesBranch_addElement added
          simp [awaits, isGap, tag?, Token.tag?]
      | closing name => simp [addTo, Node.addToken] at added
      | fault fault => simp [addTo, Node.addToken] at added

/-- Whether the nodes of some parts take a branch can be told from the
parts. -/
theorem Part.takesBranch_iff {parts : List Part}
    (added : addAllTo locate [] parts = .ok nodes) :
    Node.takesBranch nodes.reverse = true ↔ AwaitBranch parts := by
  induction parts using List.reverseRecOn generalizing nodes with
  | nil =>
      obtain rfl := by simpa [addAllTo] using added
      simp [Node.takesBranch, not_awaitBranch_nil]
  | append_singleton parts part induction =>
      rw [addAllTo_append] at added
      cases before : addAllTo locate [] parts with
      | error fault => simp [before, Except.bind] at added
      | ok between =>
          have one : part.addTo locate between = .ok nodes := by
            simp only [before, Except.bind, addAllTo] at added
            split at added
            · next last equality => rw [equality, ← added]
            · simp at added
          rw [takesBranch_addTo one, induction before, awaitBranch_concat_iff]

theorem areSound_cons_iff (entry : Entry) (entries : List Entry) :
    AreSound (entry :: entries) ↔
      (∀ fault, entry.2 ≠ .fault fault) ∧ AreSound entries :=
  List.forall_mem_cons

theorem Part.addAllTo_cons_isOk_iff (part : Part) (parts : List Part) :
    (∃ more, addAllTo locate nodes (part :: parts) = .ok more) ↔
      ∃ between, part.addTo locate nodes = .ok between ∧
        ∃ more, addAllTo locate between parts = .ok more := by
  simp only [addAllTo]
  cases part.addTo locate nodes with
  | error fault => simp
  | ok between => simp

theorem Part.addTo_pair_isOk_iff (offset : Nat) (tag : OpenTag)
    (inner : List Part) :
    (∃ more, (pair offset tag inner).addTo locate nodes = .ok more) ↔
      (∃ children, addAllTo locate [] inner = .ok children) ∧
      (tag.continuesChoice = true → Node.takesBranch nodes.reverse = true) := by
  simp only [addTo]
  cases addAllTo locate [] inner with
  | error fault => simp
  | ok children => simpa using Node.addElement_isOk_iff

/-- Parts whose tags nest are added behind others just when none of them is a
fault and all branches have a choice to belong to. -/
theorem Part.addAllTo_isOk_iff {entries : List Entry} {parts : List Part}
    (nests : Nests entries parts) {front : List Part}
    (added : addAllTo locate [] front = .ok nodes) :
    (∃ more, addAllTo locate nodes parts = .ok more) ↔
      AreSound entries ∧ FollowInOrder front parts := by
  induction nests generalizing front nodes with
  | nil => simp [addAllTo, AreSound, followInOrder_nil]
  | @single offset token entries parts alone rest induction =>
      have takes := takesBranch_iff added
      have one : (∃ between,
          (single offset token).addTo locate nodes = .ok between) ↔ _ :=
        Node.addToken_isOk_iff alone offset
      rw [addAllTo_cons_isOk_iff, areSound_cons_iff, followInOrder_cons_iff]
      constructor
      · rintro ⟨between, here, later⟩
        obtain ⟨sound, order⟩ :=
          (induction (addAllTo_concat added here)).mp later
        obtain ⟨whole, branch⟩ := one.mp ⟨between, here⟩
        refine ⟨⟨whole, sound⟩, ?_, by simp, order⟩
        exact fun tag given continues => takes.mp (branch tag given continues)
      · rintro ⟨⟨whole, sound⟩, branch, _, order⟩
        obtain ⟨between, here⟩ := one.mpr
          ⟨whole, fun tag given continues =>
            takes.mpr (branch tag given continues)⟩
        exact ⟨between, here,
          (induction (addAllTo_concat added here)).mpr ⟨sound, order⟩⟩
  | @pair offset place tag name inner entries children parts left within same
      rest innerInduction induction =>
      have takes := takesBranch_iff added
      have one : (∃ between,
          (pair offset tag children).addTo locate nodes = .ok between) ↔ _ :=
        addTo_pair_isOk_iff offset tag children
      have inside : (∃ more, addAllTo locate [] children = .ok more) ↔
          AreSound inner ∧ AreInOrder children := by
        rw [areInOrder_iff]
        exact innerInduction (rfl : addAllTo locate [] [] = .ok [])
      have sound : AreSound ((offset, .opening tag) ::
          (inner ++ (place, .closing name) :: entries)) ↔
            AreSound inner ∧ AreSound entries := by
        rw [areSound_cons_iff, AreSound, List.forall_mem_append,
          List.forall_mem_cons]
        simp [AreSound]
      rw [addAllTo_cons_isOk_iff, sound, followInOrder_cons_iff]
      constructor
      · rintro ⟨between, here, later⟩
        obtain ⟨behind, order⟩ :=
          (induction (addAllTo_concat added here)).mp later
        obtain ⟨nodes, branch⟩ := one.mp ⟨between, here⟩
        obtain ⟨front, ordered⟩ := inside.mp nodes
        refine ⟨⟨front, behind⟩, ?_, ?_, order⟩
        · rintro given ⟨⟩ continues
          exact takes.mp (branch continues)
        · rintro _ _ _ ⟨⟩
          exact ordered
      · rintro ⟨⟨front, behind⟩, branch, ordered, order⟩
        obtain ⟨between, here⟩ := one.mpr
          ⟨inside.mpr ⟨front, ordered offset tag children rfl⟩,
            fun continues => takes.mpr (branch tag rfl continues)⟩
        exact ⟨between, here,
          (induction (addAllTo_concat added here)).mpr ⟨behind, order⟩⟩

end Adding

/-- A text is read as a tree just when no token is a fault, the tags nest and
the parts that they make are in order. -/
theorem parse_isOk_iff {locate : Nat → Position} {origin : Nat}
    {text : List Char} :
    (∃ nodes, parse locate origin text = .ok nodes) ↔
      AreSound (tokens origin text) ∧
      (∃ parts, Nests (tokens origin text) parts) ∧
      ∀ parts, Nests (tokens origin text) parts → Part.AreInOrder parts := by
  have added {parts : List Part} (nests : Nests (tokens origin text) parts) :
      (∃ nodes, Part.addAllTo locate [] parts = .ok nodes) ↔
        AreSound (tokens origin text) ∧ Part.AreInOrder parts := by
    rw [Part.areInOrder_iff]
    exact Part.addAllTo_isOk_iff nests (rfl : Part.addAllTo locate [] [] = _)
  simp only [parse_eq_ok_iff]
  constructor
  · rintro ⟨nodes, parts, nests, success⟩
    obtain ⟨sound, order⟩ := (added nests).mp ⟨nodes, success⟩
    refine ⟨sound, ⟨parts, nests⟩, fun others again => ?_⟩
    rw [← nests.parts_eq again]
    exact order
  · rintro ⟨sound, ⟨parts, nests⟩, order⟩
    obtain ⟨nodes, success⟩ := (added nests).mpr ⟨sound, order parts nests⟩
    exact ⟨nodes, parts, nests, success⟩

/-! ## Malformed tokens -/

theorem isMalformed_of_readInside {tag : String} {place : TagPlace}
    {offset : Nat} {text : List Char} {fault : Fault}
    (failed : readInside tag place offset text = .error fault) :
    fault.isMalformed = true := by
  induction text generalizing place offset with
  | nil =>
      obtain rfl := by simpa [readInside] using failed
      cases place with
      | inQuotes name quote value => rfl
      | _ => rfl
  | cons character rest induction =>
      simp only [readInside] at failed
      split at failed
      · simp at failed
      · split at failed
        · simp at failed
        · next inner equality =>
            obtain rfl := by simpa using failed
            exact induction equality

theorem isMalformed_of_readOpenTag {cursor : Cursor} {fault : Fault}
    (failed : readOpenTag cursor = .error fault) :
    fault.isMalformed = true := by
  unfold readOpenTag at failed
  split at failed
  · split at failed
    · simp only at failed
      split at failed
      · simp at failed
      · next inner equality =>
          obtain rfl := by simpa using failed
          exact isMalformed_of_readInside equality
    · simp at failed
  · simp at failed

section Steps

variable {first : Char} {rest : List Char} {offset : Nat}
  {cursor behind : Cursor} {fault : Fault}

theorem isMalformed_of_bracketStep
    (taken : bracketStep first rest offset = (.fault fault, behind)) :
    fault.isMalformed = true := by
  unfold bracketStep at taken
  simp only at taken
  split at taken
  · next failed =>
      obtain ⟨rfl, _⟩ := by simpa [faultStep] using taken
      exact isMalformed_of_readOpenTag failed
  · unfold openedStep at taken
    split at taken
    · simp at taken
    · split at taken
      · simp at taken
      · obtain ⟨rfl, _⟩ := by simpa [faultStep] using taken
        rfl
  · simp [textStep] at taken

/-- A faulty token is malformed, or a comment whose end lies in its mark. -/
theorem isMalformed_of_step
    (taken : step first rest offset = (.fault fault, behind)) :
    fault.isMalformed = true ∨ fault = .crossedComment := by
  simp only [step] at taken
  split at taken
  · unfold interpolationStep at taken
    split at taken
    · simp at taken
    · obtain ⟨rfl, _⟩ := by simpa [faultStep] using taken
      exact .inl rfl
  · split at taken
    · unfold commentStep at taken
      split at taken
      · split at taken
        · obtain ⟨rfl, _⟩ := by simpa [faultStep] using taken
          exact .inr rfl
        · simp at taken
      · obtain ⟨rfl, _⟩ := by simpa [faultStep] using taken
        exact .inl rfl
    · split at taken
      · unfold declarationStep at taken
        split at taken
        · simp at taken
        · simp at taken
      · split at taken
        · unfold endTagStep at taken
          simp only at taken
          split at taken
          · split at taken
            · obtain ⟨rfl, _⟩ := by simpa [faultStep] using taken
              exact .inl rfl
            · simp at taken
          · obtain ⟨rfl, _⟩ := by simpa [faultStep] using taken
            exact .inl rfl
        · split at taken
          · exact .inl (isMalformed_of_bracketStep taken)
          · simp [textStep] at taken

end Steps

theorem holdsCrossedComment_of_starts {text : List Char}
    (crossed : startsCrossedComment text = true) :
    holdsCrossedComment text = true := by
  simp only [startsCrossedComment, Bool.or_eq_true,
    List.isPrefixOf_iff_prefix] at crossed
  simp only [holdsCrossedComment, Bool.or_eq_true, Text.occursIn_iff_isInfix]
  exact crossed.imp List.IsPrefix.isInfix List.IsPrefix.isInfix

theorem holdsCrossedComment_of_suffix {text rest : List Char}
    (suffix : rest <:+ text) (holds : holdsCrossedComment rest = true) :
    holdsCrossedComment text = true := by
  simp only [holdsCrossedComment, Bool.or_eq_true,
    Text.occursIn_iff_isInfix] at holds ⊢
  exact holds.imp (fun inside => inside.trans suffix.isInfix)
    fun inside => inside.trans suffix.isInfix

/-- Where no comment is crossed, the faults are the malformed tokens. -/
theorem areSound_iff {text : List Char}
    (clear : holdsCrossedComment text = false) (offset : Nat) :
    AreSound (tokens offset text) ↔
      ∀ entry ∈ tokens offset text, entry.2.isMalformed = false := by
  induction length : text.length using Nat.strongRecOn
    generalizing offset text with
  | _ length induction =>
  subst length
  cases text with
  | nil => simp [tokens, AreSound]
  | cons first rest =>
      cases taken : step first rest offset with
      | mk token behind =>
          have shorter : behind.rest.length ≤ rest.length := by
            have bound := length_step first rest offset
            rwa [taken] at bound
          rw [tokens_cons taken, areSound_cons_iff, List.forall_mem_cons]
          -- A fault is malformed by itself; behind any other token the text
          -- is shorter, and no comment is crossed there either.
          by_cases faulty : ∃ fault, token = .fault fault
          · obtain ⟨fault, rfl⟩ := faulty
            have malformed : fault.isMalformed = true := by
              rcases isMalformed_of_step taken with malformed | rfl
              · exact malformed
              · have crossed := crossed_of_step taken rfl
                rw [holdsCrossedComment_of_starts crossed] at clear
                simp at clear
            simp [Token.isMalformed, malformed]
          · have whole : ∀ fault, token ≠ .fault fault :=
              fun fault same => faulty ⟨fault, same⟩
            obtain ⟨front, back, reaches, _⟩ := reads_step taken whole
            have suffix : behind.rest <:+ first :: rest :=
              ⟨_, reaches.rest.symm⟩
            have still : holdsCrossedComment behind.rest = false := by
              apply Bool.eq_false_iff.mpr
              intro holds
              rw [holdsCrossedComment_of_suffix suffix holds] at clear
              simp at clear
            have later := induction behind.rest.length
              (Nat.lt_succ_of_le shorter) still behind.offset rfl
            rw [later]
            cases token with
            | fault fault => exact absurd rfl (whole fault)
            | _ => simp [Token.isMalformed]

/-- A template is accepted just when no token is malformed, the tags nest and
every branch has a choice to belong to.  Its tree has one element for each
opening tag, nested as the tags are. -/
theorem accepts_iff_nests {text : List Char}
    (clear : holdsCrossedComment text = false) (before after : List Char) :
    let source := before ++ (text ++ after)
    let start := Text.byteLength before
    let stop := start + Text.byteLength text
    let locate := (LineIndex.ofText source).location
    let entries := tokens start text
    ((∃ nodes, parseRange source start stop = .ok nodes) ↔
      (∀ entry ∈ entries, entry.2.isMalformed = false) ∧
      (∃ parts, Nests entries parts) ∧
      ∀ parts, Nests entries parts → Part.AreInOrder parts) ∧
    ∀ nodes, parseRange source start stop = .ok nodes →
      Node.elementsAll nodes =
        (tagsOf entries).map (Draft.elementOf locate) ∧
      ∀ parts, Nests entries parts →
        Node.outlineAll nodes = Part.outlineAll locate parts := by
  intro source start stop locate entries
  have cut : parseRange source start stop = parse locate start text :=
    parseRange_of_cut before text after
  constructor
  · rw [cut, parse_isOk_iff, areSound_iff clear]
  · intro nodes success
    rw [cut] at success
    refine ⟨(elements_of_parse success).2, fun parts nests => ?_⟩
    obtain ⟨others, again, added⟩ := parse_eq_ok_iff.mp success
    obtain rfl := nests.parts_eq again
    exact Part.outlineAll_addAllTo parts added

/-- A choice whose branches stand apart, in another case, with a void element
and a body of text. -/
theorem accepts_iff_nests_choice :
    let text :=
      ("<ul><LI v-if=\"a\">x<br></li> <!-- c -->" ++
        "<li v-else><style>a > b</style></li></ul>").toList
    let start := Text.byteLength "<template>".toList
    let stop := start + Text.byteLength text
    let source := "<template>".toList ++ (text ++ "</template>".toList)
    holdsCrossedComment text = false ∧
      ∃ nodes parts, parseRange source start stop = .ok nodes ∧
        Nests (tokens start text) parts ∧ Part.AreInOrder parts ∧
        Node.outlineAll nodes =
          Part.outlineAll (LineIndex.ofText source).location parts := by
  intro text start stop source
  have clear : holdsCrossedComment text = false := by decide +kernel
  obtain ⟨accepted, outlines⟩ := accepts_iff_nests clear "<template>".toList
    "</template>".toList
  obtain ⟨nodes, success, -⟩ : ∃ nodes,
      parseRange source start stop = .ok nodes ∧ (fun _ => ()) nodes = () :=
    exists_ok_of_toOption_map (by decide +kernel)
  obtain ⟨-, ⟨parts, nests⟩, order⟩ := accepted.mp ⟨nodes, success⟩
  exact ⟨clear, nodes, parts, success, nests, order parts nests,
    (outlines nodes success).2 parts nests⟩

end Template

end SourceMark
