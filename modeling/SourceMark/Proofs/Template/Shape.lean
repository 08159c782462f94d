import SourceMark.Proofs.Template.Choices
import SourceMark.Proofs.Template.Marks

/-!
# The shape of a tree

Elements are attached when they end, some of them inside a repetition and some
as branches of a node that was there before.  Whatever comes of it has a fixed
shape: repetitions and choices hold what their attributes ask for, texts are
neither empty nor neighbours, and the elements stand where their tags do.
-/

namespace SourceMark

namespace Template

namespace Node

/-! ## Standing in a tree -/

/-- The nodes directly below a node. -/
def held : Node → List Node
  | element _ _ _ _ children => children
  | repeated _ child => [child]
  | choice branches => branches.map Prod.snd
  | _ => []

/-- A node stands in a tree: at its top, or directly below another node that
does. -/
inductive StandsIn (roots : List Node) : Option Node → Node → Prop where
  | top {node : Node} (member : node ∈ roots) : StandsIn roots none node
  | under {above : Option Node} {parent node : Node}
      (stands : StandsIn roots above parent) (member : node ∈ parent.held) :
      StandsIn roots (some parent) node

/-- What a node says when it is a text. -/
def text? : Node → Option String
  | text value => some value
  | _ => none

/-- The source of the repetition that an element asks for. -/
def source? : Node → Option String
  | element _ attributes _ _ _ => directive? attributes "v-for"
  | _ => none

/-- A node that can be chosen: an element that is not repeated, or the
repetition of one. -/
def IsBody (node : Node) : Prop :=
  (∃ tag attributes place selfClosing children,
    node = element tag attributes place selfClosing children ∧
      directive? attributes "v-for" = none) ∨
  ∃ source child, node = repeated source child

/-- No text is empty, and no two of them follow one another. -/
structure AreApart (nodes : List Node) : Prop where
  filled : text "" ∉ nodes
  apart : ∀ front first second back,
    nodes ≠ front ++ text first :: text second :: back

/-- A choice has a first branch with a condition, and only the last one of
further branches may lack it. -/
structure AreBranches (branches : List (Option String × Node)) : Prop where
  inhabited : branches ≠ []
  conditions : ∀ front branch back, branches = front ++ branch :: back →
    branch.1 = none → front ≠ [] ∧ back = []
  bodies : ∀ branch ∈ branches, branch.2.IsBody

end Node

/-- An element has the place of its tag in a range of a file. -/
structure HasPlace (source : List Char) (start stop : Nat) (element : Element) :
    Prop where
  first : start ≤ element.place.offset
  last : element.place.offset + 1 + Text.byteLength element.tag.toList ≤
    min stop (Text.byteLength source)
  tag : ∃ before after,
    source = before ++ '<' :: (element.tag.toList ++ after) ∧
      element.place.offset = Text.byteLength before
  position : element.place.position =
    (LineIndex.ofText source).location element.place.offset

/-- The shape of the tree of a range of a file. -/
structure HasShape (source : List Char) (start stop : Nat) (roots : List Node) :
    Prop where
  /-- Elements stand in the range, where their tags do. -/
  places : ∀ element ∈ Node.elementsAll roots,
    HasPlace source start stop element
  ordered : (Node.elementsAll roots).Pairwise
    fun first second => first.place.offset < second.place.offset
  /-- The elements in this order are all that stand in the tree. -/
  listed : ∀ above tag attributes place selfClosing children,
    Node.StandsIn roots above
      (.element tag attributes place selfClosing children) →
    { tag, attributes, place } ∈ Node.elementsAll roots
  /-- An element is repeated for what its attribute says, and only then. -/
  repeats : ∀ above tag attributes place selfClosing children,
    Node.StandsIn roots above
      (.element tag attributes place selfClosing children) →
    ∀ items, directive? attributes "v-for" = some items ↔
      above = some (.repeated items
        (.element tag attributes place selfClosing children))
  repeated : ∀ above items child,
    Node.StandsIn roots above (.repeated items child) →
    ∃ tag attributes place selfClosing children,
      child = .element tag attributes place selfClosing children
  choices : ∀ above branches, Node.StandsIn roots above (.choice branches) →
    Node.AreBranches branches
  /-- Texts are apart at the top and below every node. -/
  rootsApart : Node.AreApart roots
  apart : ∀ above node, Node.StandsIn roots above node →
    Node.AreApart node.held
  /-- Elements without an end tag have nothing inside. -/
  childless : ∀ above tag attributes place selfClosing children,
    Node.StandsIn roots above
      (.element tag attributes place selfClosing children) →
    (selfClosing || isVoid tag) = true → children = []

namespace Node

/-! ## Soundness level by level -/

/-- Nodes that are not branches: texts are apart, and no element among them
asks for a repetition. -/
structure AreSiblings (nodes : List Node) : Prop where
  apart : AreApart nodes
  single : ∀ node ∈ nodes, node.source? = none

/-- What a node asks of the nodes directly below it. -/
def IsFormed : Node → Prop
  | element tag _ _ selfClosing children =>
      AreSiblings children ∧
        ((selfClosing || isVoid tag) = true → children = [])
  | repeated source child => child.source? = some source
  | choice branches => AreBranches branches
  | _ => True

/-- A node is formed, and so are all nodes below it. -/
inductive IsSound : Node → Prop where
  | intro {node : Node} (formed : node.IsFormed)
      (inside : ∀ child ∈ node.held, IsSound child) : IsSound node

theorem IsSound.formed {node : Node} (sound : node.IsSound) : node.IsFormed := by
  obtain ⟨formed, _⟩ := sound
  exact formed

theorem IsSound.inside {node : Node} (sound : node.IsSound) :
    ∀ child ∈ node.held, child.IsSound := by
  obtain ⟨_, inside⟩ := sound
  exact inside

/-- Sound nodes that can stand at one level. -/
structure AreLevel (nodes : List Node) : Prop where
  siblings : AreSiblings nodes
  sound : ∀ node ∈ nodes, node.IsSound

/-! ## Texts that stay apart -/

theorem eq_text_of_text? {node : Node} {value : String}
    (told : node.text? = some value) : node = text value := by
  cases node with
  | text given => rw [show given = value by simpa [text?] using told]
  | _ => simp [text?] at told

theorem AreApart.front {nodes more : List Node} (apart : AreApart (nodes ++ more)) :
    AreApart nodes where
  filled member := apart.filled (List.mem_append_left _ member)
  apart front first second back whole :=
    apart.apart front first second (back ++ more) (by simp [whole])

theorem AreApart.concat {nodes : List Node} {node : Node}
    (apart : AreApart nodes) (filled : node ≠ text "")
    (other : EndsInText nodes → ∀ value, node ≠ text value) :
    AreApart (nodes ++ [node]) where
  filled member := by
    rcases List.mem_append.mp member with inside | last
    · exact apart.filled inside
    · exact filled (List.mem_singleton.mp last).symm
  apart front first second back whole := by
    -- The second text is the new node, or both stand in front of it.
    rcases List.eq_nil_or_concat back with rfl | ⟨back, last, rfl⟩
    · have split : nodes ++ [node] =
          (front ++ [text first]) ++ [text second] := by simpa using whole
      obtain ⟨rfl, same⟩ := List.append_inj' split rfl
      exact other ⟨front, first, rfl⟩ second (by simpa using same)
    · have split : nodes ++ [node] =
          (front ++ text first :: text second :: back) ++ [last] := by
        simpa using whole
      obtain ⟨rfl, _⟩ := List.append_inj' split rfl
      exact apart.apart front first second back rfl

theorem AreApart.congr {nodes others : List Node} (apart : AreApart nodes)
    (same : others.map text? = nodes.map text?) : AreApart others where
  filled member := by
    have told : some "" ∈ others.map text? :=
      List.mem_map.mpr ⟨text "", member, rfl⟩
    rw [same] at told
    obtain ⟨node, inside, empty⟩ := List.mem_map.mp told
    rw [eq_text_of_text? empty] at inside
    exact apart.filled inside
  apart front first second back whole := by
    rw [whole] at same
    have split : nodes.map text? =
        front.map text? ++ some first :: some second :: back.map text? := by
      simpa [text?] using same.symm
    obtain ⟨before, behind, rfl, _, rest⟩ := List.map_eq_append_iff.mp split
    obtain ⟨one, more, rfl, left, rest⟩ := List.map_eq_cons_iff.mp rest
    obtain ⟨two, more, rfl, right, _⟩ := List.map_eq_cons_iff.mp rest
    rw [eq_text_of_text? left, eq_text_of_text? right] at apart
    exact apart.apart before first second more rfl

theorem ne_text_of_text? {node : Node} (plain : node.text? = none)
    (value : String) : node ≠ text value := by
  rintro rfl
  simp [text?] at plain

theorem AreApart.concat_plain {nodes : List Node} {node : Node}
    (apart : AreApart nodes) (plain : node.text? = none) :
    AreApart (nodes ++ [node]) :=
  apart.concat (ne_text_of_text? plain "") fun _ => ne_text_of_text? plain

theorem AreApart.not_endsInText {nodes : List Node} {before : String}
    (apart : AreApart (nodes ++ [text before])) : ¬ EndsInText nodes := by
  rintro ⟨front, first, rfl⟩
  exact apart.apart front first before [] (by simp)

theorem AreApart.addText {nodes : List Node} (apart : AreApart nodes)
    {value : String} (filled : value ≠ "") :
    AreApart (Node.addText value nodes) := by
  by_cases ends : EndsInText nodes
  · obtain ⟨front, before, rfl⟩ := ends
    rw [addText_concat_text]
    exact apart.front.concat (by simp [filled])
      fun ends => absurd ends apart.not_endsInText
  · rw [addText_of_not_endsInText ends]
    exact apart.concat (by simpa using filled) fun again => absurd again ends

/-! ## Levels that grow -/

theorem areLevel_nil : AreLevel [] where
  siblings := {
    apart := { filled := by simp, apart := by simp }
    single := by simp }
  sound := by simp

theorem AreLevel.concat {nodes : List Node} {node : Node}
    (level : AreLevel nodes) (apart : AreApart (nodes ++ [node]))
    (single : node.source? = none) (sound : node.IsSound) :
    AreLevel (nodes ++ [node]) where
  siblings := {
    apart
    single := by
      intro given member
      rcases List.mem_append.mp member with inside | last
      · exact level.siblings.single given inside
      · rwa [List.mem_singleton.mp last] }
  sound := by
    intro given member
    rcases List.mem_append.mp member with inside | last
    · exact level.sound given inside
    · rwa [List.mem_singleton.mp last]

theorem isSound_text (value : String) : (text value).IsSound :=
  .intro trivial (by simp [held])

theorem isSound_interpolation (value : String) : (interpolation value).IsSound :=
  .intro trivial (by simp [held])

theorem isSound_comment (value : String) : (comment value).IsSound :=
  .intro trivial (by simp [held])

theorem mem_addText {value : String} {nodes : List Node} {node : Node}
    (member : node ∈ Node.addText value nodes) :
    node ∈ nodes ∨ ∃ said, node = text said := by
  by_cases ends : EndsInText nodes
  · obtain ⟨front, before, rfl⟩ := ends
    rw [addText_concat_text] at member
    rcases List.mem_append.mp member with inside | last
    · exact .inl (List.mem_append_left _ inside)
    · exact .inr ⟨_, List.mem_singleton.mp last⟩
  · rw [addText_of_not_endsInText ends] at member
    rcases List.mem_append.mp member with inside | last
    · exact .inl inside
    · exact .inr ⟨_, List.mem_singleton.mp last⟩

theorem AreLevel.addText {nodes : List Node} (level : AreLevel nodes)
    {value : String} (filled : value ≠ "") :
    AreLevel (Node.addText value nodes) where
  siblings := {
    apart := level.siblings.apart.addText filled
    single := by
      intro node member
      rcases mem_addText member with inside | ⟨said, rfl⟩
      · exact level.siblings.single node inside
      · rfl }
  sound := by
    intro node member
    rcases mem_addText member with inside | ⟨said, rfl⟩
    · exact level.sound node inside
    · exact isSound_text said

theorem areLevel_rawChildren (body : List Char) :
    AreLevel (Draft.rawChildren body) := by
  unfold Draft.rawChildren
  split
  · exact areLevel_nil
  · next filled =>
      have said : String.ofList body ≠ "" := by
        intro empty
        have nothing := congrArg String.toList empty
        simp only [String.toList_ofList] at nothing
        rw [nothing] at filled
        simp at filled
      have level := areLevel_nil.addText said
      exact level

/-! ## Elements -/

section Elements

variable {tag : String} {attributes : List TagAttribute} {place : Place}
  {selfClosing : Bool} {children nodes joined : List Node}

/-- An element, repeated or not, is sound, can be chosen, and can stand among
others. -/
structure IsWhole (node : Node) : Prop where
  sound : node.IsSound
  body : node.IsBody
  single : node.source? = none
  plain : node.text? = none

theorem isWhole_withRepetition (level : AreLevel children)
    (childless : (selfClosing || isVoid tag) = true → children = []) :
    IsWhole (withRepetition attributes
      (element tag attributes place selfClosing children)) := by
  have sound : (element tag attributes place selfClosing children).IsSound :=
    .intro ⟨level.siblings, childless⟩ level.sound
  unfold withRepetition
  split
  · next items asked =>
      exact {
        sound := .intro asked (by simpa [held] using sound)
        body := .inr ⟨_, _, rfl⟩
        single := rfl
        plain := rfl }
  · next free =>
      exact {
        sound
        body := .inl ⟨_, _, _, _, _, rfl, free⟩
        single := free
        plain := rfl }

/-- A body joins the branches of a choice whose last one has a condition. -/
theorem AreBranches.concat {branches : List (Option String × Node)}
    (formed : AreBranches branches) {last : Option String × Node}
    (ends : branches.getLast? = some last) (open_ : last.1 ≠ none)
    {branch : Option String × Node} (body : branch.2.IsBody) :
    AreBranches (branches ++ [branch]) where
  inhabited := by simp
  conditions front given back whole vacant := by
    rcases List.eq_nil_or_concat back with rfl | ⟨back, behind, rfl⟩
    · obtain ⟨rfl, _⟩ := List.append_inj' whole rfl
      exact ⟨formed.inhabited, rfl⟩
    · have split : branches ++ [branch] = (front ++ given :: back) ++ [behind] := by
        simpa using whole
      obtain ⟨rfl, _⟩ := List.append_inj' split rfl
      obtain ⟨_, rfl⟩ := formed.conditions front given back rfl vacant
      obtain rfl : given = last := by simpa using ends
      exact absurd vacant open_
  bodies given member := by
    rcases List.mem_append.mp member with inside | last
    · exact formed.bodies given inside
    · rwa [List.mem_singleton.mp last]

theorem areBranches_singleton {condition : String} {node : Node}
    (body : node.IsBody) : AreBranches [(some condition, node)] where
  inhabited := by simp
  conditions front given back whole vacant := by
    have member : given ∈ [(some condition, node)] := by simp [whole]
    rw [List.mem_singleton.mp member] at vacant
    simp at vacant
  bodies given member := by rwa [List.mem_singleton.mp member]

/-- Joining a choice changes neither the texts nor what else the level is. -/
theorem areLevel_of_addBranch? {condition : Option String} {node : Node}
    (sound : node.IsSound) (body : node.IsBody)
    (level : ∀ given ∈ nodes, given.IsSound)
    (added : addBranch? (condition, node) nodes = some joined) :
    joined.map text? = nodes.map text? ∧
      joined.map source? = nodes.map source? ∧
      ∀ given ∈ joined, given.IsSound := by
  induction nodes generalizing joined with
  | nil => simp [addBranch?] at added
  | cons last nodes induction =>
      have first := level last List.mem_cons_self
      have others : ∀ given ∈ nodes, given.IsSound :=
        fun given member => level given (List.mem_cons_of_mem _ member)
      simp only [addBranch?] at added
      split at added
      · obtain ⟨inner, found, rfl⟩ := Option.map_eq_some_iff.mp added
        obtain ⟨texts, sources, sound⟩ := induction others found
        refine ⟨by simp [texts], by simp [sources], ?_⟩
        intro given member
        rcases List.mem_cons.mp member with rfl | inside
        · exact first
        · exact sound given inside
      · split at added
        · next branches _ =>
            split at added
            · next text branch ends =>
                obtain rfl := by simpa using added
                refine ⟨by simp [text?], by simp [source?], ?_⟩
                have formed : AreBranches branches := first.formed
                have grown : (choice (branches ++ [(condition, node)])).IsSound := by
                  refine .intro (formed.concat ends (by simp) body) ?_
                  intro child member
                  simp only [held, List.map_append, List.mem_append,
                    List.map_cons, List.map_nil, List.mem_singleton] at member
                  rcases member with inside | rfl
                  · exact first.inside child inside
                  · exact sound
                intro given member
                rcases List.mem_cons.mp member with rfl | inside
                · exact grown
                · exact others given inside
            · simp at added
        · simp at added

theorem AreLevel.addElement (level : AreLevel nodes) (inside : AreLevel children)
    (childless : (selfClosing || isVoid tag) = true → children = [])
    (added : Node.addElement tag attributes place selfClosing children nodes =
      .ok joined) : AreLevel joined := by
  have whole : IsWhole (withRepetition attributes
      (element tag attributes place selfClosing children)) :=
    isWhole_withRepetition inside childless
  unfold Node.addElement at added
  simp only at added
  split at added
  · obtain rfl := by simpa using added
    refine level.concat (level.siblings.apart.concat_plain rfl) rfl ?_
    exact .intro (areBranches_singleton whole.body)
      (by simpa [held] using whole.sound)
  · split at added
    · split at added
      · next inner found =>
          obtain rfl := by simpa using added
          obtain ⟨texts, sources, all⟩ := areLevel_of_addBranch? whole.sound
            whole.body
            (fun given member => level.sound given (List.mem_reverse.mp member))
            found
          constructor
          · constructor
            · refine level.siblings.apart.congr ?_
              rw [List.map_reverse, texts, ← List.map_reverse,
                List.reverse_reverse]
            · intro given member
              have asked : given.source? ∈ inner.map source? :=
                List.mem_map_of_mem (List.mem_reverse.mp member)
              rw [sources] at asked
              obtain ⟨other, there, same⟩ := List.mem_map.mp asked
              rw [← same]
              exact level.siblings.single other (List.mem_reverse.mp there)
          · exact fun given member => all given (List.mem_reverse.mp member)
      · simp at added
    · obtain rfl := by simpa using added
      exact level.concat (level.siblings.apart.concat_plain whole.plain)
        whole.single whole.sound

end Elements

end Node

/-! ## Levels of parts -/

/-- What holds of every token that is read: texts are not empty, and only
elements that are neither void nor closed by themselves have a body of text. -/
def Token.IsProper : Token → Prop
  | text value => value ≠ []
  | raw tag _ => (tag.selfClosing || isVoid tag.name) = false
  | _ => True

theorem isProper_bracketStep (first : Char) (rest : List Char) (offset : Nat) :
    (bracketStep first rest offset).1.IsProper := by
  simp only [bracketStep]
  split
  · exact trivial
  · unfold openedStep
    split
    · exact trivial
    · next left =>
        split
        · simp only [Bool.or_eq_true, not_or, Bool.not_eq_true] at left
          simp [Token.IsProper, left]
        · exact trivial
  · exact List.cons_ne_nil _ _

theorem isProper_step (first : Char) (rest : List Char) (offset : Nat) :
    (step first rest offset).1.IsProper := by
  simp only [step]
  split
  · unfold interpolationStep
    split
    · exact trivial
    · exact trivial
  · split
    · unfold commentStep
      split
      · split
        · exact trivial
        · exact trivial
      · exact trivial
    · split
      · unfold declarationStep
        split
        · exact trivial
        · exact trivial
      · split
        · simp only [endTagStep]
          split
          · split
            · exact trivial
            · exact trivial
          · exact trivial
        · split
          · exact isProper_bracketStep first rest offset
          · exact List.cons_ne_nil _ _

theorem isProper_of_mem_tokens (offset : Nat) (text : List Char) :
    ∀ entry ∈ tokens offset text, entry.2.IsProper := by
  fun_induction tokens offset text with
  | case1 => simp
  | case2 offset first rest induction =>
      intro entry member
      rcases List.mem_cons.mp member with rfl | later
      · exact isProper_step first rest offset
      · exact induction entry later

section Levels

variable {locate : Nat → Position} {offset : Nat} {nodes joined : List Node}

theorem Node.AreLevel.addToken (level : AreLevel nodes) {token : Token}
    (proper : token.IsProper) (alone : token.standsAlone = true)
    (added : Node.addToken locate offset nodes token = .ok joined) :
    AreLevel joined := by
  cases token with
  | text value =>
      obtain rfl := by simpa [Node.addToken] using added
      have filled : value ≠ [] := proper
      refine level.addText fun empty => filled ?_
      rw [← String.toList_ofList (l := value), empty]
      rfl
  | interpolation value =>
      obtain rfl := by simpa [Node.addToken] using added
      exact level.concat (level.siblings.apart.concat_plain rfl) rfl
        (isSound_interpolation _)
  | comment value =>
      obtain rfl := by simpa [Node.addToken] using added
      exact level.concat (level.siblings.apart.concat_plain rfl) rfl
        (isSound_comment _)
  | opening tag => exact level.addElement areLevel_nil (fun _ => rfl) added
  | raw tag body =>
      have left : (tag.selfClosing || isVoid tag.name) = false := proper
      refine level.addElement (areLevel_rawChildren body) ?_ added
      intro childless
      rw [left] at childless
      simp at childless
  | closing name => simp [Token.standsAlone] at alone
  | fault fault => simp [Node.addToken] at added

/-- Parts keep a level sound: those inside an element make a level of their
own. -/
theorem Node.AreLevel.addAllTo {entries : List Entry} {parts : List Part}
    (nests : Nests entries parts) (level : AreLevel nodes)
    (proper : ∀ entry ∈ entries, entry.2.IsProper)
    (added : Part.addAllTo locate nodes parts = .ok joined) :
    AreLevel joined := by
  induction nests generalizing nodes joined with
  | nil =>
      obtain rfl := by simpa [Part.addAllTo] using added
      exact level
  | @single offset token entries parts alone rest induction =>
      rw [List.forall_mem_cons] at proper
      simp only [Part.addAllTo, Part.addTo] at added
      split at added
      · next more one =>
          exact induction (level.addToken proper.1 alone one) proper.2 added
      · simp at added
  | @pair offset place tag name inner entries children parts left within same
      rest innerInduction induction =>
      simp only [List.forall_mem_cons, List.forall_mem_append] at proper
      obtain ⟨_, properInside, _, properLater⟩ := proper
      simp only [Part.addAllTo, Part.addTo] at added
      split at added
      · next more one =>
          split at one
          · next given read =>
              -- What is inside starts a level of its own.
              have below := innerInduction areLevel_nil properInside read
              refine induction (level.addElement below ?_ one) properLater added
              intro childless
              rw [left] at childless
              simp at childless
          · simp at one
      · simp at added

theorem Node.areLevel_of_parse {origin : Nat} {text : List Char}
    (success : parse locate origin text = .ok nodes) : AreLevel nodes := by
  obtain ⟨parts, nests, added⟩ := parse_eq_ok_iff.mp success
  exact areLevel_nil.addAllTo nests (isProper_of_mem_tokens origin text) added

end Levels

/-! ## What stands in a sound tree -/

namespace Node

section Standing

variable {roots : List Node} {above : Option Node} {node : Node}

theorem StandsIn.isSound (stands : StandsIn roots above node)
    (level : AreLevel roots) : node.IsSound := by
  induction stands with
  | top member => exact level.sound _ member
  | under stands member sound => exact sound.inside _ member

theorem elements_subset_elementsAll {nodes : List Node}
    (member : node ∈ nodes) : node.elements ⊆ elementsAll nodes := by
  obtain ⟨front, back, rfl⟩ := List.append_of_mem member
  rw [elementsAll_append, elementsAll]
  exact List.Subset.trans (List.subset_append_left _ _)
    (List.subset_append_right _ _)

theorem elementsOfBranches_eq (branches : List (Option String × Node)) :
    elementsOfBranches branches = elementsAll (branches.map Prod.snd) := by
  induction branches with
  | nil => rfl
  | cons branch branches induction =>
      obtain ⟨condition, node⟩ := branch
      simp only [elementsOfBranches, List.map_cons, elementsAll, induction]

theorem elements_subset_of_held {parent : Node} (member : node ∈ parent.held) :
    node.elements ⊆ parent.elements := by
  cases parent with
  | element tag attributes place selfClosing children =>
      exact List.Subset.trans (elements_subset_elementsAll member)
        (List.subset_cons_self _ _)
  | repeated source child =>
      obtain rfl : node = child := by simpa [held] using member
      exact List.Subset.refl _
  | choice branches =>
      rw [elements, elementsOfBranches_eq]
      exact elements_subset_elementsAll member
  | text value => simp [held] at member
  | interpolation value => simp [held] at member
  | comment value => simp [held] at member

/-- What stands in a tree has its elements among those of the tree. -/
theorem StandsIn.elements_subset (stands : StandsIn roots above node) :
    node.elements ⊆ elementsAll roots := by
  induction stands with
  | top member => exact elements_subset_elementsAll member
  | under _ member outside =>
      exact List.Subset.trans (elements_subset_of_held member) outside

theorem IsBody.source? (body : node.IsBody) : node.source? = none := by
  rcases body with ⟨tag, attributes, place, selfClosing, children, rfl, free⟩ |
    ⟨source, child, rfl⟩
  · exact free
  · rfl

theorem IsBody.text? (body : node.IsBody) : node.text? = none := by
  rcases body with ⟨tag, attributes, place, selfClosing, children, rfl, free⟩ |
    ⟨source, child, rfl⟩
  · rfl
  · rfl

/-- What asks for a repetition is what the repetition holds, and nothing
else. -/
theorem StandsIn.source?_iff (stands : StandsIn roots above node)
    (level : AreLevel roots) (items : String) :
    node.source? = some items ↔ above = some (repeated items node) := by
  cases stands with
  | top member => simp [level.siblings.single node member]
  | @under outer parent _ outside member =>
      have formed := (outside.isSound level).formed
      cases parent with
      | element tag attributes place selfClosing children =>
          simp [formed.1.single node member]
      | repeated source child =>
          obtain rfl : node = child := by simpa [held] using member
          have asked : node.source? = some source := formed
          simp [asked]
      | choice branches =>
          obtain ⟨branch, inside, rfl⟩ := List.mem_map.mp member
          simp [(formed.bodies branch inside).source?]
      | text value => simp [held] at member
      | interpolation value => simp [held] at member
      | comment value => simp [held] at member

theorem areApart_of_plain {nodes : List Node}
    (plain : ∀ given ∈ nodes, given.text? = none) : AreApart nodes where
  filled member := by simpa [Node.text?] using plain _ member
  apart front first second back whole := by
    have told := plain (text first) (by simp [whole])
    simp [Node.text?] at told

theorem IsFormed.areApart (formed : node.IsFormed) : AreApart node.held := by
  cases node with
  | element tag attributes place selfClosing children => exact formed.1.apart
  | repeated source child =>
      have asked : child.source? = some source := formed
      refine areApart_of_plain fun given member => ?_
      obtain rfl : given = child := by simpa [held] using member
      cases given with
      | text value => simp [Node.source?] at asked
      | _ => rfl
  | choice branches =>
      refine areApart_of_plain fun given member => ?_
      obtain ⟨branch, inside, rfl⟩ := List.mem_map.mp member
      exact (formed.bodies branch inside).text?
  | text value => exact areApart_of_plain (by simp [held])
  | interpolation value => exact areApart_of_plain (by simp [held])
  | comment value => exact areApart_of_plain (by simp [held])

theorem eq_element_of_source? {items : String}
    (asked : node.source? = some items) :
    ∃ tag attributes place selfClosing children,
      node = element tag attributes place selfClosing children := by
  cases node with
  | element tag attributes place selfClosing children =>
      exact ⟨tag, attributes, place, selfClosing, children, rfl⟩
  | _ => simp [Node.source?] at asked

end Standing

end Node

/-! ## The tree of a range -/

/-- The tree of a range is empty, or the tree of the text of the range. -/
theorem parse_of_parseRange {source : List Char} {start stop : Nat}
    {nodes : List Node} (success : parseRange source start stop = .ok nodes) :
    nodes = [] ∨ ∃ before text after, source = before ++ (text ++ after) ∧
      Text.byteLength before = start ∧
      start + Text.byteLength text = min stop (Text.byteLength source) ∧
      parse (LineIndex.ofText source).location start text = .ok nodes := by
  unfold parseRange at success
  simp only at success
  split at success
  · exact .inl (by simpa using success.symm)
  · split at success
    · next text slice =>
        obtain ⟨before, after, whole, width, length⟩ :=
          Text.eq_append_of_slice? slice
        exact .inr ⟨before, text, after, whole, width, length, success⟩
    · simp at success

theorem hasShape_of_level {source : List Char} {start stop : Nat}
    {roots : List Node} (level : Node.AreLevel roots)
    (places : ∀ element ∈ Node.elementsAll roots,
      HasPlace source start stop element)
    (ordered : (Node.elementsAll roots).Pairwise
      fun first second => first.place.offset < second.place.offset) :
    HasShape source start stop roots where
  places
  ordered
  listed _ _ _ _ _ _ stands := stands.elements_subset List.mem_cons_self
  repeats _ _ _ _ _ _ stands items := stands.source?_iff level items
  repeated _ _ _ stands :=
    Node.eq_element_of_source? (stands.isSound level).formed
  choices _ _ stands := (stands.isSound level).formed
  rootsApart := level.siblings.apart
  apart _ _ stands := (stands.isSound level).formed.areApart
  childless _ _ _ _ _ _ stands := (stands.isSound level).formed.2

theorem hasShape_of_parseRange {source : List Char} {start stop : Nat}
    {roots : List Node} (success : parseRange source start stop = .ok roots) :
    HasShape source start stop roots := by
  rcases parse_of_parseRange success with rfl |
    ⟨before, text, after, rfl, rfl, length, parsed⟩
  · exact hasShape_of_level Node.areLevel_nil (by simp [Node.elementsAll])
      (by simp [Node.elementsAll])
  · refine hasShape_of_level (Node.areLevel_of_parse parsed) ?_
      (elements_pairwise parsed)
    intro element member
    obtain ⟨position, front, back, rfl, offset⟩ :=
      element_at_place parsed element member
    have bracket : Char.utf8Size '<' = 1 := rfl
    simp only [Text.byteLength_append, Text.byteLength, bracket] at length
    exact {
      first := by omega
      last := by
        simp only [Text.byteLength_append, Text.byteLength, bracket]
        omega
      tag := ⟨before ++ front, back ++ after, by simp, by
        rw [offset, Text.byteLength_append]⟩
      position }

/-- A repeated choice in a list, a branch behind a comment, and a void
element. -/
theorem hasShape_of_parseRange_list :
    let source := ("<template><ul>\n<li v-if=\"a\" v-for=\"x in xs\">é</li> " ++
      "<!-- c --><li v-else><br></li></ul></template>").toList
    ∃ roots, parseRange source 10 87 = .ok roots ∧
      (Node.elementsAll roots).map Element.tag = ["ul", "li", "li", "br"] ∧
      HasShape source 10 87 roots := by
  intro source
  obtain ⟨roots, success, tags⟩ : ∃ roots, parseRange source 10 87 = .ok roots ∧
      (Node.elementsAll roots).map Element.tag = ["ul", "li", "li", "br"] :=
    exists_ok_of_toOption_map (by decide +kernel)
  exact ⟨roots, success, tags, hasShape_of_parseRange success⟩

end Template

end SourceMark
