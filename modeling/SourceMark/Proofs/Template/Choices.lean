import SourceMark.Proofs.Template.Parts
import SourceMark.Proofs.Template.SlicedTrees

/-!
# Which branches have a choice to belong to

Branches are folded into a node that was there before, across the gaps that
stand in between.  Whether there is such a node can be told from the parts of
the template: the last one that is no gap has to be an element after which
another branch may come.
-/

namespace SourceMark

namespace Template

namespace OpenTag

/-- Whether the tag has an attribute of that name. -/
def has (tag : OpenTag) (name : String) : Bool :=
  tag.attributes.any fun given => given.name == name

/-- Whether the element belongs to a choice that another one has opened. -/
def continuesChoice (tag : OpenTag) : Bool :=
  (tag.has "v-else-if" || tag.has "v-else") && !tag.has "v-if"

/-- Whether another branch may come behind the element. -/
def awaitsBranch (tag : OpenTag) : Bool :=
  tag.has "v-if" || tag.has "v-else-if"

end OpenTag

namespace Part

/-- The tag of an element. -/
def tag? : Part → Option OpenTag
  | single _ token => token.tag?
  | pair _ tag _ => some tag

/-- Whether a part may stand between the branches of a choice. -/
def isGap : Part → Bool
  | single _ (.text value) => Text.isBlankText value
  | single _ (.comment _) => true
  | _ => false

/-- Parts end with an element after which another branch may come, and gaps. -/
def AwaitBranch (parts : List Part) : Prop :=
  ∃ earlier part gaps tag, parts = earlier ++ part :: gaps ∧
    (∀ gap ∈ gaps, gap.isGap = true) ∧ part.tag? = some tag ∧
    tag.awaitsBranch = true

/-- Every element that belongs to a choice comes behind an element after which
another branch may come, with gaps in between only, at all levels. -/
inductive AreInOrder : List Part → Prop where
  | intro {parts : List Part}
      (here : ∀ front part back tag, parts = front ++ part :: back →
        part.tag? = some tag → tag.continuesChoice = true → AwaitBranch front)
      (within : ∀ offset tag inner, pair offset tag inner ∈ parts →
        AreInOrder inner) : AreInOrder parts

/-! ## Parts in order -/

theorem not_awaitBranch_nil : ¬ AwaitBranch [] := by
  rintro ⟨earlier, part, gaps, tag, whole, _⟩
  simp at whole

/-- Behind a gap another branch may come when it may in front of it; behind any
other part, when that is an element which says so. -/
theorem awaitBranch_concat_iff (parts : List Part) (part : Part) :
    AwaitBranch (parts ++ [part]) ↔
      part.isGap = true ∧ AwaitBranch parts ∨
        ∃ tag, part.tag? = some tag ∧ tag.awaitsBranch = true := by
  constructor
  · rintro ⟨earlier, other, gaps, tag, whole, blank, given, awaits⟩
    -- The part is the element itself, or the last of the gaps.
    rcases List.eq_nil_or_concat gaps with rfl | ⟨others, gap, rfl⟩
    · obtain ⟨rfl, last⟩ := List.append_inj' whole rfl
      obtain rfl : part = other := by simpa using last
      exact .inr ⟨tag, given, awaits⟩
    · rw [List.concat_eq_append, ← List.cons_append, ← List.append_assoc]
        at whole
      obtain ⟨rfl, last⟩ := List.append_inj' whole rfl
      obtain rfl : part = gap := by simpa using last
      refine .inl ⟨blank part (by simp), earlier, other, others, tag, rfl, ?_,
        given, awaits⟩
      exact fun gap member => blank gap (by simp [member])
  · rintro (⟨gap, earlier, other, gaps, tag, rfl, blank, given, awaits⟩ |
      ⟨tag, given, awaits⟩)
    · refine ⟨earlier, other, gaps ++ [part], tag, by simp, ?_, given, awaits⟩
      intro between member
      rcases List.mem_append.mp member with inside | last
      · exact blank between inside
      · obtain rfl := List.mem_singleton.mp last
        exact gap
    · exact ⟨parts, part, [], tag, rfl, by simp, given, awaits⟩

/-- Parts are in order behind other ones. -/
structure FollowInOrder (front parts : List Part) : Prop where
  here : ∀ middle part back tag, parts = middle ++ part :: back →
    part.tag? = some tag → tag.continuesChoice = true →
    AwaitBranch (front ++ middle)
  within : ∀ offset tag inner, pair offset tag inner ∈ parts → AreInOrder inner

theorem areInOrder_iff (parts : List Part) :
    AreInOrder parts ↔ FollowInOrder [] parts := by
  constructor
  · rintro ⟨here, within⟩
    exact ⟨here, within⟩
  · rintro ⟨here, within⟩
    exact ⟨here, within⟩

theorem followInOrder_nil (front : List Part) : FollowInOrder front [] where
  here := by simp
  within := by simp

theorem followInOrder_cons_iff (front : List Part) (part : Part)
    (parts : List Part) :
    FollowInOrder front (part :: parts) ↔
      (∀ tag, part.tag? = some tag → tag.continuesChoice = true →
        AwaitBranch front) ∧
      (∀ offset tag inner, part = pair offset tag inner → AreInOrder inner) ∧
      FollowInOrder (front ++ [part]) parts := by
  constructor
  · rintro ⟨here, within⟩
    refine ⟨?_, ?_, ?_, ?_⟩
    · intro tag given continues
      simpa using here [] part parts tag rfl given continues
    · rintro offset tag inner rfl
      exact within offset tag inner (by simp)
    · rintro middle other back tag rfl given continues
      simpa using here (part :: middle) other back tag rfl given continues
    · intro offset tag inner member
      exact within offset tag inner (List.mem_cons_of_mem _ member)
  · rintro ⟨first, inside, here, within⟩
    constructor
    · intro middle other back tag whole given continues
      cases middle with
      | nil =>
          obtain ⟨rfl, rfl⟩ := by simpa using whole
          simpa using first tag given continues
      | cons next middle =>
          obtain ⟨rfl, rfl⟩ := by simpa using whole
          simpa using here middle other back tag rfl given continues
    · intro offset tag inner member
      rcases List.mem_cons.mp member with same | later
      · exact inside offset tag inner same.symm
      · exact within offset tag inner later

end Part

/-! ## Nodes that take a branch -/

theorem isSome_directive? (tag : OpenTag) (name : String) :
    (directive? tag.attributes name).isSome = tag.has name := by
  rw [directive?, Option.isSome_map, findAttribute?, List.isSome_find?]
  rfl

namespace Node

/-- Whether the choice that ends some nodes, given in reverse, takes another
branch. -/
def takesBranch : List Node → Bool
  | [] => false
  | node :: nodes =>
      if node.isGap then
        takesBranch nodes
      else
        match node with
        | choice branches => branches.getLast?.any fun branch => branch.1.isSome
        | _ => false

theorem takesBranch_of_isGap {node : Node} (gap : node.isGap = true)
    (nodes : List Node) : takesBranch (node :: nodes) = takesBranch nodes := by
  rw [takesBranch.eq_def]
  simp only [gap, if_true]

theorem isSome_addBranch? (branch : Option String × Node) (nodes : List Node) :
    (addBranch? branch nodes).isSome = takesBranch nodes := by
  induction nodes with
  | nil => rfl
  | cons node nodes induction =>
      by_cases gap : node.isGap = true
      · simp [addBranch?, takesBranch, gap, induction]
      · simp only [addBranch?, takesBranch, if_neg gap]
        cases node with
        | choice branches =>
            simp only
            cases branches.getLast? with
            | none => rfl
            | some last =>
                obtain ⟨condition, node⟩ := last
                cases condition with
                | none => rfl
                | some condition => rfl
        | _ => rfl

/-- A branch with a condition leaves the choice open for another one. -/
theorem takesBranch_of_addBranch? {condition : Option String} {node : Node}
    {nodes joined : List Node}
    (added : addBranch? (condition, node) nodes = some joined) :
    takesBranch joined = condition.isSome := by
  induction nodes generalizing joined with
  | nil => simp [addBranch?] at added
  | cons last nodes induction =>
      simp only [addBranch?] at added
      split at added
      · next gap =>
          obtain ⟨inner, found, rfl⟩ := Option.map_eq_some_iff.mp added
          rw [takesBranch_of_isGap gap, induction found]
      · split at added
        · next branches =>
            split at added
            · obtain rfl := by simpa using added
              simp [takesBranch, isGap]
            · simp at added
        · simp at added

theorem isBlankText_append (first second : List Char) :
    Text.isBlankText (first ++ second) =
      (Text.isBlankText first && Text.isBlankText second) := by
  simp [Text.isBlankText]

theorem addText_concat (value : String) (nodes : List Node) (last : Node) :
    addText value (nodes ++ [last]) = nodes ++ addText value [last] := by
  induction nodes with
  | nil => rfl
  | cons node nodes induction =>
      rw [List.cons_append, addText_cons value node (by simp), induction,
        List.cons_append]

/-- The last node is a text. -/
def EndsInText (nodes : List Node) : Prop :=
  ∃ front value, nodes = front ++ [text value]

theorem not_endsInText_nil : ¬ EndsInText [] := by
  simp [EndsInText]

theorem not_endsInText_concat (nodes : List Node) (node : Node)
    (plain : ∀ value, node ≠ text value) : ¬ EndsInText (nodes ++ [node]) := by
  rintro ⟨front, value, whole⟩
  obtain ⟨_, same⟩ := List.append_inj' whole rfl
  exact plain value (by simpa using same)

theorem addText_concat_text (value before : String) (nodes : List Node) :
    addText value (nodes ++ [text before]) =
      nodes ++ [text (before ++ value)] := by
  rw [addText_concat]
  rfl

theorem addText_of_not_endsInText {nodes : List Node}
    (other : ¬ EndsInText nodes) (value : String) :
    addText value nodes = nodes ++ [text value] := by
  rcases List.eq_nil_or_concat nodes with rfl | ⟨front, last, rfl⟩
  · rfl
  · rw [List.concat_eq_append] at other ⊢
    rw [addText_concat]
    cases last with
    | text before => exact absurd ⟨front, before, rfl⟩ other
    | _ => simp [addText]

theorem takesBranch_text (value : String) (nodes : List Node) :
    takesBranch (text value :: nodes) =
      (Text.isBlankText value.toList && takesBranch nodes) := by
  cases blank : Text.isBlankText value.toList with
  | true => simp [takesBranch, isGap, blank]
  | false => simp [takesBranch, isGap, blank]

/-- A blank text is a gap, also where it becomes one with a text before it. -/
theorem takesBranch_addText (value : String) (nodes : List Node) :
    takesBranch (addText value nodes).reverse =
      (Text.isBlankText value.toList && takesBranch nodes.reverse) := by
  by_cases ends : EndsInText nodes
  · obtain ⟨front, before, rfl⟩ := ends
    rw [addText_concat_text, List.reverse_concat, List.reverse_concat,
      takesBranch_text, takesBranch_text, String.toList_append,
      isBlankText_append, Bool.and_comm (Text.isBlankText before.toList),
      Bool.and_assoc]
  · rw [addText_of_not_endsInText ends, List.reverse_concat, takesBranch_text]

section Elements

variable {tag : OpenTag} {place : Place} {children nodes joined : List Node}

theorem takesBranch_withRepetition (nodes : List Node) :
    takesBranch (withRepetition tag.attributes (element tag.name tag.attributes
      place tag.selfClosing children) :: nodes) = false := by
  unfold withRepetition
  split
  · simp [takesBranch, isGap]
  · simp [takesBranch, isGap]

/-- An element is added unless it belongs to a choice and none takes it. -/
theorem addElement_isOk_iff :
    (∃ joined, addElement tag.name tag.attributes place tag.selfClosing children
        nodes = .ok joined) ↔
      (tag.continuesChoice = true → takesBranch nodes.reverse = true) := by
  have opens := isSome_directive? tag "v-if"
  have goesOn := isSome_directive? tag "v-else-if"
  have ends := isSome_directive? tag "v-else"
  rw [directive?, Option.isSome_map] at ends
  unfold addElement OpenTag.continuesChoice
  simp only [goesOn, ends, ← opens]
  cases directive? tag.attributes "v-if" with
  | some condition => simp
  | none =>
      cases (tag.has "v-else-if" || tag.has "v-else") with
      | false => simp
      | true =>
          rw [← isSome_addBranch? (directive? tag.attributes "v-else-if",
            withRepetition tag.attributes (element tag.name tag.attributes place
              tag.selfClosing children))]
          cases addBranch? _ nodes.reverse with
          | none => simp
          | some joined => simp

theorem takesBranch_addElement
    (added : addElement tag.name tag.attributes place tag.selfClosing children
      nodes = .ok joined) :
    takesBranch joined.reverse = tag.awaitsBranch := by
  have opens := isSome_directive? tag "v-if"
  have goesOn := isSome_directive? tag "v-else-if"
  unfold addElement at added
  simp only [goesOn] at added
  rw [OpenTag.awaitsBranch, ← opens]
  split at added
  · next condition given =>
      obtain rfl := by simpa using added
      simp [takesBranch, isGap, given]
  · next free =>
      rw [free]
      split at added
      · split at added
        · next inner found =>
            obtain rfl := by simpa using added
            rw [List.reverse_reverse, takesBranch_of_addBranch? found, goesOn]
            rfl
        · simp at added
      · next plain =>
          obtain rfl := by simpa using added
          rw [List.reverse_append, List.reverse_singleton,
            List.singleton_append, takesBranch_withRepetition]
          simp at plain
          simp [plain.1]

end Elements

end Node

end Template

end SourceMark
