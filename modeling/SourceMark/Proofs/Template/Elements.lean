import SourceMark.Template.Annotation
import SourceMark.Proofs.Template.Rewriting

/-!
# The elements of a tree

However elements are nested, repeated and chosen among, a tree lists them in
the order in which their tags stand in the text.  What annotation counts and
inserts can be read off this list.
-/

namespace SourceMark

namespace Template

/-- An element without its children. -/
structure Element where
  tag : String
  attributes : List TagAttribute
  place : Place
deriving Repr, DecidableEq

mutual

/-- The elements of a node in the order of the text. -/
def Node.elements : Node → List Element
  | .element tag attributes place _ children =>
      { tag, attributes, place } :: Node.elementsAll children
  | .repeated _ child => child.elements
  | .choice branches => Node.elementsOfBranches branches
  | .text _ => []
  | .interpolation _ => []
  | .comment _ => []

/-- The elements of some nodes in order. -/
def Node.elementsAll : List Node → List Element
  | [] => []
  | node :: nodes => node.elements ++ Node.elementsAll nodes

/-- The elements of some branches in order. -/
def Node.elementsOfBranches : List (Option String × Node) → List Element
  | [] => []
  | (_, node) :: branches =>
      node.elements ++ Node.elementsOfBranches branches

end

namespace Node

theorem elementsAll_append (first second : List Node) :
    elementsAll (first ++ second) = elementsAll first ++ elementsAll second := by
  induction first with
  | nil => rfl
  | cons node nodes induction =>
      simp [elementsAll, induction]

theorem elementsAll_singleton (node : Node) :
    elementsAll [node] = node.elements := by
  simp [elementsAll]

theorem elementsOfBranches_append (first second : List (Option String × Node)) :
    elementsOfBranches (first ++ second) =
      elementsOfBranches first ++ elementsOfBranches second := by
  induction first with
  | nil => rfl
  | cons branch branches induction =>
      obtain ⟨condition, node⟩ := branch
      simp [elementsOfBranches, induction]

theorem elements_of_isGap {node : Node} (gap : node.isGap = true) :
    node.elements = [] := by
  cases node with
  | text value => rfl
  | comment value => rfl
  | element tag attributes place selfClosing children => simp [isGap] at gap
  | repeated source child => simp [isGap] at gap
  | choice branches => simp [isGap] at gap
  | interpolation value => rfl

theorem elementsAll_addText (value : String) (nodes : List Node) :
    elementsAll (addText value nodes) = elementsAll nodes := by
  fun_induction addText value nodes with
  | case1 => rfl
  | case2 before => rfl
  | case3 node nodes other induction =>
      simp only [elementsAll, induction]

theorem elementsAll_addBranch? {condition : Option String} {node : Node}
    {nodes joined : List Node}
    (added : addBranch? (condition, node) nodes = some joined) :
    elementsAll joined.reverse =
      elementsAll nodes.reverse ++ node.elements := by
  induction nodes generalizing joined with
  | nil => simp [addBranch?] at added
  | cons last nodes induction =>
      simp only [addBranch?] at added
      split at added
      · next gap =>
          obtain ⟨inner, found, rfl⟩ := Option.map_eq_some_iff.mp added
          have nothing := elements_of_isGap gap
          simp [elementsAll_append, elementsAll_singleton, nothing,
            induction found]
      · split at added
        · next branches =>
            split at added
            · obtain rfl := by simpa using added
              simp [elementsAll_append, elementsAll_singleton, elements,
                elementsOfBranches_append, elementsOfBranches]
            · simp at added
        · simp at added

theorem elements_withRepetition (attributes : List TagAttribute) (node : Node) :
    (withRepetition attributes node).elements = node.elements := by
  unfold withRepetition
  split
  · rfl
  · rfl

/-- A finished element comes behind the elements that are there, with its
children. -/
theorem elementsAll_addElement {tag : String} {attributes : List TagAttribute}
    {place : Place} {selfClosing : Bool} {children nodes joined : List Node}
    (added : addElement tag attributes place selfClosing children nodes =
      .ok joined) :
    elementsAll joined = elementsAll nodes ++
      { tag, attributes, place } :: elementsAll children := by
  unfold addElement at added
  simp only at added
  split at added
  · obtain rfl := by simpa using added
    simp [elementsAll_append, elementsAll_singleton, elements,
      elementsOfBranches, elements_withRepetition]
  · split at added
    · split at added
      · next inner found =>
          obtain rfl := by simpa using added
          rw [elementsAll_addBranch? found, List.reverse_reverse,
            elements_withRepetition, elements]
      · simp at added
    · obtain rfl := by simpa using added
      simp [elementsAll_append, elementsAll_singleton, elements,
        elements_withRepetition]

end Node

namespace Draft

/-- The elements of the open elements, outermost first. -/
def elementsOfOpened : List OpenElement → List Element
  | [] => []
  | inner :: outer =>
      elementsOfOpened outer ++
        { tag := inner.tag.name, attributes := inner.tag.attributes
          place := inner.place } :: Node.elementsAll inner.children

/-- The elements of a draft in the order of the text. -/
def elements (draft : Draft) : List Element :=
  Node.elementsAll draft.roots ++ elementsOfOpened draft.opened

theorem elements_mapNodes {change : List Node → List Node}
    (same : ∀ nodes, Node.elementsAll (change nodes) = Node.elementsAll nodes)
    (draft : Draft) : (draft.mapNodes change).elements = draft.elements := by
  obtain ⟨opened, roots⟩ := draft
  cases opened with
  | nil => simp [mapNodes, elements, same]
  | cons inner outer => simp [mapNodes, elements, elementsOfOpened, same]

theorem elements_addElement {tag : OpenTag} {place : Place}
    {children : List Node} {draft later : Draft}
    (added : draft.addElement tag place children = .ok later) :
    later.elements = draft.elements ++
      { tag := tag.name, attributes := tag.attributes, place } ::
        Node.elementsAll children := by
  obtain ⟨opened, roots⟩ := draft
  unfold addElement at added
  cases opened with
  | nil =>
      simp only at added
      split at added
      · next joined done =>
          obtain rfl := by simpa using added
          simp [elements, elementsOfOpened, Node.elementsAll_addElement done]
      · simp at added
  | cons inner outer =>
      simp only at added
      split at added
      · next joined done =>
          obtain rfl := by simpa using added
          simp [elements, elementsOfOpened, Node.elementsAll_addElement done]
      · simp at added

/-- Closing an element moves it and its children, but changes no order. -/
theorem elements_close {name : List Char} {draft later : Draft}
    (closed : draft.close name = .ok later) :
    later.elements = draft.elements := by
  obtain ⟨opened, roots⟩ := draft
  unfold close at closed
  cases opened with
  | nil => simp at closed
  | cons inner outer =>
      simp only at closed
      split at closed
      · rw [elements_addElement closed]
        simp [elements, elementsOfOpened]
      · split at closed
        · simp at closed
        · simp at closed

/-- The element of a tag. -/
def elementOf (locate : Nat → Position) (entry : Nat × OpenTag) : Element where
  tag := entry.2.name
  attributes := entry.2.attributes
  place := { offset := entry.1, position := locate entry.1 }

theorem elementsAll_rawChildren (body : List Char) :
    Node.elementsAll (rawChildren body) = [] := by
  unfold rawChildren
  split
  · rfl
  · rfl

/-- A token adds the element of its tag behind all others. -/
theorem elements_add {locate : Nat → Position} {draft later : Draft}
    {offset : Nat} {token : Token}
    (added : draft.add locate offset token = .ok later) :
    later.elements = draft.elements ++
      (tagsOf [(offset, token)]).map (elementOf locate) := by
  cases token with
  | text value =>
      obtain rfl := by simpa [add] using added
      simp [tagsOf, Token.tag?,
        elements_mapNodes (Node.elementsAll_addText _)]
  | interpolation value =>
      obtain rfl := by simpa [add] using added
      rw [elements_mapNodes]
      · simp [tagsOf, Token.tag?]
      · simp [Node.elementsAll_append, Node.elementsAll, Node.elements]
  | comment value =>
      obtain rfl := by simpa [add] using added
      rw [elements_mapNodes]
      · simp [tagsOf, Token.tag?]
      · simp [Node.elementsAll_append, Node.elementsAll, Node.elements]
  | opening tag =>
      simp only [add] at added
      split at added
      · rw [elements_addElement added]
        rfl
      · obtain rfl := by simpa using added
        simp [elements, elementsOfOpened, tagsOf, Token.tag?, elementOf,
          Node.elementsAll]
  | raw tag body =>
      rw [elements_addElement added, elementsAll_rawChildren]
      rfl
  | closing name =>
      rw [elements_close added]
      simp [tagsOf, Token.tag?]
  | fault fault => simp [add] at added

/-- All tokens add the elements of their tags, and none of them is a fault. -/
theorem elements_addAll {locate : Nat → Position} {draft later : Draft}
    {entries : List Entry}
    (added : addAll locate draft entries = .ok later) :
    AreSound entries ∧
      later.elements = draft.elements ++
        (tagsOf entries).map (elementOf locate) := by
  induction entries generalizing draft with
  | nil =>
      obtain rfl := by simpa [addAll] using added
      simp [AreSound, tagsOf]
  | cons entry entries induction =>
      obtain ⟨offset, token⟩ := entry
      simp only [addAll] at added
      split at added
      · next between first =>
          obtain ⟨sound, elements⟩ := induction added
          constructor
          · intro other member fault faulty
            rcases List.mem_cons.mp member with rfl | member
            · rw [show token = .fault fault from faulty] at first
              simp [add] at first
            · exact sound other member fault faulty
          · rw [elements, elements_add first, List.append_assoc,
              ← List.map_append, tagsOf_cons, tagsOf_cons]
            simp [tagsOf]
      · simp at added

end Draft

/-- A tree has the elements of the tags of its text, and the text has no
fault. -/
theorem elements_of_parse {locate : Nat → Position} {origin : Nat}
    {text : List Char} {nodes : List Node}
    (success : parse locate origin text = .ok nodes) :
    AreSound (tokens origin text) ∧
      Node.elementsAll nodes =
        (tagsOf (tokens origin text)).map (Draft.elementOf locate) := by
  unfold parse at success
  split at success
  · next draft added =>
      obtain ⟨sound, elements⟩ := Draft.elements_addAll added
      refine ⟨sound, ?_⟩
      unfold Draft.finish at success
      split at success
      · next closed =>
          obtain rfl := by simpa using success
          simpa [Draft.elements, Draft.empty, closed, Draft.elementsOfOpened,
            Node.elementsAll] using elements
      · simp at success
  · simp at success

end Template

end SourceMark
