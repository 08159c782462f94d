import SourceMark.Proofs.Template.Parts

/-!
# The outline of a tree

Without its texts, repetitions and choices a tree is an outline: its elements,
each with the elements inside it.  The outline of a tree is the one of the parts
that its tokens nest in, although elements are attached when they end and
branches are folded into nodes that were there before.
-/

namespace SourceMark

namespace Template

/-- An element with the outlines of the elements inside it. -/
inductive Outline where
  | element (head : Element) (inner : List Outline)

mutual

/-- The outlines of the outermost elements of a node. -/
def Node.outline : Node → List Outline
  | .element tag attributes place _ children =>
      [.element { tag, attributes, place } (Node.outlineAll children)]
  | .repeated _ child => child.outline
  | .choice branches => Node.outlineOfBranches branches
  | .text _ => []
  | .interpolation _ => []
  | .comment _ => []

/-- The outlines of the outermost elements of some nodes. -/
def Node.outlineAll : List Node → List Outline
  | [] => []
  | node :: nodes => node.outline ++ Node.outlineAll nodes

/-- The outlines of the outermost elements of some branches. -/
def Node.outlineOfBranches : List (Option String × Node) → List Outline
  | [] => []
  | (_, node) :: branches => node.outline ++ Node.outlineOfBranches branches

end

mutual

/-- The outline of a part, when it is an element. -/
def Part.outline (locate : Nat → Position) : Part → List Outline
  | .single offset token =>
      (token.tag?.map fun tag =>
        Outline.element (Draft.elementOf locate (offset, tag)) []).toList
  | .pair offset tag inner =>
      [.element (Draft.elementOf locate (offset, tag))
        (Part.outlineAll locate inner)]

/-- The outlines of some parts. -/
def Part.outlineAll (locate : Nat → Position) : List Part → List Outline
  | [] => []
  | part :: parts => part.outline locate ++ Part.outlineAll locate parts

end

namespace Node

theorem outlineAll_append (first second : List Node) :
    outlineAll (first ++ second) = outlineAll first ++ outlineAll second := by
  induction first with
  | nil => rfl
  | cons node nodes induction => simp [outlineAll, induction]

theorem outlineAll_singleton (node : Node) :
    outlineAll [node] = node.outline := by
  simp [outlineAll]

theorem outlineOfBranches_append (first second : List (Option String × Node)) :
    outlineOfBranches (first ++ second) =
      outlineOfBranches first ++ outlineOfBranches second := by
  induction first with
  | nil => rfl
  | cons branch branches induction =>
      obtain ⟨condition, node⟩ := branch
      simp [outlineOfBranches, induction]

theorem outline_of_isGap {node : Node} (gap : node.isGap = true) :
    node.outline = [] := by
  cases node with
  | text value => rfl
  | comment value => rfl
  | interpolation value => rfl
  | element tag attributes place selfClosing children => simp [isGap] at gap
  | repeated source child => simp [isGap] at gap
  | choice branches => simp [isGap] at gap

theorem outlineAll_addText (value : String) (nodes : List Node) :
    outlineAll (addText value nodes) = outlineAll nodes := by
  fun_induction addText value nodes with
  | case1 => rfl
  | case2 before => rfl
  | case3 node nodes other induction => simp only [outlineAll, induction]

theorem outlineAll_addBranch? {condition : Option String} {node : Node}
    {nodes joined : List Node}
    (added : addBranch? (condition, node) nodes = some joined) :
    outlineAll joined.reverse = outlineAll nodes.reverse ++ node.outline := by
  induction nodes generalizing joined with
  | nil => simp [addBranch?] at added
  | cons last nodes induction =>
      simp only [addBranch?] at added
      split at added
      · next gap =>
          obtain ⟨inner, found, rfl⟩ := Option.map_eq_some_iff.mp added
          simp [outlineAll_append, outlineAll_singleton, outline_of_isGap gap,
            induction found]
      · split at added
        · next branches =>
            split at added
            · obtain rfl := by simpa using added
              simp [outlineAll_append, outlineAll_singleton, outline,
                outlineOfBranches_append, outlineOfBranches]
            · simp at added
        · simp at added

theorem outline_withRepetition (attributes : List TagAttribute) (node : Node) :
    (withRepetition attributes node).outline = node.outline := by
  unfold withRepetition
  split
  · rfl
  · rfl

/-- A finished element comes behind the others, with what is inside it. -/
theorem outlineAll_addElement {tag : String} {attributes : List TagAttribute}
    {place : Place} {selfClosing : Bool} {children nodes joined : List Node}
    (added : addElement tag attributes place selfClosing children nodes =
      .ok joined) :
    outlineAll joined = outlineAll nodes ++
      [.element { tag, attributes, place } (outlineAll children)] := by
  unfold addElement at added
  simp only at added
  split at added
  · obtain rfl := by simpa using added
    simp [outlineAll_append, outlineAll_singleton, outline, outlineOfBranches,
      outline_withRepetition]
  · split at added
    · split at added
      · next inner found =>
          obtain rfl := by simpa using added
          rw [outlineAll_addBranch? found, List.reverse_reverse,
            outline_withRepetition, outline]
      · simp at added
    · obtain rfl := by simpa using added
      simp [outlineAll_append, outlineAll_singleton, outline,
        outline_withRepetition]

theorem outlineAll_rawChildren (body : List Char) :
    outlineAll (Draft.rawChildren body) = [] := by
  unfold Draft.rawChildren
  split
  · rfl
  · rfl

end Node

section Adding

variable {locate : Nat → Position}

theorem Node.outlineAll_addToken {offset : Nat} {token : Token}
    {nodes more : List Node}
    (added : Node.addToken locate offset nodes token = .ok more) :
    outlineAll more = outlineAll nodes ++
      Part.outline locate (.single offset token) := by
  cases token with
  | text value =>
      obtain rfl := by simpa [addToken] using added
      simp [outlineAll_addText, Part.outline, Token.tag?]
  | interpolation value =>
      obtain rfl := by simpa [addToken] using added
      simp [outlineAll_append, outlineAll, outline, Part.outline, Token.tag?]
  | comment value =>
      obtain rfl := by simpa [addToken] using added
      simp [outlineAll_append, outlineAll, outline, Part.outline, Token.tag?]
  | opening tag => exact outlineAll_addElement added
  | raw tag body =>
      rw [outlineAll_addElement added, outlineAll_rawChildren]
      rfl
  | closing name => simp [addToken] at added
  | fault fault => simp [addToken] at added

mutual

theorem Part.outlineAll_addTo {nodes more : List Node} (part : Part)
    (added : part.addTo locate nodes = .ok more) :
    Node.outlineAll more = Node.outlineAll nodes ++ part.outline locate := by
  cases part with
  | single offset token => exact Node.outlineAll_addToken added
  | pair offset tag inner =>
      simp only [Part.addTo] at added
      split at added
      · next children within =>
          have inside := Part.outlineAll_addAllTo inner within
          rw [Node.outlineAll_addElement added, inside]
          rfl
      · simp at added

/-- Adding parts adds their outlines. -/
theorem Part.outlineAll_addAllTo {nodes more : List Node} (parts : List Part)
    (added : Part.addAllTo locate nodes parts = .ok more) :
    Node.outlineAll more =
      Node.outlineAll nodes ++ Part.outlineAll locate parts := by
  cases parts with
  | nil =>
      obtain rfl := by simpa [Part.addAllTo] using added
      simp [Part.outlineAll]
  | cons part parts =>
      simp only [Part.addAllTo] at added
      split at added
      · next between one =>
          rw [Part.outlineAll_addAllTo parts added,
            Part.outlineAll_addTo part one, List.append_assoc]
          rfl
      · simp at added

end

end Adding

end Template

end SourceMark
