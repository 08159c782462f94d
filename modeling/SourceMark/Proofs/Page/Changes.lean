import SourceMark.Page.Document

/-!
# Pages that change

A page is changed node by node.  No change takes a node away or turns it into
another kind of node, so an element that is remembered stays an element.
-/

namespace SourceMark

namespace Page

/-- A change of a document. -/
inductive Change where
  | createElement (tag : String)
  | createText (value : String)
  | attachShadow (host : NodeId)
  | append (parent node : NodeId)
  | setAttribute (node : NodeId) (name value : String)
  | removeAttribute (node : NodeId) (name : String)
deriving Repr, DecidableEq

namespace Document

/-- The document after a change. -/
def after (document : Document) : Change → Document
  | .createElement tag => (document.createElement tag).2
  | .createText value => (document.createText value).2
  | .attachShadow host => (document.attachShadow host).2
  | .append parent node => document.append parent node
  | .setAttribute node name value => document.setAttribute node name value
  | .removeAttribute node name => document.removeAttribute node name

variable {document : Document} {node : NodeId}

theorem isElement_iff :
    document.isElement node = true ↔ ∃ record tag attributes,
      document.record? node = some record ∧
        record.kind = .element tag attributes := by
  unfold isElement kind?
  constructor
  · intro holds
    split at holds
    · next tag attributes equality =>
        obtain ⟨record, found, kind⟩ := Option.map_eq_some_iff.mp equality
        exact ⟨record, tag, attributes, found, kind⟩
    · simp at holds
  · rintro ⟨record, tag, attributes, found, kind⟩
    simp [found, kind]

theorem isElement_create (kind : NodeKind)
    (holds : document.isElement node = true) :
    (document.create kind).2.isElement node = true := by
  obtain ⟨record, tag, attributes, found, isKind⟩ := isElement_iff.mp holds
  apply isElement_iff.mpr
  refine ⟨record, tag, attributes, ?_, isKind⟩
  have inside : node.index < document.nodes.length :=
    (List.getElem?_eq_some_iff.mp found).1
  unfold create record?
  rw [List.getElem?_append_left inside]
  exact found

/-- A change of one record that keeps elements elements. -/
theorem isElement_modify {change : NodeRecord → NodeRecord}
    (keeps : ∀ record tag attributes, record.kind = .element tag attributes →
      ∃ tag attributes, (change record).kind = .element tag attributes)
    (other : NodeId) (holds : document.isElement node = true) :
    (document.modify other change).isElement node = true := by
  obtain ⟨record, tag, attributes, found, kind⟩ := isElement_iff.mp holds
  apply isElement_iff.mpr
  unfold record? at found
  by_cases same : other.index = node.index
  · obtain ⟨newTag, newAttributes, newKind⟩ := keeps record tag attributes kind
    refine ⟨change record, newTag, newAttributes, ?_, newKind⟩
    simp [modify, record?, same, found]
  · refine ⟨record, tag, attributes, ?_, kind⟩
    simp [modify, record?, same, found]

theorem isElement_unlink (other : NodeId)
    (holds : document.isElement node = true) :
    (document.unlink other).isElement node = true := by
  unfold unlink
  split
  · apply isElement_modify _ _ holds
    intro record tag attributes kind
    exact ⟨tag, attributes, kind⟩
  · exact holds

theorem isElement_append (parent child : NodeId)
    (holds : document.isElement node = true) :
    (document.append parent child).isElement node = true := by
  have unlinked := isElement_unlink child holds
  apply isElement_modify
  · intro record tag attributes kind
    exact ⟨tag, attributes, kind⟩
  · apply isElement_modify _ _ unlinked
    intro record tag attributes kind
    exact ⟨tag, attributes, kind⟩

theorem isElement_modifyAttributes (other : NodeId)
    (change : List (String × String) → List (String × String))
    (holds : document.isElement node = true) :
    (document.modifyAttributes other change).isElement node = true := by
  apply isElement_modify _ _ holds
  intro record tag attributes kind
  exact ⟨tag, change attributes, by simp [kind]⟩

/-- An element stays one, whatever is done to its page. -/
theorem isElement_after (change : Change)
    (holds : document.isElement node = true) :
    (document.after change).isElement node = true := by
  cases change with
  | createElement tag => exact isElement_create _ holds
  | createText value => exact isElement_create _ holds
  | attachShadow host => exact isElement_create _ holds
  | append parent child => exact isElement_append parent child holds
  | setAttribute other name value =>
      exact isElement_modifyAttributes other _ holds
  | removeAttribute other name =>
      exact isElement_modifyAttributes other _ holds

theorem isElement_of_nearestElement? {found : NodeId}
    (nearest : document.nearestElement? node = some found) :
    document.isElement found = true := by
  unfold nearestElement? at nearest
  split at nearest
  · next holds =>
      obtain rfl := by simpa using nearest
      exact holds
  · exact (Option.filter_eq_some_iff.mp nearest).2

theorem nearestElement?_of_isElement
    (holds : document.isElement node = true) :
    document.nearestElement? node = some node := by
  simp [nearestElement?, holds]

/-! ## The elements around an element -/

/-- An element of a tree and the elements around it in the same tree. -/
inductive IsAround (document : Document) : (outer inner : NodeId) → Prop where
  | self {node : NodeId} : document.isElement node = true →
      IsAround document node node
  | parent {outer inner next : NodeId} :
      document.parentElement? inner = some next →
      IsAround document outer next → IsAround document outer inner

theorem isElement_of_parentElement? {parent : NodeId}
    (found : document.parentElement? node = some parent) :
    document.isElement parent = true :=
  (Option.filter_eq_some_iff.mp found).2

theorem isAround_of_mem_chain {links : Nat} {outer : NodeId}
    (holds : document.isElement node = true)
    (member : outer ∈ chain document.parentElement? links node) :
    document.IsAround outer node := by
  induction links generalizing node with
  | zero =>
      obtain rfl := by simpa [chain] using member
      exact .self holds
  | succ links induction =>
      rw [chain] at member
      rcases List.mem_cons.mp member with rfl | further
      · exact .self holds
      · split at further
        · next next found =>
            exact .parent found
              (induction (isElement_of_parentElement? found) further)
        · simp at further

/-- No element with an attribute is found when none is around. -/
theorem closestWith?_eq_none {name : String}
    (holds : document.isElement node = true)
    (absent : ∀ outer, document.IsAround outer node →
      document.attribute? outer name = none) :
    document.closestWith? node name = none := by
  simp only [closestWith?, nearestElement?_of_isElement holds,
    List.find?_eq_none]
  intro outer member
  simp [absent outer (isAround_of_mem_chain holds member)]

end Document

end Page

end SourceMark
