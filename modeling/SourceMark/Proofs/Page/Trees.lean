import Mathlib.Logic.Relation
import SourceMark.Proofs.Page.Changes

/-!
# Pages as trees

A page is a forest: trees of parents and children, and below the hosts of shadow
roots further trees.  This file says what that means and that every change
keeps it, as long as nodes are put where they belong and no node comes to stand
inside itself.
-/

namespace SourceMark

namespace Page

namespace NodeKind

/-- Whether nodes of a kind may have children. -/
def mayHold : NodeKind → Bool
  | text _ => false
  | _ => true

/-- Whether nodes of a kind may be children. -/
def mayStand : NodeKind → Bool
  | element _ _ => true
  | text _ => true
  | _ => false

end NodeKind

namespace Document

/-- Whether a node may have children. -/
def mayHold (document : Document) (node : NodeId) : Bool :=
  (document.kind? node).any NodeKind.mayHold

/-- Whether a node may be a child. -/
def mayStand (document : Document) (node : NodeId) : Bool :=
  (document.kind? node).any NodeKind.mayStand

/-- A link leads outwards, to the parent of a node or to the host of a shadow
root. -/
def LinksTo (document : Document) (outer inner : NodeId) : Prop :=
  document.parent? inner = some outer ∨ document.shadowHost? inner = some outer

/-- A node stands inside another one, through any number of shadow roots. -/
def Encloses (document : Document) : (outer inner : NodeId) → Prop :=
  Relation.TransGen document.LinksTo

/-- A node is another one or stands inside it. -/
def EnclosesOrIs (document : Document) : (outer inner : NodeId) → Prop :=
  Relation.ReflTransGen document.LinksTo

/-- Children and parents agree, links lead to nodes of the right kinds, and
following them comes to an end. -/
structure IsForest (document : Document) : Prop where
  counts : ∀ parent child, (document.children parent).count child =
    if document.parent? child = some parent then 1 else 0
  parents : ∀ node parent, document.parent? node = some parent →
    document.mayHold parent = true ∧ document.mayStand node = true
  hosts : ∀ node host, document.shadowHost? node = some host →
    document.isElement host = true
  outwards : WellFounded document.LinksTo

end Document

/-- Whether a change puts nodes where they belong: shadow roots into elements,
elements and texts into what may have children, and no node into itself. -/
def Change.IsProper (document : Document) : Change → Prop
  | .createElement _ => True
  | .createText _ => True
  | .attachShadow host => document.isElement host = true
  | .append parent node => document.mayHold parent = true ∧
      document.mayStand node = true ∧ ¬ document.EnclosesOrIs node parent
  | .setAttribute _ _ _ => True
  | .removeAttribute _ _ => True

namespace Document

/-- The documents that proper changes lead to. -/
inductive IsBuilt : Document → Prop where
  | empty : IsBuilt empty
  | change {document : Document} {change : Change} : IsBuilt document →
      change.IsProper document → IsBuilt (document.after change)

variable {document : Document}

/-! ## What the changes do -/

theorem record?_modify (node : NodeId) (change : NodeRecord → NodeRecord)
    (other : NodeId) :
    (document.modify node change).record? other =
      if other = node then (document.record? other).map change
      else document.record? other := by
  unfold record? modify
  rw [List.getElem?_modify]
  by_cases same : other = node
  · subst same
    simp
  · have apart : node.index ≠ other.index := by
      intro equality
      apply same
      cases node
      cases other
      simp_all
    simp [apart, same]

theorem record?_create (kind : NodeKind) (other : NodeId) :
    (document.create kind).2.record? other =
      if other = (document.create kind).1 then
        some { kind, parent := none, children := [] }
      else document.record? other := by
  unfold record? create
  simp only
  by_cases same : other = ⟨document.nodes.length⟩
  · subst same
    simp
  · have apart : other.index ≠ document.nodes.length := by
      intro equality
      apply same
      cases other
      simp_all
    rw [if_neg same]
    by_cases inside : other.index < document.nodes.length
    · rw [List.getElem?_append_left inside]
    · have outside : document.nodes.length < other.index := by omega
      rw [List.getElem?_eq_none (by simp; omega),
        List.getElem?_eq_none (by omega)]

theorem record?_new (kind : NodeKind) :
    document.record? (document.create kind).1 = none := by
  simp [record?, create]

theorem parent?_create (kind : NodeKind) (node : NodeId) :
    (document.create kind).2.parent? node = document.parent? node := by
  unfold parent?
  rw [record?_create]
  split
  · next same => rw [same, record?_new]; rfl
  · rfl

theorem children_create (kind : NodeKind) (node : NodeId) :
    (document.create kind).2.children node = document.children node := by
  unfold children
  rw [record?_create]
  split
  · next same => rw [same, record?_new]; rfl
  · rfl

theorem kind?_create (kind : NodeKind) (node : NodeId) :
    (document.create kind).2.kind? node =
      if node = (document.create kind).1 then some kind
      else document.kind? node := by
  unfold kind?
  rw [record?_create]
  split
  · rfl
  · rfl

/-- A node that a document does not know yet is of no kind. -/
theorem kind?_new (kind : NodeKind) :
    document.kind? (document.create kind).1 = none := by
  unfold kind?
  rw [record?_new]
  rfl

/-- What may be a child is no shadow root. -/
theorem shadowHost?_of_mayStand {node : NodeId}
    (stands : document.mayStand node = true) :
    document.shadowHost? node = none := by
  unfold mayStand at stands
  unfold shadowHost?
  split
  · next equality => simp [equality, NodeKind.mayStand] at stands
  · rfl

theorem mayStand_of_isElement {node : NodeId}
    (element : document.isElement node = true) :
    document.mayStand node = true := by
  unfold isElement at element
  unfold mayStand
  split at element
  · next equality => rw [equality]; rfl
  · simp at element

/-- A node that holds others and is one of the others is an element. -/
theorem isElement_of_mayHold {node : NodeId}
    (holds : document.mayHold node = true)
    (stands : document.mayStand node = true) :
    document.isElement node = true := by
  unfold mayHold at holds
  unfold mayStand at stands
  unfold isElement
  cases isKind : document.kind? node with
  | none => simp [isKind] at holds
  | some kind =>
      cases kind with
      | document => simp [isKind, NodeKind.mayStand] at stands
      | element tag attributes => rfl
      | text value => simp [isKind, NodeKind.mayHold] at holds
      | shadowRoot host => simp [isKind, NodeKind.mayStand] at stands

/-- What a change keeps of a record is the same for all nodes afterwards. -/
theorem map_record?_modify {value : Type} {view : NodeRecord → value}
    {change : NodeRecord → NodeRecord}
    (keeps : ∀ record, view (change record) = view record)
    (node other : NodeId) :
    ((document.modify node change).record? other).map view =
      (document.record? other).map view := by
  rw [record?_modify]
  split
  · cases document.record? other with
    | none => rfl
    | some record => simp [keeps]
  · rfl

theorem kind?_modify {change : NodeRecord → NodeRecord}
    (keeps : ∀ record, (change record).kind = record.kind)
    (node other : NodeId) :
    (document.modify node change).kind? other = document.kind? other :=
  map_record?_modify keeps node other

theorem kind?_unlink (node other : NodeId) :
    (document.unlink node).kind? other = document.kind? other := by
  unfold unlink
  split
  · apply kind?_modify
    intro record
    rfl
  · rfl

theorem kind?_append (parent node other : NodeId) :
    (document.append parent node).kind? other = document.kind? other := by
  unfold append
  refine (kind?_modify ?_ parent other).trans ?_
  · intro record
    rfl
  refine (kind?_modify ?_ node other).trans ?_
  · intro record
    rfl
  exact kind?_unlink node other

theorem parent?_modify {change : NodeRecord → NodeRecord}
    (keeps : ∀ record, (change record).parent = record.parent)
    (node other : NodeId) :
    (document.modify node change).parent? other = document.parent? other := by
  have kept : ((document.modify node change).record? other).map
      NodeRecord.parent = (document.record? other).map NodeRecord.parent :=
    map_record?_modify keeps node other
  have joined := congrArg (Option.bind · id) kept
  simpa only [parent?, Option.bind_map, Function.id_comp] using joined

theorem parent?_unlink (node other : NodeId) :
    (document.unlink node).parent? other = document.parent? other := by
  unfold unlink
  split
  · apply parent?_modify
    intro record
    rfl
  · rfl

theorem exists_record_of_kind {node : NodeId} {test : NodeKind → Bool}
    (holds : (document.kind? node).any test = true) :
    ∃ record, document.record? node = some record := by
  unfold kind? at holds
  cases found : document.record? node with
  | none => simp [found] at holds
  | some record => exact ⟨record, rfl⟩

theorem record?_of_kind? {later : Document} {node : NodeId}
    (same : later.kind? node = document.kind? node)
    (found : ∃ record, document.record? node = some record) :
    ∃ record, later.record? node = some record := by
  obtain ⟨record, equality⟩ := found
  have known : later.kind? node = some record.kind := by
    rw [same, kind?, equality]
    rfl
  obtain ⟨other, found, _⟩ := Option.map_eq_some_iff.mp known
  exact ⟨other, found⟩

theorem parent?_append (parent : NodeId) {node : NodeId}
    (known : ∃ record, document.record? node = some record) (other : NodeId) :
    (document.append parent node).parent? other =
      if other = node then some parent else document.parent? other := by
  unfold append
  refine (parent?_modify ?_ parent other).trans ?_
  · intro record
    rfl
  obtain ⟨record, found⟩ :=
    record?_of_kind? (kind?_unlink node node) known
  by_cases same : other = node
  · subst same
    unfold parent?
    rw [record?_modify, if_pos rfl, found, if_pos rfl]
    rfl
  · rw [if_neg same]
    unfold parent?
    rw [record?_modify, if_neg same]
    exact parent?_unlink node other

theorem children_modify_ne {change : NodeRecord → NodeRecord}
    {node other : NodeId} (apart : other ≠ node) :
    (document.modify node change).children other = document.children other := by
  unfold children
  rw [record?_modify, if_neg apart]

theorem children_modify {change : NodeRecord → NodeRecord}
    (keeps : ∀ record, (change record).children = record.children)
    (node other : NodeId) :
    (document.modify node change).children other = document.children other := by
  unfold children
  rw [map_record?_modify keeps]

/-- Where children and parents agree, unlinking a node takes it out of all lists
of children. -/
theorem children_unlink (forest : document.IsForest) (node other : NodeId) :
    (document.unlink node).children other =
      (document.children other).filter (· != node) := by
  unfold unlink
  split
  · next parent found =>
      by_cases same : other = parent
      · subst same
        unfold children
        rw [record?_modify, if_pos rfl]
        cases document.record? other with
        | none => rfl
        | some record => rfl
      · rw [children_modify_ne same]
        symm
        apply filter_ne_of_count
        rw [forest.counts, found]
        simp [Ne.symm same]
  · next missing =>
      symm
      apply filter_ne_of_count
      rw [forest.counts, missing]
      rfl
where
  filter_ne_of_count {nodes : List NodeId} {node : NodeId}
      (absent : nodes.count node = 0) : nodes.filter (· != node) = nodes := by
    rw [List.filter_eq_self]
    intro other member
    have apart : other ≠ node := by
      rintro rfl
      exact List.count_eq_zero.mp absent member
    simpa using apart

theorem children_append (forest : document.IsForest) {parent node : NodeId}
    (known : ∃ record, document.record? parent = some record)
    (other : NodeId) :
    (document.append parent node).children other =
      (document.children other).filter (· != node) ++
        if other = parent then [node] else [] := by
  have linked (other : NodeId) : ((document.unlink node).modify node
      fun record => { record with parent := some parent }).children other =
        (document.children other).filter (· != node) := by
    refine (children_modify ?_ node other).trans ?_
    · intro record
      rfl
    exact children_unlink forest node other
  unfold append
  by_cases same : other = parent
  · subst same
    rw [if_pos rfl, ← linked]
    obtain ⟨record, found⟩ : ∃ record, ((document.unlink node).modify node
        fun record => { record with parent := some other }).record? other =
          some record := by
      apply record?_of_kind? _ known
      refine (kind?_modify ?_ node other).trans ?_
      · intro record
        rfl
      exact kind?_unlink node other
    unfold children
    rw [record?_modify, if_pos rfl, found]
    rfl
  · rw [children_modify_ne same, linked, if_neg same, List.append_nil]

/-- What bears on the links of a node: its parent, its children and whether it
is an element, a shadow root or a text. -/
structure SameLinks (before after : Document) : Prop where
  parent : ∀ node, after.parent? node = before.parent? node
  children : ∀ node, after.children node = before.children node
  shadowHost : ∀ node, after.shadowHost? node = before.shadowHost? node
  isElement : ∀ node, after.isElement node = before.isElement node
  mayHold : ∀ node, after.mayHold node = before.mayHold node
  mayStand : ∀ node, after.mayStand node = before.mayStand node

theorem sameLinks_modifyAttributes (node : NodeId)
    (change : List (String × String) → List (String × String)) :
    SameLinks document (document.modifyAttributes node change) := by
  have parents (other : NodeId) :
      (document.modifyAttributes node change).parent? other =
        document.parent? other := by
    apply parent?_modify
    intro record
    split
    · rfl
    · rfl
  have lists (other : NodeId) :
      (document.modifyAttributes node change).children other =
        document.children other := by
    apply children_modify
    intro record
    split
    · rfl
    · rfl
  -- Elements get other attributes, all other nodes stay as they are.
  have kinds (other : NodeId) :
      (document.modifyAttributes node change).kind? other =
          document.kind? other ∨
        ∃ tag attributes later,
          document.kind? other = some (.element tag attributes) ∧
            (document.modifyAttributes node change).kind? other =
              some (.element tag later) := by
    unfold modifyAttributes kind?
    rw [record?_modify]
    split
    · cases document.record? other with
      | none => exact .inl rfl
      | some record =>
          simp only [Option.map_some]
          split
          · next tag attributes kind =>
              exact .inr ⟨tag, attributes, change attributes, by rw [kind], rfl⟩
          · exact .inl rfl
    · exact .inl rfl
  constructor
  · exact parents
  · exact lists
  · intro other
    unfold shadowHost?
    rcases kinds other with same | ⟨_, _, _, before, after⟩
    · rw [same]
    · rw [before, after]
  · intro other
    unfold isElement
    rcases kinds other with same | ⟨_, _, _, before, after⟩
    · rw [same]
    · rw [before, after]
  · intro other
    unfold mayHold
    rcases kinds other with same | ⟨_, _, _, before, after⟩
    · rw [same]
    · rw [before, after]
      rfl
  · intro other
    unfold mayStand
    rcases kinds other with same | ⟨_, _, _, before, after⟩
    · rw [same]
    · rw [before, after]
      rfl

/-! ## Links come to an end -/

/-- When all new links start at one node and lead to nodes that it does not
enclose, following links still comes to an end. -/
theorem wellFounded_of_new {Item : Type} {old new : Item → Item → Prop}
    (ends : WellFounded old) (moved : Item)
    (kept : ∀ outer inner, new outer inner → inner ≠ moved → old outer inner)
    (away : ∀ outer, new outer moved → ¬ Relation.ReflTransGen old moved outer) :
    WellFounded new := by
  have outside : ∀ item, ¬ Relation.ReflTransGen old moved item →
      Acc new item := by
    intro item
    induction item using ends.induction with
    | _ item induction =>
        intro free
        constructor
        intro outer link
        have apart : item ≠ moved := by
          rintro rfl
          exact free .refl
        have oldLink := kept outer item link apart
        apply induction outer oldLink
        intro reached
        exact free (reached.tail oldLink)
  have here : Acc new moved := by
    constructor
    intro outer link
    exact outside outer (away outer link)
  constructor
  intro item
  induction item using ends.induction with
  | _ item induction =>
      by_cases same : item = moved
      · exact same ▸ here
      · constructor
        intro outer link
        exact induction outer (kept outer item link same)

/-! ## Forests -/

theorem known_of_isElement {node : NodeId}
    (holds : document.isElement node = true) :
    ∃ record, document.record? node = some record := by
  obtain ⟨record, _, _, found, _⟩ := isElement_iff.mp holds
  exact ⟨record, found⟩

theorem any_kind?_create {node : NodeId} {test : NodeKind → Bool}
    (kind : NodeKind) (holds : (document.kind? node).any test = true) :
    ((document.create kind).2.kind? node).any test = true := by
  rw [kind?_create]
  split
  · next same =>
      rw [same, kind?_new] at holds
      simp at holds
  · exact holds

theorem shadowHost?_create (kind : NodeKind) {node host : NodeId}
    (found : (document.create kind).2.shadowHost? node = some host) :
    document.shadowHost? node = some host ∨
      node = (document.create kind).1 ∧ kind = .shadowRoot host := by
  unfold shadowHost? at found
  rw [kind?_create] at found
  by_cases same : node = (document.create kind).1
  · rw [if_pos same] at found
    refine .inr ⟨same, ?_⟩
    split at found
    · next equality =>
        obtain rfl := Option.some.inj found
        exact Option.some.inj equality
    · simp at found
  · rw [if_neg same] at found
    exact .inl found

/-- A node that a forest does not know encloses nothing that it knows. -/
theorem not_enclosesOrIs_new (forest : document.IsForest) (kind : NodeKind)
    {node : NodeId} (known : ∃ record, document.record? node = some record) :
    ¬ document.EnclosesOrIs (document.create kind).1 node := by
  have unknown := document.record?_new kind
  intro reached
  rcases reached.cases_head with same | ⟨inner, link, _⟩
  · obtain ⟨record, found⟩ := known
    rw [← same, unknown] at found
    simp at found
  · rcases link with parent | host
    · obtain ⟨record, found⟩ :=
        exists_record_of_kind (forest.parents _ _ parent).1
      rw [unknown] at found
      simp at found
    · obtain ⟨record, found⟩ := known_of_isElement (forest.hosts _ _ host)
      rw [unknown] at found
      simp at found

theorem isForest_empty : empty.IsForest := by
  have parents (node : NodeId) : empty.parent? node = none := by
    obtain ⟨index⟩ := node
    cases index with
    | zero => rfl
    | succ index => rfl
  have lists (node : NodeId) : empty.children node = [] := by
    obtain ⟨index⟩ := node
    cases index with
    | zero => rfl
    | succ index => rfl
  have hosts (node : NodeId) : empty.shadowHost? node = none := by
    obtain ⟨index⟩ := node
    cases index with
    | zero => rfl
    | succ index => rfl
  constructor
  · intro parent child
    rw [lists, parents]
    rfl
  · intro node parent found
    rw [parents] at found
    simp at found
  · intro node host found
    rw [hosts] at found
    simp at found
  · constructor
    intro node
    constructor
    rintro outer (found | found)
    · rw [parents] at found
      simp at found
    · rw [hosts] at found
      simp at found

theorem isForest_create (forest : document.IsForest) {kind : NodeKind}
    (hosted : ∀ host, kind = .shadowRoot host →
      document.isElement host = true) :
    (document.create kind).2.IsForest := by
  constructor
  · intro parent child
    rw [children_create, parent?_create]
    exact forest.counts parent child
  · intro node parent found
    rw [parent?_create] at found
    obtain ⟨holds, stands⟩ := forest.parents node parent found
    exact ⟨any_kind?_create kind holds, any_kind?_create kind stands⟩
  · intro node host found
    apply isElement_create
    rcases shadowHost?_create kind found with old | ⟨_, isRoot⟩
    · exact forest.hosts node host old
    · exact hosted host isRoot
  · apply wellFounded_of_new forest.outwards (document.create kind).1
    · rintro outer inner (parent | host) apart
      · rw [parent?_create] at parent
        exact .inl parent
      · rcases shadowHost?_create kind host with old | ⟨same, _⟩
        · exact .inr old
        · exact absurd same apart
    · rintro outer (parent | host)
      · rw [parent?_create, parent?, record?_new] at parent
        simp at parent
      · apply not_enclosesOrIs_new forest
        rcases shadowHost?_create kind host with old | ⟨_, isRoot⟩
        · exact known_of_isElement (forest.hosts _ _ old)
        · exact known_of_isElement (hosted outer isRoot)

theorem isForest_append (forest : document.IsForest) {parent node : NodeId}
    (holds : document.mayHold parent = true)
    (stands : document.mayStand node = true)
    (free : ¬ document.EnclosesOrIs node parent) :
    (document.append parent node).IsForest := by
  have kinds (other : NodeId) := document.kind?_append parent node other
  have parents := document.parent?_append parent
    (exists_record_of_kind stands)
  constructor
  · intro other child
    rw [children_append forest (exists_record_of_kind holds), parents,
      List.count_append]
    by_cases same : child = node
    · subst same
      rw [if_pos rfl, List.count_eq_zero_of_not_mem (by simp)]
      by_cases here : other = parent
      · simp [here]
      · simp [here, Ne.symm here]
    · rw [if_neg same, List.count_filter (by simpa using same),
        forest.counts other child]
      have none : (if other = parent then [node] else []).count child = 0 := by
        split
        · simp [Ne.symm same]
        · rfl
      rw [none, Nat.add_zero]
  · intro other found isParent
    rw [parents] at isParent
    unfold mayHold mayStand
    rw [kinds, kinds]
    split at isParent
    · next same =>
        obtain rfl := Option.some.inj isParent
        exact ⟨holds, same ▸ stands⟩
    · exact forest.parents other found isParent
  · intro other host found
    unfold shadowHost? at found
    unfold isElement
    rw [kinds] at found ⊢
    exact forest.hosts other host found
  · apply wellFounded_of_new forest.outwards node
    · rintro outer inner (isParent | host) apart
      · rw [parents, if_neg apart] at isParent
        exact .inl isParent
      · unfold shadowHost? at host
        rw [kinds] at host
        exact .inr host
    · rintro outer (isParent | host)
      · rw [parents, if_pos rfl] at isParent
        obtain rfl := Option.some.inj isParent
        exact free
      · unfold shadowHost? at host
        rw [kinds] at host
        have missing := shadowHost?_of_mayStand stands
        unfold shadowHost? at missing
        rw [missing] at host
        simp at host

theorem isForest_of_sameLinks {later : Document} (forest : document.IsForest)
    (same : SameLinks document later) : later.IsForest := by
  have links : later.LinksTo = document.LinksTo := by
    funext outer inner
    unfold LinksTo
    rw [same.parent, same.shadowHost]
  constructor
  · intro parent child
    rw [same.children, same.parent]
    exact forest.counts parent child
  · intro node parent found
    rw [same.parent] at found
    rw [same.mayHold, same.mayStand]
    exact forest.parents node parent found
  · intro node host found
    rw [same.shadowHost] at found
    rw [same.isElement]
    exact forest.hosts node host found
  · rw [links]
    exact forest.outwards

/-- A proper change keeps a page a forest. -/
theorem isForest_after (forest : document.IsForest) {change : Change}
    (proper : change.IsProper document) : (document.after change).IsForest := by
  cases change with
  | createElement tag => exact isForest_create forest (by simp)
  | createText value => exact isForest_create forest (by simp)
  | attachShadow host =>
      apply isForest_create forest
      intro other equality
      obtain rfl := NodeKind.shadowRoot.inj equality
      exact proper
  | append parent node =>
      exact isForest_append forest proper.1 proper.2.1 proper.2.2
  | setAttribute node name value =>
      exact isForest_of_sameLinks forest (sameLinks_modifyAttributes node _)
  | removeAttribute node name =>
      exact isForest_of_sameLinks forest (sameLinks_modifyAttributes node _)

theorem isForest_of_built (built : document.IsBuilt) : document.IsForest := by
  induction built with
  | empty => exact isForest_empty
  | change _ proper induction => exact isForest_after induction proper

end Document

end Page

end SourceMark
