import Mathlib.Data.Fintype.EquivFin
import Mathlib.Data.List.ProdSigma
import SourceMark.Page.Written
import SourceMark.Proofs.Page.Walks

/-!
# Markup and what it shows

What the markup of a node shows is a tree of elements and texts that is reached
over children only.  On a page there always is one, and it is never deeper than
the bound that the writer goes down to, so the markup is that tree written out
in full.  Attributes can be omitted while writing, or be removed from all nodes
before; the markup is the same.
-/

namespace SourceMark

namespace Page

/-- What a row of nodes shows: nothing, or a node with what is below it, and
what stands behind it. -/
inductive Content where
  | nil
  | element (tag : String) (attributes : List (String × String))
      (below later : Content)
  | text (value : String) (later : Content)
  /-- The document node or a shadow root, which writes nothing itself. -/
  | root (below later : Content)
deriving Repr, DecidableEq

namespace Content

/-- The content as markup, in full. -/
def written : Content → String
  | nil => ""
  | element tag attributes below later =>
      "<" ++ tag ++ String.join (attributes.map writtenAttribute) ++ ">" ++
        (if voidTags.contains tag then ""
          else below.written ++ "</" ++ tag ++ ">") ++ later.written
  | text value later => writtenText value ++ later.written
  | root below later => below.written ++ later.written

/-- The content without the attributes of the given names, at every depth. -/
def without (names : List String) : Content → Content
  | nil => nil
  | element tag attributes below later =>
      element tag (attributes.filter fun given => !names.contains given.1)
        (below.without names) (later.without names)
  | text value later => text value (later.without names)
  | root below later => root (below.without names) (later.without names)

/-- How far down the content goes. -/
def height : Content → Nat
  | nil => 0
  | element _ _ below later => max (below.height + 1) later.height
  | text _ later => max 1 later.height
  | root below later => max (below.height + 1) later.height

/-- How many nodes the content has. -/
def size : Content → Nat
  | nil => 0
  | element _ _ below later => below.size + later.size + 1
  | text _ later => later.size + 1
  | root below later => below.size + later.size + 1

end Content

namespace Document

variable {document : Document} {node : NodeId} {nodes : List NodeId}
  {content : Content}

/-- The document node or a shadow root. -/
def IsTop (document : Document) (node : NodeId) : Prop :=
  document.kind? node = some .document ∨
    ∃ host, document.kind? node = some (.shadowRoot host)

/-- Some nodes in a row show a content.  A void element has nothing below. -/
inductive Shows (document : Document) : List NodeId → Content → Prop where
  | nil : Shows document [] .nil
  | element {node : NodeId} {nodes : List NodeId} {tag : String}
      {attributes : List (String × String)} {below later : Content} :
      document.kind? node = some (.element tag attributes) →
      Shows document
        (if voidTags.contains tag then [] else document.children node) below →
      Shows document nodes later →
      Shows document (node :: nodes) (.element tag attributes below later)
  | text {node : NodeId} {nodes : List NodeId} {value : String}
      {later : Content} :
      document.kind? node = some (.text value) →
      Shows document nodes later →
      Shows document (node :: nodes) (.text value later)
  | root {node : NodeId} {nodes : List NodeId} {below later : Content} :
      document.IsTop node →
      Shows document (document.children node) below →
      Shows document nodes later →
      Shows document (node :: nodes) (.root below later)

namespace Shows

/-- Nodes show one content at most. -/
theorem unique {other : Content} (first : document.Shows nodes content)
    (second : document.Shows nodes other) : other = content := by
  induction first generalizing other with
  | nil =>
      cases second
      rfl
  | element kind _ _ insideInduction laterInduction =>
      cases second with
      | element kind' inside later =>
          obtain ⟨rfl, rfl⟩ := by simpa using kind.symm.trans kind'
          rw [insideInduction inside, laterInduction later]
      | text kind' _ => simp [kind] at kind'
      | root isTop _ _ => simp [IsTop, kind] at isTop
  | text kind _ laterInduction =>
      cases second with
      | element kind' _ _ => simp [kind] at kind'
      | text kind' later =>
          obtain rfl := by simpa using kind.symm.trans kind'
          rw [laterInduction later]
      | root isTop _ _ => simp [IsTop, kind] at isTop
  | root isTop _ _ insideInduction laterInduction =>
      cases second with
      | element kind _ _ => simp [IsTop, kind] at isTop
      | text kind _ => simp [IsTop, kind] at isTop
      | root _ inside later =>
          rw [insideInduction inside, laterInduction later]

/-- A node that shows a content is on the page. -/
theorem known (shows : document.Shows (node :: nodes) content) :
    ∃ record, document.record? node = some record := by
  have isKind : ∃ kind, document.kind? node = some kind := by
    cases shows with
    | element kind _ _ => exact ⟨_, kind⟩
    | text kind _ => exact ⟨_, kind⟩
    | root isTop _ _ =>
        rcases isTop with kind | ⟨host, kind⟩
        · exact ⟨_, kind⟩
        · exact ⟨_, kind⟩
  obtain ⟨kind, found⟩ := isKind
  obtain ⟨record, known, _⟩ := Option.map_eq_some_iff.mp found
  exact ⟨record, known⟩

/-- The writer gets to the bottom of a content that is no deeper than it goes
down. -/
theorem join_writtenNode (shows : document.Shows nodes content)
    (omitted : List String) {depth : Nat} (deep : content.height ≤ depth) :
    String.join (nodes.map (writtenNode document omitted depth)) =
      (content.without omitted).written := by
  induction shows generalizing depth with
  | nil => rfl
  | @element node nodes tag attributes below later kind _ _ insideInduction
      laterInduction =>
      rw [Content.height, Nat.max_le] at deep
      obtain ⟨further, rfl⟩ := Nat.exists_eq_add_of_lt deep.1
      have inside := insideInduction (Nat.le_add_right below.height further)
      rw [List.map_cons, String.join_cons, laterInduction deep.2, writtenNode,
        kind]
      cases void : voidTags.contains tag with
      | true =>
          simp only [Content.without, Content.written, writtenTag, void,
            if_true, String.append_empty]
      | false =>
          rw [void, if_neg Bool.false_ne_true] at inside
          simp only [Content.without, Content.written, writtenTag, void,
            Bool.false_eq_true, if_false, inside, String.append_assoc]
  | text kind later laterInduction =>
      rw [Content.height, Nat.max_le] at deep
      obtain ⟨further, rfl⟩ := Nat.exists_eq_add_of_lt deep.1
      rw [List.map_cons, String.join_cons, laterInduction deep.2, writtenNode,
        kind]
      rfl
  | @root node nodes below later isTop _ _ insideInduction laterInduction =>
      rw [Content.height, Nat.max_le] at deep
      obtain ⟨further, rfl⟩ := Nat.exists_eq_add_of_lt deep.1
      have inside := insideInduction (Nat.le_add_right below.height further)
      rw [List.map_cons, String.join_cons, laterInduction deep.2, writtenNode,
        Content.without, Content.written, ← inside]
      rcases isTop with kind | ⟨host, kind⟩
      · rw [kind]
      · rw [kind]

end Shows

/-! ## The bound of the writer -/

/-- Nodes further up, each of which shows more than so many nodes. -/
structure IsAbove (document : Document) (above : List NodeId) (size : Nat) :
    Prop where
  nodup : above.Nodup
  larger : ∀ outer ∈ above, ∃ content,
    document.Shows [outer] content ∧ size < content.size

namespace IsAbove

variable {above : List NodeId} {size : Nat}

theorem mono (isAbove : document.IsAbove above size) {smaller : Nat}
    (less : smaller ≤ size) : document.IsAbove above smaller where
  nodup := isAbove.nodup
  larger outer member := by
    obtain ⟨content, shows, larger⟩ := isAbove.larger outer member
    exact ⟨content, shows, Nat.lt_of_le_of_lt less larger⟩

/-- A node that shows no more is none of those above: each shows one content
only. -/
theorem cons (isAbove : document.IsAbove above size)
    (shows : document.Shows [node] content) (fits : content.size ≤ size)
    {inner : Nat} (less : inner < content.size) :
    document.IsAbove (node :: above) inner where
  nodup := by
    refine List.nodup_cons.mpr ⟨?_, isAbove.nodup⟩
    intro member
    obtain ⟨other, shown, larger⟩ := isAbove.larger node member
    rw [shows.unique shown] at larger
    omega
  larger outer member := by
    rcases List.mem_cons.mp member with rfl | further
    · exact ⟨content, shows, less⟩
    · obtain ⟨other, shown, larger⟩ := isAbove.larger outer further
      exact ⟨other, shown, by omega⟩

theorem length_le (isAbove : document.IsAbove above size) :
    above.length ≤ document.nodes.length := by
  apply length_le_of_nodup isAbove.nodup
  intro outer member
  obtain ⟨content, shows, _⟩ := isAbove.larger outer member
  exact shows.known

end IsAbove

namespace Shows

/-- A content is no deeper than there are nodes left for it. -/
theorem height_add_le (shows : document.Shows nodes content)
    {above : List NodeId} (isAbove : document.IsAbove above content.size) :
    content.height + above.length ≤ document.nodes.length := by
  induction shows generalizing above with
  | nil =>
      have bound := isAbove.length_le
      simpa [Content.height] using bound
  | @element node nodes tag attributes below later kind inside _
      insideInduction laterInduction =>
      rw [Content.size] at isAbove
      have rest := laterInduction (isAbove.mono (by omega))
      have shown : document.Shows [node] (.element tag attributes below .nil) :=
        .element kind inside .nil
      have down := insideInduction (isAbove.cons shown
        (by simp only [Content.size]; omega) (by simp [Content.size]))
      rw [List.length_cons] at down
      simp only [Content.height]
      omega
  | @text node nodes value later kind _ laterInduction =>
      rw [Content.size] at isAbove
      have rest := laterInduction (isAbove.mono (by omega))
      have shown : document.Shows [node] (.text value .nil) := .text kind .nil
      have here := (isAbove.cons shown
        (by simp [Content.size]) (Nat.zero_lt_one)).length_le
      rw [List.length_cons] at here
      simp only [Content.height]
      omega
  | @root node nodes below later isTop inside _ insideInduction
      laterInduction =>
      rw [Content.size] at isAbove
      have rest := laterInduction (isAbove.mono (by omega))
      have shown : document.Shows [node] (.root below .nil) :=
        .root isTop inside .nil
      have down := insideInduction (isAbove.cons shown
        (by simp only [Content.size]; omega) (by simp [Content.size]))
      rw [List.length_cons] at down
      simp only [Content.height]
      omega

/-- The markup of a node is what the node shows, written out in full. -/
theorem markup_eq (shows : document.Shows [node] content)
    (omitted : List String) :
    document.markup node omitted = (content.without omitted).written := by
  have nothing : document.IsAbove [] content.size := ⟨.nil, by simp⟩
  have deep : content.height ≤ document.nodes.length := by
    simpa using shows.height_add_le nothing
  have whole := shows.join_writtenNode omitted deep
  rwa [List.map_singleton, String.join_cons, String.join_nil,
    String.append_empty] at whole

end Shows

/-! ## Removing attributes -/

end Document

/-- A kind without the attributes whose names are to be omitted. -/
def NodeKind.without (omitted : String → Bool) : NodeKind → NodeKind
  | element tag attributes =>
      element tag (attributes.filter fun given => !omitted given.1)
  | kind => kind

theorem NodeKind.without_without (first second : String → Bool)
    (kind : NodeKind) :
    (kind.without first).without second =
      kind.without fun name => first name || second name := by
  cases kind with
  | element tag attributes =>
      simp [without, List.filter_filter, Bool.and_comm]
  | document => rfl
  | text value => rfl
  | shadowRoot host => rfl

theorem NodeKind.without_nothing (kind : NodeKind) :
    (kind.without fun _ => false) = kind := by
  cases kind with
  | element tag attributes => simp [without]
  | document => rfl
  | text value => rfl
  | shadowRoot host => rfl

/-- A record without the attributes whose names are to be omitted. -/
def NodeRecord.without (omitted : String → Bool) (record : NodeRecord) :
    NodeRecord :=
  { record with kind := record.kind.without omitted }

namespace Document

variable {document : Document} {node : NodeId} {nodes : List NodeId}
  {content : Content}

/-- The document after attributes have been removed, one after the other. -/
def removeAll (document : Document) (removals : List (NodeId × String)) :
    Document :=
  removals.foldl
    (fun document removal => document.removeAttribute removal.1 removal.2)
    document

/-- The document with the attributes of the given names removed from every
node. -/
def stripped (document : Document) (names : List String) : Document :=
  document.removeAll
    ((List.range document.nodes.length).map NodeId.mk ×ˢ names)

theorem record?_removeAttribute (node other : NodeId) (name : String) :
    (document.removeAttribute node name).record? other =
      (document.record? other).map (NodeRecord.without fun given =>
        (other, given) == (node, name)) := by
  rw [removeAttribute, modifyAttributes, record?_modify]
  split
  · next same =>
      subst same
      congr 1
      funext record
      obtain ⟨kind, parent, children⟩ := record
      cases kind with
      | element tag attributes =>
          have test (given : String) :
              (given != name) = !((other, given) == (other, name)) := by
            simp [bne]
          simp only [NodeRecord.without, NodeKind.without, test]
      | document => rfl
      | text value => rfl
      | shadowRoot host => rfl
  · next apart =>
      have same : (NodeRecord.without fun given =>
          (other, given) == (node, name)) = id := by
        funext record
        have test (given : String) :
            ((other, given) == (node, name)) = false := by
          simp [apart]
        simp [NodeRecord.without, test, NodeKind.without_nothing]
      rw [same, Option.map_id]
      rfl

theorem record?_removeAll (removals : List (NodeId × String))
    (node : NodeId) :
    (document.removeAll removals).record? node =
      (document.record? node).map (NodeRecord.without fun name =>
        removals.contains (node, name)) := by
  induction removals generalizing document with
  | nil =>
      have same : (NodeRecord.without fun name =>
          ([] : List (NodeId × String)).contains (node, name)) = id := by
        funext record
        rw [NodeRecord.without]
        simp [NodeKind.without_nothing]
      rw [same, Option.map_id]
      rfl
  | cons removal removals induction =>
      rw [removeAll, List.foldl_cons, ← removeAll, induction,
        record?_removeAttribute, Option.map_map]
      congr 1
      funext record
      simp only [Function.comp_apply, NodeRecord.without,
        NodeKind.without_without, List.contains_cons, Prod.eta]

theorem record?_stripped (names : List String) (node : NodeId) :
    (document.stripped names).record? node =
      (document.record? node).map (NodeRecord.without names.contains) := by
  rw [stripped, record?_removeAll]
  cases found : document.record? node with
  | none => rfl
  | some record =>
      have inside : node.index < document.nodes.length :=
        (List.getElem?_eq_some_iff.mp found).1
      congr 2
      funext name
      rw [Bool.eq_iff_iff, List.contains_iff_mem, List.contains_iff_mem,
        List.mem_product, List.mem_map]
      exact ⟨And.right, fun member =>
        ⟨⟨node.index, List.mem_range.mpr inside, rfl⟩, member⟩⟩

theorem kind?_stripped (names : List String) (node : NodeId) :
    (document.stripped names).kind? node =
      (document.kind? node).map (NodeKind.without names.contains) := by
  rw [kind?, record?_stripped, kind?, Option.map_map, Option.map_map]
  rfl

theorem children_stripped (names : List String) (node : NodeId) :
    (document.stripped names).children node = document.children node := by
  rw [children, record?_stripped, children, Option.map_map]
  rfl

theorem length_stripped (names : List String) :
    (document.stripped names).nodes.length = document.nodes.length := by
  have kept (removals : List (NodeId × String)) (document : Document) :
      (document.removeAll removals).nodes.length = document.nodes.length := by
    induction removals generalizing document with
    | nil => rfl
    | cons removal removals induction =>
        rw [removeAll, List.foldl_cons, ← removeAll, induction]
        exact List.length_modify _ _ _
  exact kept _ document

theorem writtenNode_stripped (names : List String) (depth : Nat)
    (node : NodeId) :
    writtenNode (document.stripped names) [] depth node =
      writtenNode document names depth node := by
  induction depth generalizing node with
  | zero => rfl
  | succ depth induction =>
      have same : writtenNode (document.stripped names) [] depth =
          writtenNode document names depth := funext induction
      rw [writtenNode, writtenNode, kind?_stripped, children_stripped, same]
      cases document.kind? node with
      | none => rfl
      | some kind =>
          cases kind with
          | element tag attributes =>
              simp [NodeKind.without, writtenTag]
          | document => rfl
          | text value => rfl
          | shadowRoot host => rfl

/-! ## What a page shows -/

/-- A node is another one or below it, over children only. -/
def IsBelow (document : Document) : (inner outer : NodeId) → Prop :=
  Relation.ReflTransGen fun inner outer => inner ∈ document.children outer

/-- A node is in the shadow tree of an element at or below another node. -/
def IsShadowed (document : Document) (outer node : NodeId) : Prop :=
  ∃ root host, document.IsBelow host outer ∧
    document.shadowHost? root = some host ∧ document.IsBelow node root

section Forest

variable (forest : document.IsForest)
include forest

theorem mem_children_iff {inner outer : NodeId} :
    inner ∈ document.children outer ↔ document.parent? inner = some outer := by
  rw [← List.one_le_count_iff, forest.counts]
  split
  · next isParent => simp [isParent]
  · next other => simp [other]

theorem enclosesOrIs_of_isBelow {inner outer : NodeId}
    (below : document.IsBelow inner outer) :
    document.EnclosesOrIs outer inner := by
  induction below with
  | refl => exact .refl
  | tail _ member induction =>
      exact .head (.inl ((mem_children_iff forest).mp member)) induction

/-- What is below a node is in no shadow tree of the node: it would be below the
root as well, which is nobody's child. -/
theorem not_isShadowed_of_isBelow {inner : NodeId}
    (below : document.IsBelow inner node) :
    ¬ document.IsShadowed node inner := by
  rintro ⟨root, host, hosted, isHost, inside⟩
  have unique : Relator.RightUnique
      fun inner outer : NodeId => inner ∈ document.children outer := by
    intro inner first second member other
    rw [mem_children_iff forest] at member other
    exact Option.some.inj (member.symm.trans other)
  have around : document.EnclosesOrIs root node := by
    rcases below.total_of_right_unique unique inside with above | above
    · exact enclosesOrIs_of_isBelow forest above
    · rcases above.cases_head with rfl | ⟨outer, member, _⟩
      · exact .refl
      · have stands := (forest.parents root outer
          ((mem_children_iff forest).mp member)).2
        rw [shadowHost?_of_mayStand stands] at isHost
        cases isHost
  have circle : document.Encloses root root :=
    .tail' (around.trans (enclosesOrIs_of_isBelow forest hosted))
      (.inr isHost)
  exact not_encloses_self forest root circle

end Forest

namespace Shows

/-- A content depends on nothing but what is at or below its nodes. -/
theorem congr {other : Document} (shows : document.Shows nodes content)
    (same : ∀ node ∈ nodes, ∀ inner, document.IsBelow inner node →
      other.record? inner = document.record? inner) :
    other.Shows nodes content := by
  induction shows with
  | nil => exact .nil
  | @element node nodes tag attributes below later kind _ _ insideInduction
      laterInduction =>
      have here := same node (by simp) node .refl
      have sameKind : other.kind? node = document.kind? node := by
        rw [kind?, here, kind?]
      have sameChildren : other.children node = document.children node := by
        rw [children, here, children]
      refine .element (sameKind.trans kind) ?_ ?_
      · rw [sameChildren]
        apply insideInduction
        intro child member inner below
        split at member
        · simp at member
        · exact same node (by simp) inner (below.tail member)
      · exact laterInduction fun found member =>
          same found (List.mem_cons_of_mem _ member)
  | @text node nodes value later kind _ laterInduction =>
      have here := same node (by simp) node .refl
      have sameKind : other.kind? node = document.kind? node := by
        rw [kind?, here, kind?]
      exact .text (sameKind.trans kind) (laterInduction fun found member =>
        same found (List.mem_cons_of_mem _ member))
  | @root node nodes below later isTop _ _ insideInduction laterInduction =>
      have here := same node (by simp) node .refl
      have sameKind : other.kind? node = document.kind? node := by
        rw [kind?, here, kind?]
      have sameChildren : other.children node = document.children node := by
        rw [children, here, children]
      refine .root ?_ ?_ ?_
      · rwa [IsTop, sameKind]
      · rw [sameChildren]
        apply insideInduction
        intro child member inner below
        exact same node (by simp) inner (below.tail member)
      · exact laterInduction fun found member =>
          same found (List.mem_cons_of_mem _ member)

theorem exists_row {nodes : List NodeId}
    (each : ∀ node ∈ nodes, ∃ content, document.Shows [node] content) :
    ∃ content, document.Shows nodes content := by
  induction nodes with
  | nil => exact ⟨.nil, .nil⟩
  | cons node nodes induction =>
      obtain ⟨later, behind⟩ :=
        induction fun other member => each other (by simp [member])
      obtain ⟨first, here⟩ := each node (by simp)
      cases here with
      | element kind inside _ => exact ⟨_, .element kind inside behind⟩
      | text kind _ => exact ⟨_, .text kind behind⟩
      | root isTop inside _ => exact ⟨_, .root isTop inside behind⟩

end Shows

/-- Each node of a page shows something: going down over children comes to an
end, since no node of the page stands inside itself. -/
theorem exists_shows (forest : document.IsForest)
    (known : ∃ record, document.record? node = some record) :
    ∃ content, document.Shows [node] content := by
  let inside (inner outer : Fin document.nodes.length) : Prop :=
    document.Encloses ⟨outer⟩ ⟨inner⟩
  have transitive : IsTrans _ inside :=
    ⟨fun _ _ _ first second => second.trans first⟩
  have irreflexive : Std.Irrefl inside :=
    ⟨fun place => not_encloses_self forest ⟨place⟩⟩
  have ends : WellFounded inside := Finite.wellFounded_of_trans_of_irrefl _
  have every (place : Fin document.nodes.length) :
      ∃ content, document.Shows [⟨place⟩] content := by
    induction place using ends.induction with
    | _ place induction =>
        have below : ∃ content,
            document.Shows (document.children ⟨place⟩) content := by
          apply Shows.exists_row
          intro child member
          have isParent := (mem_children_iff forest).mp member
          obtain ⟨record, found⟩ :=
            exists_record_of_kind (forest.parents _ _ isParent).2
          exact induction ⟨child.index, (List.getElem?_eq_some_iff.mp found).1⟩
            (.single (.inl isParent))
        obtain ⟨content, shown⟩ := below
        obtain ⟨record, found⟩ : ∃ record,
            document.record? ⟨place⟩ = some record :=
          ⟨_, List.getElem?_eq_getElem place.isLt⟩
        have isKind : document.kind? ⟨place⟩ = some record.kind := by
          rw [kind?, found]
          rfl
        cases kind : record.kind with
        | element tag attributes =>
            have visible : ∃ content, document.Shows
                (if voidTags.contains tag then []
                  else document.children ⟨place⟩) content := by
              split
              · exact ⟨.nil, .nil⟩
              · exact ⟨content, shown⟩
            obtain ⟨_, shown⟩ := visible
            exact ⟨_, .element (kind ▸ isKind) shown .nil⟩
        | document => exact ⟨_, .root (.inl (kind ▸ isKind)) shown .nil⟩
        | text value => exact ⟨_, .text (kind ▸ isKind) .nil⟩
        | shadowRoot host =>
            exact ⟨_, .root (.inr ⟨host, kind ▸ isKind⟩) shown .nil⟩
  obtain ⟨record, found⟩ := known
  exact every ⟨node.index, (List.getElem?_eq_some_iff.mp found).1⟩

/-! ## Clean markup -/

/-- What is left out of the markup of a node when attributes are omitted. -/
structure IsCleaned (document : Document) (node : NodeId) : Prop where
  /-- Omitting attributes is like removing them from all nodes before. -/
  stripped : ∀ names, document.markup node names =
    (document.stripped names).markup node []
  /-- All that the node shows is written, but for the attributes. -/
  shown : ∀ content, document.Shows [node] content → ∀ names,
    document.markup node names = (content.without names).written
  clean : document.cleanMarkup node = document.markup node
    ["data-locatorjs", "data-locatorjs-id", "data-locatorjs-styled",
      "data-source-file", "data-source-line", "data-source-column"]
  /-- On a page every element shows something. -/
  complete : document.IsForest → document.isElement node = true →
    ∃ content, document.Shows [node] content
  /-- Shadow trees at or below the node do not matter. -/
  shadows : document.IsForest → document.isElement node = true →
    ∀ other : Document,
      (∀ inner, ¬ document.IsShadowed node inner →
        other.record? inner = document.record? inner) →
      ∀ names, other.markup node names = document.markup node names

theorem isCleaned (document : Document) (node : NodeId) :
    document.IsCleaned node := by
  have complete (forest : document.IsForest)
      (element : document.isElement node = true) :
      ∃ content, document.Shows [node] content :=
    exists_shows forest (known_of_isElement element)
  refine ⟨?_, fun _ shows => shows.markup_eq, rfl, complete, ?_⟩
  · intro names
    rw [markup, markup, length_stripped, writtenNode_stripped]
  · intro forest element other same names
    obtain ⟨content, shows⟩ := complete forest element
    have shown : other.Shows [node] content := by
      apply shows.congr
      intro found member inner below
      obtain rfl := List.mem_singleton.mp member
      exact same inner (not_isShadowed_of_isBelow forest below)
    rw [shows.markup_eq, shown.markup_eq]

/-- A card with a title and an image, and with a shadow tree that holds another
text. -/
theorem isCleaned_card :
    let changes : List Change :=
      [.createElement "section", .append ⟨0⟩ ⟨1⟩,
        .setAttribute ⟨1⟩ "class" "a \"card\"",
        .setAttribute ⟨1⟩ "data-locatorjs" "/card.tsx:4:6",
        .createElement "h2", .append ⟨1⟩ ⟨2⟩,
        .setAttribute ⟨2⟩ "data-source-file" "/card.tsx",
        .setAttribute ⟨2⟩ "id" "title",
        .createText "1 < 2", .append ⟨2⟩ ⟨3⟩,
        .createElement "img", .append ⟨1⟩ ⟨4⟩,
        .setAttribute ⟨4⟩ "data-locatorjs-id" "/card.tsx::0",
        .attachShadow ⟨1⟩, .createText "hidden", .append ⟨5⟩ ⟨6⟩]
    ∃ document : Document, empty.afterAll? changes = some document ∧
      document.IsForest ∧ document.isElement ⟨1⟩ = true ∧
      document.IsCleaned ⟨1⟩ ∧ document.IsShadowed ⟨1⟩ ⟨6⟩ ∧
      document.cleanMarkup ⟨1⟩ =
        "<section class=\"a &quot;card&quot;\">" ++
          "<h2 id=\"title\">1 &lt; 2</h2><img></section>" := by
  intro changes
  let document := changes.foldl after empty
  have found : empty.afterAll? changes = some document := by decide +kernel
  have forest : document.IsForest :=
    isForest_of_built (isBuilt_of_afterAll? .empty found)
  have shadowed : document.IsShadowed ⟨1⟩ ⟨6⟩ :=
    ⟨⟨5⟩, ⟨1⟩, .refl, by decide +kernel, .single (by decide +kernel)⟩
  exact ⟨document, found, forest, by decide +kernel, isCleaned document ⟨1⟩,
    shadowed, by decide +kernel⟩

end Document

end Page

end SourceMark
