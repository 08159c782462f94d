import Mathlib.Data.List.Nodup
import Mathlib.Data.List.Perm.Subperm
import Mathlib.Order.WellFounded
import SourceMark.Page.Resolver
import SourceMark.Proofs.Page.Trees

/-!
# Walks outwards

A walk follows links from a node until there is none.  In a forest every walk
ends before it is cut off at the number of nodes.  The walk over the elements
around an element takes parent elements, and at the top of a shadow tree the
host; it passes every element that the element stands inside, and no other
node.

Links that run in a circle are cut off, but a way without detours passes no node
twice, so by then the walk has passed everything that there is to pass.  Hence
the search for an attribute among the elements around an element misses none of
them, be the document a forest or not.
-/

namespace SourceMark

namespace Page

/-- A node and all that is reached from it by a link, up to a node without
one. -/
inductive IsWalk (link : NodeId → Option NodeId) :
    NodeId → List NodeId → Prop where
  | stop {node : NodeId} : link node = none → IsWalk link node [node]
  | next {node next : NodeId} {nodes : List NodeId} : link node = some next →
      IsWalk link next nodes → IsWalk link node (node :: nodes)

namespace IsWalk

variable {link : NodeId → Option NodeId} {node : NodeId} {nodes : List NodeId}

/-- A walk that is not longer than the bound is not cut off. -/
theorem chain_eq (walk : IsWalk link node nodes) {links : Nat}
    (short : nodes.length ≤ links + 1) :
    Document.chain link links node = nodes := by
  induction walk generalizing links with
  | stop none =>
      cases links with
      | zero => rfl
      | succ links => rw [Document.chain, none]
  | next found walk induction =>
      cases links with
      | zero =>
          cases walk with
          | stop _ => simp at short
          | next _ _ => simp at short
      | succ links =>
          rw [Document.chain, found]
          simp only [List.cons.injEq, true_and]
          apply induction
          simpa using short

theorem getLast?_eq_none (walk : IsWalk link node nodes) :
    ∀ last ∈ nodes.getLast?, link last = none := by
  induction walk with
  | stop none =>
      intro last member
      obtain rfl : _ = last := by simpa using member
      exact none
  | next found walk induction =>
      intro last member
      apply induction last
      cases walk with
      | stop _ => simpa using member
      | next _ _ => simpa using member

end IsWalk

namespace Document

variable {document : Document}

/-- A link that leads outwards, to nodes of the page. -/
structure IsOutward (document : Document)
    (link : NodeId → Option NodeId) : Prop where
  encloses : ∀ {inner outer}, link inner = some outer →
    document.Encloses outer inner
  known : ∀ {inner outer}, link inner = some outer →
    ∃ record, document.record? outer = some record

section Outward

variable {link : NodeId → Option NodeId} {node : NodeId} {nodes : List NodeId}

/-- In a forest no node stands inside itself. -/
theorem not_encloses_self (forest : document.IsForest) (node : NodeId) :
    ¬ document.Encloses node node := by
  intro inside
  exact forest.outwards.transGen.asymmetric _ _ inside inside

theorem exists_walk (forest : document.IsForest)
    (outward : document.IsOutward link) (node : NodeId) :
    ∃ nodes, IsWalk link node nodes := by
  induction node using forest.outwards.transGen.induction with
  | _ node induction =>
      cases found : link node with
      | none => exact ⟨[node], .stop found⟩
      | some next =>
          obtain ⟨nodes, walk⟩ := induction next (outward.encloses found)
          exact ⟨node :: nodes, .next found walk⟩

/-- All nodes on a walk are where it started or around it. -/
theorem enclosesOrIs_of_mem (outward : document.IsOutward link)
    (walk : IsWalk link node nodes) :
    ∀ outer ∈ nodes, document.EnclosesOrIs outer node := by
  induction walk with
  | stop _ =>
      intro outer member
      obtain rfl := List.mem_singleton.mp member
      exact .refl
  | next found walk induction =>
      intro outer member
      rcases List.mem_cons.mp member with rfl | later
      · exact .refl
      · exact (induction outer later).trans
          (outward.encloses found).to_reflTransGen

/-- A walk leads from the inside out. -/
theorem pairwise_of_walk (outward : document.IsOutward link)
    (walk : IsWalk link node nodes) :
    nodes.Pairwise fun inner outer => document.Encloses outer inner := by
  induction walk with
  | stop _ => exact List.pairwise_singleton _ _
  | next found walk induction =>
      refine List.pairwise_cons.mpr ⟨?_, induction⟩
      intro outer member
      exact .trans_right (enclosesOrIs_of_mem outward walk outer member)
        (outward.encloses found)

theorem nodup_of_pairwise (forest : document.IsForest)
    (pairwise : nodes.Pairwise fun inner outer =>
      document.Encloses outer inner) : nodes.Nodup := by
  apply pairwise.imp
  rintro inner outer encloses rfl
  exact not_encloses_self forest inner encloses

theorem known_of_mem_walk (outward : document.IsOutward link)
    (walk : IsWalk link node nodes)
    (known : ∃ record, document.record? node = some record) :
    ∀ other ∈ nodes, ∃ record, document.record? other = some record := by
  induction walk with
  | stop _ =>
      intro other member
      obtain rfl := List.mem_singleton.mp member
      exact known
  | next found walk induction =>
      intro other member
      rcases List.mem_cons.mp member with rfl | later
      · exact known
      · exact induction (outward.known found) other later

/-- There are no more different nodes than records. -/
theorem length_le_of_nodup (nodup : nodes.Nodup)
    (known : ∀ other ∈ nodes, ∃ record, document.record? other = some record) :
    nodes.length ≤ document.nodes.length := by
  have injective : Function.Injective NodeId.index := by
    rintro ⟨first⟩ ⟨second⟩ rfl
    rfl
  have inside : nodes.map NodeId.index ⊆
      List.range document.nodes.length := by
    intro index member
    obtain ⟨other, here, rfl⟩ := List.mem_map.mp member
    obtain ⟨record, found⟩ := known other here
    exact List.mem_range.mpr (List.getElem?_eq_some_iff.mp found).1
  have bound :=
    (List.subperm_of_subset (nodup.map injective) inside).length_le
  simpa using bound

/-- In a forest the walk outwards from a node ends by itself. -/
theorem walk_reached (forest : document.IsForest)
    (outward : document.IsOutward link)
    (known : ∃ record, document.record? node = some record) :
    IsWalk link node (document.reached link node) := by
  obtain ⟨nodes, walk⟩ := exists_walk forest outward node
  have nodup : nodes.Nodup :=
    nodup_of_pairwise forest (pairwise_of_walk outward walk)
  have short : nodes.length ≤ document.nodes.length :=
    length_le_of_nodup nodup (known_of_mem_walk outward walk known)
  unfold reached
  rw [walk.chain_eq (Nat.le_succ_of_le short)]
  exact walk

/-- A walk that misses none of the nodes with some property passes exactly those
that enclose where it starts. -/
theorem mem_walk_iff {passed : NodeId → Prop}
    (outward : document.IsOutward link)
    (stays : ∀ inner outer, link inner = some outer → passed outer)
    (complete : ∀ inner outer, passed inner → passed outer →
      document.Encloses outer inner →
      ∃ next, link inner = some next ∧ document.EnclosesOrIs outer next)
    (walk : IsWalk link node nodes) (start : passed node) {outer : NodeId} :
    outer ∈ nodes ↔ passed outer ∧ document.EnclosesOrIs outer node := by
  induction walk with
  | stop none =>
      rw [List.mem_singleton]
      constructor
      · rintro rfl
        exact ⟨start, .refl⟩
      · rintro ⟨here, reached⟩
        rcases Relation.reflTransGen_iff_eq_or_transGen.mp reached with
          rfl | encloses
        · rfl
        · obtain ⟨next, found, _⟩ := complete _ outer start here encloses
          rw [none] at found
          simp at found
  | next found walk induction =>
      rw [List.mem_cons, induction (stays _ _ found)]
      constructor
      · rintro (rfl | ⟨here, reached⟩)
        · exact ⟨start, .refl⟩
        · exact ⟨here,
            reached.trans (outward.encloses found).to_reflTransGen⟩
      · rintro ⟨here, reached⟩
        rcases Relation.reflTransGen_iff_eq_or_transGen.mp reached with
          rfl | encloses
        · exact .inl rfl
        · obtain ⟨next, further, around⟩ :=
            complete _ outer start here encloses
          rw [found] at further
          obtain rfl := Option.some.inj further
          exact .inr ⟨here, around⟩

end Outward

/-! ## The elements around an element -/

theorem isOutward_parent? (forest : document.IsForest) :
    document.IsOutward document.parent? where
  encloses found := .single (.inl found)
  known found := exists_record_of_kind (forest.parents _ _ found).1

/-- The outermost node on the way over parents has no parent. -/
theorem parent?_rootOf (forest : document.IsForest) {node : NodeId}
    (known : ∃ record, document.record? node = some record) :
    document.parent? (document.rootOf node) = none := by
  have walk := walk_reached forest (isOutward_parent? forest) known
  unfold rootOf
  cases last : (document.reached document.parent? node).getLast? with
  | none =>
      rw [List.getLast?_eq_none_iff] at last
      rw [last] at walk
      cases walk
  | some outermost => exact walk.getLast?_eq_none outermost last

theorem rootOf_enclosesOrIs (document : Document) (node : NodeId) :
    document.EnclosesOrIs (document.rootOf node) node := by
  have below (links : Nat) (node : NodeId) :
      ∀ outer ∈ chain document.parent? links node,
        document.EnclosesOrIs outer node := by
    induction links generalizing node with
    | zero =>
        intro outer member
        obtain rfl := List.mem_singleton.mp member
        exact .refl
    | succ links induction =>
        intro outer member
        rw [chain] at member
        rcases List.mem_cons.mp member with rfl | later
        · exact .refl
        · split at later
          · next next found =>
              exact (induction next outer later).tail (.inl found)
          · simp at later
  unfold rootOf
  cases last : (document.reached document.parent? node).getLast? with
  | none => exact .refl
  | some outermost =>
      exact below _ node outermost (List.mem_of_getLast? last)

theorem isElement_of_outerElement? (forest : document.IsForest)
    {inner outer : NodeId} (found : document.outerElement? inner = some outer) :
    document.isElement outer = true := by
  unfold outerElement? at found
  split at found
  · next parent isParent =>
      obtain rfl := Option.some.inj found
      exact isElement_of_parentElement? isParent
  · exact forest.hosts _ _ found

theorem isOutward_outerElement? (forest : document.IsForest) :
    document.IsOutward document.outerElement? where
  encloses {inner outer} found := by
    unfold outerElement? at found
    split at found
    · next parent isParent =>
        obtain rfl := Option.some.inj found
        exact .single (.inl (Option.filter_eq_some_iff.mp isParent).1)
    · exact .trans_left (.single (.inr found))
        (document.rootOf_enclosesOrIs inner)
  known found := known_of_isElement (isElement_of_outerElement? forest found)

/-- The top of the tree of a node whose parent has no parent. -/
theorem rootOf_of_parent? {node parent : NodeId}
    (found : document.parent? node = some parent)
    (top : document.parent? parent = none) :
    document.rootOf node = parent := by
  have walk : IsWalk document.parent? node [node, parent] :=
    .next found (.stop top)
  have known : node.index < document.nodes.length := by
    obtain ⟨record, equality, _⟩ := Option.bind_eq_some_iff.mp found
    exact (List.getElem?_eq_some_iff.mp equality).1
  unfold rootOf reached
  rw [walk.chain_eq (by simp only [List.length_cons, List.length_nil]; omega)]
  rfl

/-- An element that another one stands inside is the next one outwards, or the
next one stands inside it. -/
theorem outerElement?_of_encloses (forest : document.IsForest)
    {outer inner : NodeId} (element : document.isElement inner = true)
    (isElement : document.isElement outer = true)
    (encloses : document.Encloses outer inner) :
    ∃ next, document.outerElement? inner = some next ∧
      document.EnclosesOrIs outer next := by
  obtain ⟨parent, around, link⟩ := Relation.TransGen.tail'_iff.mp encloses
  have isParent : document.parent? inner = some parent := by
    rcases link with isParent | isHost
    · exact isParent
    · rw [shadowHost?_of_mayStand (mayStand_of_isElement element)] at isHost
      simp at isHost
  by_cases parentElement : document.isElement parent = true
  · refine ⟨parent, ?_, around⟩
    have found : document.parentElement? inner = some parent :=
      Option.filter_eq_some_iff.mpr ⟨isParent, parentElement⟩
    simp [outerElement?, found]
  · rcases around.cases_tail with rfl | ⟨host, further, upwards⟩
    · exact absurd isElement parentElement
    · have holds := (forest.parents inner parent isParent).1
      -- What holds children and is no element stands nowhere itself.
      have top : document.parent? parent = none := by
        cases grand : document.parent? parent with
        | none => rfl
        | some above =>
            have stands := (forest.parents parent above grand).2
            exact absurd (isElement_of_mayHold holds stands) parentElement
      have isHost : document.shadowHost? parent = some host := by
        rcases upwards with above | isHost
        · rw [top] at above
          simp at above
        · exact isHost
      have missing : document.parentElement? inner = none := by
        unfold parentElement?
        rw [isParent]
        simp [parentElement]
      refine ⟨host, ?_, further⟩
      simp only [outerElement?, missing, rootOf_of_parent? isParent top]
      exact isHost

/-- The walk passes exactly the elements that enclose where it starts. -/
theorem mem_walk_outerElement? (forest : document.IsForest)
    {element outer : NodeId} {nodes : List NodeId}
    (walk : IsWalk document.outerElement? element nodes)
    (isElement : document.isElement element = true) :
    outer ∈ nodes ↔ document.isElement outer = true ∧
      document.EnclosesOrIs outer element := by
  apply mem_walk_iff (isOutward_outerElement? forest) _ _ walk isElement
  · intro inner outer found
    exact isElement_of_outerElement? forest found
  · intro inner outer innerElement outerElement encloses
    exact outerElement?_of_encloses forest innerElement outerElement encloses

/-! ## Checking changes -/

/-- The parent of a node, or the host of a shadow root. -/
def outward? (document : Document) (node : NodeId) : Option NodeId :=
  (document.parent? node).or (document.shadowHost? node)

theorem linksTo_iff (forest : document.IsForest) {outer inner : NodeId} :
    document.LinksTo outer inner ↔ document.outward? inner = some outer := by
  unfold LinksTo outward?
  rw [Option.or_eq_some_iff]
  constructor
  · rintro (isParent | isHost)
    · exact .inl isParent
    · refine .inr ⟨?_, isHost⟩
      cases found : document.parent? inner with
      | none => rfl
      | some parent =>
          have stands := (forest.parents inner parent found).2
          rw [shadowHost?_of_mayStand stands] at isHost
          simp at isHost
  · rintro (isParent | ⟨_, isHost⟩)
    · exact .inl isParent
    · exact .inr isHost

theorem isOutward_outward? (forest : document.IsForest) :
    document.IsOutward document.outward? where
  encloses found := .single ((linksTo_iff forest).mpr found)
  known found := by
    rcases (linksTo_iff forest).mpr found with isParent | isHost
    · exact exists_record_of_kind (forest.parents _ _ isParent).1
    · exact known_of_isElement (forest.hosts _ _ isHost)

/-- What encloses a node can be found by a walk. -/
theorem mem_reached_outward? (forest : document.IsForest)
    {outer inner : NodeId}
    (known : ∃ record, document.record? inner = some record) :
    outer ∈ document.reached document.outward? inner ↔
      document.EnclosesOrIs outer inner := by
  have outward := isOutward_outward? forest
  have walk := walk_reached forest outward known
  have complete (inner outer : NodeId)
      (encloses : document.Encloses outer inner) :
      ∃ next, document.outward? inner = some next ∧
        document.EnclosesOrIs outer next := by
    obtain ⟨next, around, link⟩ := Relation.TransGen.tail'_iff.mp encloses
    exact ⟨next, (linksTo_iff forest).mp link, around⟩
  have members : outer ∈ document.reached document.outward? inner ↔
      True ∧ document.EnclosesOrIs outer inner :=
    mem_walk_iff outward (fun _ _ _ => True.intro)
      (fun inner outer _ _ => complete inner outer) walk True.intro
  rwa [true_and] at members

end Document

/-- Decides whether a change of a forest is proper. -/
def Change.isProper (document : Document) : Change → Bool
  | .attachShadow host => document.isElement host
  | .append parent node =>
      document.mayHold parent && document.mayStand node &&
        !(document.reached document.outward? parent).contains node
  | _ => true

theorem Change.isProper_iff {document : Document}
    (forest : document.IsForest) (change : Change) :
    change.isProper document = true ↔ change.IsProper document := by
  cases change with
  | append parent node =>
      unfold isProper IsProper
      rw [Bool.and_eq_true, Bool.and_eq_true, and_assoc]
      refine and_congr_right fun holds => and_congr_right fun _ => ?_
      rw [← Document.mem_reached_outward? forest
        (Document.exists_record_of_kind holds)]
      simp
  | createElement tag => exact iff_of_true rfl True.intro
  | createText value => exact iff_of_true rfl True.intro
  | attachShadow host => exact Iff.rfl
  | setAttribute node name value => exact iff_of_true rfl True.intro
  | removeAttribute node name => exact iff_of_true rfl True.intro

namespace Document

variable {document : Document}

/-- The document after some changes, unless one of them is not proper. -/
def afterAll? : Document → List Change → Option Document
  | document, [] => some document
  | document, change :: changes =>
      if change.isProper document then
        afterAll? (document.after change) changes
      else
        none

theorem isBuilt_of_afterAll? {later : Document} {changes : List Change}
    (built : document.IsBuilt)
    (found : document.afterAll? changes = some later) : later.IsBuilt := by
  induction changes generalizing document with
  | nil =>
      obtain rfl := Option.some.inj found
      exact built
  | cons change changes induction =>
      rw [afterAll?] at found
      split at found
      · next proper =>
          apply induction _ found
          exact .change built
            ((change.isProper_iff (isForest_of_built built)).mp proper)
      · simp at found

/-! ## The locations around an element -/

theorem element_of_origin? {resolver : Resolver} {element : NodeId}
    {origin : Origin}
    (found : resolver.origin? document element = some origin) :
    origin.element = element := by
  obtain ⟨location, _, rfl⟩ := Option.map_eq_some_iff.mp found
  rfl

/-- Locations come from the inside out, as the elements do. -/
theorem pairwise_origins {nodes : List NodeId} (resolver : Resolver)
    (pairwise : nodes.Pairwise fun inner outer =>
      document.Encloses outer inner) :
    (nodes.filterMap (resolver.origin? document)).Pairwise fun first second =>
      document.Encloses second.element first.element := by
  rw [List.pairwise_filterMap]
  apply pairwise.imp
  intro inner outer encloses first found second later
  rw [element_of_origin? found, element_of_origin? later]
  exact encloses

/-- On a page that proper changes lead to, children and parents agree and links
come to an end.  The locations of an element are those of all the elements that
it is or stands inside, through any number of shadow roots, from the inside out
and each one once. -/
theorem origins_of_built (built : document.IsBuilt) :
    (∀ parent child, (document.children parent).count child =
        if document.parent? child = some parent then 1 else 0) ∧
      WellFounded document.LinksTo ∧
      ∀ (resolver : Resolver) (element : NodeId),
        document.isElement element = true →
          ∃ around : List NodeId,
            resolver.origins document element =
                around.filterMap (resolver.origin? document) ∧
              IsWalk document.outerElement? element around ∧
              (∀ inner ∈ around,
                document.parent? (document.rootOf inner) = none) ∧
              (∀ outer, outer ∈ around ↔ document.isElement outer = true ∧
                document.EnclosesOrIs outer element) ∧
              (around.Pairwise fun inner outer =>
                document.Encloses outer inner) ∧
              around.Nodup ∧
              ((resolver.origins document element).Pairwise
                fun first second =>
                  document.Encloses second.element first.element) ∧
              ((resolver.origins document element).map
                Origin.element).Nodup := by
  have forest := isForest_of_built built
  refine ⟨forest.counts, forest.outwards, ?_⟩
  intro resolver element isElement
  have outward := isOutward_outerElement? forest
  have known := known_of_isElement isElement
  let around := document.reached document.outerElement? element
  have walk : IsWalk document.outerElement? element around :=
    walk_reached forest outward known
  have pairwise : around.Pairwise fun inner outer =>
      document.Encloses outer inner := pairwise_of_walk outward walk
  have equality : resolver.origins document element =
      around.filterMap (resolver.origin? document) := by
    simp [Resolver.origins, elementsAround, nearestElement?, isElement, around]
  have ordered := pairwise_origins resolver pairwise
  rw [equality]
  refine ⟨around, rfl, walk, ?_, ?_, pairwise,
    nodup_of_pairwise forest pairwise, ordered, ?_⟩
  · intro inner member
    exact parent?_rootOf forest (known_of_mem_walk outward walk known inner member)
  · intro outer
    exact mem_walk_outerElement? forest walk isElement
  · apply nodup_of_pairwise forest
    rw [List.pairwise_map]
    exact ordered

/-- A paragraph in a shadow tree inside another one, whose outer host was moved
into another section. -/
theorem origins_of_built_shadows :
    let changes : List Change :=
      [.createElement "main", .append ⟨0⟩ ⟨1⟩,
        .setAttribute ⟨1⟩ "data-locatorjs" "/app.tsx:3:2",
        .createElement "x-card", .append ⟨1⟩ ⟨2⟩, .attachShadow ⟨2⟩,
        .createElement "x-list", .append ⟨3⟩ ⟨4⟩,
        .setAttribute ⟨4⟩ "data-locatorjs" "/card.tsx:7:4",
        .attachShadow ⟨4⟩, .createElement "p", .append ⟨5⟩ ⟨6⟩,
        .setAttribute ⟨6⟩ "data-locatorjs" "/list.tsx:1:0",
        .createElement "section", .append ⟨1⟩ ⟨7⟩, .append ⟨7⟩ ⟨2⟩]
    ∃ document : Document, empty.afterAll? changes = some document ∧
      document.IsBuilt ∧ document.isElement ⟨6⟩ = true ∧
      (Resolver.plain.origins document ⟨6⟩).map Origin.element =
        [⟨6⟩, ⟨4⟩, ⟨1⟩] ∧
      document.Encloses ⟨4⟩ ⟨6⟩ ∧ document.Encloses ⟨1⟩ ⟨4⟩ := by
  intro changes
  let document := changes.foldl after empty
  have found : empty.afterAll? changes = some document := by decide +kernel
  have built := isBuilt_of_afterAll? .empty found
  have isElement : document.isElement ⟨6⟩ = true := by decide +kernel
  have elements : (Resolver.plain.origins document ⟨6⟩).map Origin.element =
      [⟨6⟩, ⟨4⟩, ⟨1⟩] := by
    decide +kernel
  obtain ⟨_, _, _, _, _, _, _, ordered, _⟩ :=
    (origins_of_built built).2.2 Resolver.plain ⟨6⟩ isElement
  have chain : List.Pairwise
      (fun inner outer => document.Encloses outer inner)
      ([⟨6⟩, ⟨4⟩, ⟨1⟩] : List NodeId) := by
    rw [← elements, List.pairwise_map]
    exact ordered
  refine ⟨document, found, built, isElement, elements, ?_, ?_⟩
  · exact List.rel_of_pairwise_cons chain (by simp)
  · exact List.rel_of_pairwise_cons (List.Pairwise.of_cons chain) (by simp)

end Document

/-! ## Walks in any document -/

/-- A way from a node along a link, with all nodes that it passes. -/
inductive IsWay (link : NodeId → Option NodeId) (outer : NodeId) :
    NodeId → List NodeId → Prop where
  | stay : IsWay link outer outer [outer]
  | next {inner next : NodeId} {nodes : List NodeId} :
      link inner = some next → IsWay link outer next nodes →
      IsWay link outer inner (inner :: nodes)

namespace IsWay

variable {link : NodeId → Option NodeId} {inner outer : NodeId}
  {nodes : List NodeId}

/-- From any node that a way passes the rest of it leads on. -/
theorem from_mem (way : IsWay link outer inner nodes) {middle : NodeId}
    (member : middle ∈ nodes) :
    ∃ rest, IsWay link outer middle rest ∧ rest.Sublist nodes := by
  induction way with
  | stay =>
      obtain rfl := List.mem_singleton.mp member
      exact ⟨_, .stay, .refl _⟩
  | next found way induction =>
      rcases List.mem_cons.mp member with rfl | later
      · exact ⟨_, .next found way, .refl _⟩
      · obtain ⟨rest, further, within⟩ := induction later
        exact ⟨rest, further, within.cons _⟩

/-- A way need not pass any node twice. -/
theorem exists_nodup (way : IsWay link outer inner nodes) :
    ∃ direct, IsWay link outer inner direct ∧ direct.Nodup ∧
      direct.Sublist nodes := by
  induction way with
  | stay => exact ⟨_, .stay, List.nodup_singleton _, .refl _⟩
  | @next inner next nodes found way induction =>
      obtain ⟨direct, further, nodup, within⟩ := induction
      by_cases again : inner ∈ direct
      · obtain ⟨rest, shorter, part⟩ := further.from_mem again
        exact ⟨rest, shorter, nodup.sublist part, (part.trans within).cons _⟩
      · exact ⟨inner :: direct, .next found further,
          List.nodup_cons.mpr ⟨again, nodup⟩, within.cons_cons _⟩

theorem mem_chain (way : IsWay link outer inner nodes) {links : Nat}
    (short : nodes.length ≤ links + 1) :
    outer ∈ Document.chain link links inner := by
  induction way generalizing links with
  | stay =>
      cases links with
      | zero => simp [Document.chain]
      | succ links => simp [Document.chain]
  | next found way induction =>
      cases links with
      | zero =>
          cases way with
          | stay => simp at short
          | next _ _ => simp at short
      | succ links =>
          rw [Document.chain, found]
          exact List.mem_cons_of_mem _ (induction (by simpa using short))

end IsWay

namespace Document

variable {document : Document} {element outer : NodeId}

theorem isWay_of_isAround (holds : document.isElement element = true)
    (around : document.IsAround outer element) :
    ∃ nodes, IsWay document.parentElement? outer element nodes ∧
      ∀ node ∈ nodes, document.isElement node = true := by
  induction around with
  | self _ => exact ⟨_, .stay, fun node member =>
      List.mem_singleton.mp member ▸ holds⟩
  | parent found _ induction =>
      obtain ⟨nodes, way, elements⟩ :=
        induction (isElement_of_parentElement? found)
      exact ⟨_, .next found way, List.forall_mem_cons.mpr ⟨holds, elements⟩⟩

/-- The walk over parent elements passes exactly the elements around an
element. -/
theorem mem_reached_iff (holds : document.isElement element = true) :
    outer ∈ document.reached document.parentElement? element ↔
      document.IsAround outer element := by
  constructor
  · exact isAround_of_mem_chain holds
  · intro around
    obtain ⟨nodes, way, elements⟩ := isWay_of_isAround holds around
    obtain ⟨direct, further, nodup, within⟩ := way.exists_nodup
    have short : direct.length ≤ document.nodes.length := by
      apply length_le_of_nodup nodup
      intro node member
      exact known_of_isElement (elements node (within.subset member))
    exact further.mem_chain (Nat.le_succ_of_le short)

/-- No element with an attribute is found exactly when none around the element
has it. -/
theorem closestWith?_eq_none_iff {name : String}
    (holds : document.isElement element = true) :
    document.closestWith? element name = none ↔
      ∀ outer, document.IsAround outer element →
        document.attribute? outer name = none := by
  constructor
  · intro missed outer around
    have passed := (mem_reached_iff holds).mpr around
    simp only [closestWith?, nearestElement?_of_isElement holds,
      List.find?_eq_none] at missed
    simpa using missed outer passed
  · exact closestWith?_eq_none holds

end Document

end Page

end SourceMark
