import SourceMark.Proofs.Page.Walks

/-!
# Locations of nodes that are no elements

The locations of a text are those of its parent when this is an element.  A text
that stands directly in a shadow root has a closest element around it as well,
the host of the root, but the walk outwards does not start there: it finds
nothing.
-/

namespace SourceMark

namespace Page

namespace Document

variable {document : Document} {node inner outer : NodeId}

/-- Shadow roots are nobody's children, and no node stands inside itself. -/
structure IsOrdinary (document : Document) : Prop where
  roots : ∀ root host, document.shadowHost? root = some host →
    document.parent? root = none
  acyclic : ∀ node, ¬ document.Encloses node node

theorem IsForest.isOrdinary (forest : document.IsForest) :
    document.IsOrdinary where
  roots root host isHost := by
    cases found : document.parent? root with
    | none => rfl
    | some parent =>
        have stands := (forest.parents root parent found).2
        rw [shadowHost?_of_mayStand stands] at isHost
        cases isHost
  acyclic := not_encloses_self forest

/-- The closest element that a node stands inside. -/
structure IsClosest (document : Document) (element node : NodeId) : Prop where
  isElement : document.isElement element = true
  encloses : document.Encloses element node
  closest : ∀ other, document.isElement other = true →
    document.Encloses other node → document.EnclosesOrIs other element

/-- There is one way outwards at most. -/
theorem linksTo_unique (ordinary : document.IsOrdinary)
    (first : document.LinksTo outer inner)
    {other : NodeId} (second : document.LinksTo other inner) :
    other = outer := by
  rcases first with isParent | isHost
  · rcases second with isParent' | isHost'
    · exact Option.some.inj (isParent'.symm.trans isParent)
    · rw [ordinary.roots inner other isHost'] at isParent
      cases isParent
  · rcases second with isParent' | isHost'
    · rw [ordinary.roots inner outer isHost] at isParent'
      cases isParent'
    · exact Option.some.inj (isHost'.symm.trans isHost)

theorem enclosesOrIs_of_linksTo (ordinary : document.IsOrdinary)
    (link : document.LinksTo outer inner) {other : NodeId}
    (encloses : document.Encloses other inner) :
    document.EnclosesOrIs other outer := by
  obtain ⟨next, around, further⟩ := Relation.TransGen.tail'_iff.mp encloses
  rwa [linksTo_unique ordinary link further] at around

namespace IsClosest

/-- An element that is next on the way outwards is the closest one. -/
theorem of_linksTo (ordinary : document.IsOrdinary)
    (link : document.LinksTo outer inner)
    (isElement : document.isElement outer = true) :
    document.IsClosest outer inner where
  isElement := isElement
  encloses := .single link
  closest _ _ encloses := enclosesOrIs_of_linksTo ordinary link encloses

/-- What is no element is passed on the way outwards. -/
theorem passed (ordinary : document.IsOrdinary)
    (link : document.LinksTo outer inner)
    (outside : document.isElement outer = false) {element : NodeId}
    (closest : document.IsClosest element outer) :
    document.IsClosest element inner where
  isElement := closest.isElement
  encloses := closest.encloses.tail link
  closest other isElement encloses := by
    rcases Relation.reflTransGen_iff_eq_or_transGen.mp
      (enclosesOrIs_of_linksTo ordinary link encloses) with rfl | further
    · rw [isElement] at outside
      cases outside
    · exact closest.closest other isElement further

theorem unique (ordinary : document.IsOrdinary) {first second : NodeId}
    (one : document.IsClosest first node)
    (other : document.IsClosest second node) : second = first := by
  have around := one.closest second other.isElement other.encloses
  have inside := other.closest first one.isElement one.encloses
  rcases Relation.reflTransGen_iff_eq_or_transGen.mp around with
    same | encloses
  · exact same.symm
  · exact absurd (encloses.trans_left inside) (ordinary.acyclic second)

end IsClosest

/-- What stands inside an element has a closest one around it. -/
theorem exists_isClosest (ordinary : document.IsOrdinary)
    (isElement : document.isElement outer = true)
    (encloses : document.Encloses outer node) :
    ∃ closest, document.IsClosest closest node := by
  induction encloses with
  | single link => exact ⟨outer, .of_linksTo ordinary link isElement⟩
  | @tail middle inner _ link induction =>
      cases test : document.isElement middle with
      | true => exact ⟨middle, .of_linksTo ordinary link test⟩
      | false =>
          obtain ⟨closest, found⟩ := induction
          exact ⟨closest, found.passed ordinary link test⟩

/-- In a forest the closest element around a node is its parent, or else the
node is a shadow root of the element or stands directly in one. -/
theorem IsClosest.parent_or_host (forest : document.IsForest)
    {closest : NodeId} (found : document.IsClosest closest node) :
    document.parent? node = some closest ∨
      ∃ root, (root = node ∨ document.parent? node = some root) ∧
        document.shadowHost? root = some closest := by
  have ordinary := forest.isOrdinary
  obtain ⟨next, _, link⟩ := Relation.TransGen.tail'_iff.mp found.encloses
  rcases link with isParent | isHost
  · by_cases isElement : document.isElement next = true
    · rw [(of_linksTo ordinary (.inl isParent) isElement).unique ordinary found]
      exact .inl isParent
    · -- The parent stands nowhere itself, so it can only have a host.
      have around := enclosesOrIs_of_linksTo ordinary (.inl isParent)
        found.encloses
      rcases Relation.reflTransGen_iff_eq_or_transGen.mp around with
        rfl | encloses
      · exact absurd found.isElement isElement
      · obtain ⟨host, _, further⟩ := Relation.TransGen.tail'_iff.mp encloses
        have holds := (forest.parents node next isParent).1
        have isHost : document.shadowHost? next = some host := by
          rcases further with above | isHost
          · have stands := (forest.parents next host above).2
            exact absurd (isElement_of_mayHold holds stands) isElement
          · exact isHost
        have outside : document.isElement next = false :=
          Bool.eq_false_iff.mpr isElement
        have closest := (of_linksTo ordinary (.inr isHost)
          (forest.hosts _ _ isHost)).passed ordinary (.inl isParent) outside
        rw [closest.unique ordinary found]
        exact .inr ⟨next, .inr isParent, isHost⟩
  · have closest := of_linksTo ordinary (.inr isHost)
      (forest.hosts _ _ isHost)
    rw [closest.unique ordinary found]
    exact .inr ⟨node, .inl rfl, isHost⟩

/-- What a walk from a node that is no element finds, compared with the closest
element around the node. -/
structure StartsFrom (document : Document) (node element : NodeId) : Prop where
  closest : document.IsClosest element node
  unique : ∀ other, document.IsClosest other node → other = element
  agrees : ∀ resolver : Resolver,
    resolver.origins document node = resolver.origins document element ↔
      document.parent? node = some element ∨
        resolver.origins document element = []
  apart : document.parent? node ≠ some element →
    ∀ resolver : Resolver, resolver.origins document node = []
  /-- On a page the node is then a shadow root or stands directly in one. -/
  stands : document.IsForest → document.parent? node = some element ∨
    ∃ root, (root = node ∨ document.parent? node = some root) ∧
      document.shadowHost? root = some element

theorem origins_of_parent? (outside : document.isElement node = false)
    (isParent : document.parent? node = some outer)
    (isElement : document.isElement outer = true) (resolver : Resolver) :
    resolver.origins document node = resolver.origins document outer := by
  have nearest : document.nearestElement? node = some outer := by
    simp [nearestElement?, outside, parentElement?, isParent, isElement]
  have itself : document.nearestElement? outer = some outer := by
    simp [nearestElement?, isElement]
  simp only [Resolver.origins, elementsAround, nearest, itself]

/-- A node whose parent is not the closest element around it has no parent
element. -/
theorem origins_eq_nil (ordinary : document.IsOrdinary)
    (outside : document.isElement node = false) {closest : NodeId}
    (found : document.IsClosest closest node)
    (apart : document.parent? node ≠ some closest) (resolver : Resolver) :
    resolver.origins document node = [] := by
  have missing : document.parentElement? node = none := by
    unfold parentElement?
    rw [Option.filter_eq_none_iff]
    intro parent isParent isElement
    have closer := IsClosest.of_linksTo ordinary (.inl isParent) isElement
    rw [closer.unique ordinary found] at apart
    exact apart isParent
  have nearest : document.nearestElement? node = none := by
    simp [nearestElement?, outside, missing]
  simp [Resolver.origins, elementsAround, nearest]

/-- The locations of a node that is no element are those of the closest element
around it exactly when this is its parent or has no locations; otherwise nothing
is found. -/
theorem exists_startsFrom (ordinary : document.IsOrdinary)
    (outside : document.isElement node = false)
    (isElement : document.isElement outer = true)
    (encloses : document.Encloses outer node) :
    ∃ closest, document.StartsFrom node closest := by
  obtain ⟨closest, found⟩ := exists_isClosest ordinary isElement encloses
  have apart := origins_eq_nil ordinary outside found
  refine ⟨closest, found, fun other => found.unique ordinary, ?_, apart,
    fun forest => found.parent_or_host forest⟩
  intro resolver
  constructor
  · intro agrees
    by_cases isParent : document.parent? node = some closest
    · exact .inl isParent
    · rw [apart isParent resolver] at agrees
      exact .inr agrees.symm
  · rintro (isParent | nothing)
    · exact origins_of_parent? outside isParent found.isElement resolver
    · by_cases isParent : document.parent? node = some closest
      · exact origins_of_parent? outside isParent found.isElement resolver
      · rw [apart isParent resolver, nothing]

/-- Two texts in a shadow tree: one in a paragraph, which it starts from, and the
other directly in the root, which starts from nowhere. -/
theorem exists_startsFrom_shadow :
    let changes : List Change :=
      [.createElement "main", .append ⟨0⟩ ⟨1⟩,
        .setAttribute ⟨1⟩ "data-locatorjs" "/app.tsx:3:2",
        .createElement "x-card", .append ⟨1⟩ ⟨2⟩,
        .setAttribute ⟨2⟩ "data-locatorjs" "/app.tsx:4:4",
        .attachShadow ⟨2⟩, .createElement "p", .append ⟨3⟩ ⟨4⟩,
        .createText "inside", .append ⟨4⟩ ⟨5⟩,
        .createText "outside", .append ⟨3⟩ ⟨6⟩]
    ∃ document : Document, empty.afterAll? changes = some document ∧
      document.IsOrdinary ∧ document.isElement ⟨5⟩ = false ∧
      document.isElement ⟨6⟩ = false ∧ document.isElement ⟨2⟩ = true ∧
      document.Encloses ⟨2⟩ ⟨5⟩ ∧ document.Encloses ⟨2⟩ ⟨6⟩ ∧
      document.StartsFrom ⟨5⟩ ⟨4⟩ ∧ document.StartsFrom ⟨6⟩ ⟨2⟩ ∧
      (Resolver.plain.origins document ⟨5⟩).map Origin.element =
        [⟨2⟩, ⟨1⟩] ∧
      Resolver.plain.origins document ⟨6⟩ = [] := by
  intro changes
  let document := changes.foldl after empty
  have found : empty.afterAll? changes = some document := by decide +kernel
  have ordinary : document.IsOrdinary :=
    (isForest_of_built (isBuilt_of_afterAll? .empty found)).isOrdinary
  have first : document.isElement ⟨5⟩ = false := by decide +kernel
  have second : document.isElement ⟨6⟩ = false := by decide +kernel
  have host : document.isElement ⟨2⟩ = true := by decide +kernel
  have paragraph : document.isElement ⟨4⟩ = true := by decide +kernel
  have root : document.isElement ⟨3⟩ = false := by decide +kernel
  have toHost : document.LinksTo ⟨2⟩ ⟨3⟩ := .inr (by decide +kernel)
  have toRoot : document.LinksTo ⟨3⟩ ⟨4⟩ := .inl (by decide +kernel)
  have toParagraph : document.LinksTo ⟨4⟩ ⟨5⟩ := .inl (by decide +kernel)
  have besides : document.LinksTo ⟨3⟩ ⟨6⟩ := .inl (by decide +kernel)
  have inside : document.Encloses ⟨2⟩ ⟨5⟩ :=
    .tail (.tail (.single toHost) toRoot) toParagraph
  have directly : document.Encloses ⟨2⟩ ⟨6⟩ := .tail (.single toHost) besides
  obtain ⟨closest, starts⟩ := exists_startsFrom ordinary first host inside
  obtain rfl := starts.unique ⟨4⟩ (.of_linksTo ordinary toParagraph paragraph)
  obtain ⟨closest, apart⟩ := exists_startsFrom ordinary second host directly
  obtain rfl := apart.unique ⟨2⟩
    (.passed ordinary besides root (.of_linksTo ordinary toHost host))
  exact ⟨document, found, ordinary, first, second, host, inside, directly,
    starts, apart, by decide +kernel,
    apart.apart (by decide +kernel) Resolver.plain⟩

/-- A text directly in a shadow root has none of the locations that the host
has. -/
theorem not_origins_eq_of_isClosest :
    ¬ ∀ (resolver : Resolver) (document : Document) (node element : NodeId),
      document.IsBuilt → document.isElement node = false →
      document.IsClosest element node →
      resolver.origins document node = resolver.origins document element := by
  intro agrees
  let changes : List Change :=
    [.createElement "x-card", .append ⟨0⟩ ⟨1⟩,
      .setAttribute ⟨1⟩ "data-locatorjs" "/a.tsx:1:0",
      .attachShadow ⟨1⟩, .createText "hi", .append ⟨2⟩ ⟨3⟩]
  let document := changes.foldl after empty
  have found : empty.afterAll? changes = some document := by decide +kernel
  have built : document.IsBuilt := isBuilt_of_afterAll? .empty found
  have ordinary := (isForest_of_built built).isOrdinary
  have toHost : document.LinksTo ⟨1⟩ ⟨2⟩ := .inr (by decide +kernel)
  have toRoot : document.LinksTo ⟨2⟩ ⟨3⟩ := .inl (by decide +kernel)
  have closest : document.IsClosest ⟨1⟩ ⟨3⟩ :=
    .passed ordinary toRoot (by decide +kernel)
      (.of_linksTo ordinary toHost (by decide +kernel))
  have same := agrees Resolver.plain document ⟨3⟩ ⟨1⟩ built
    (by decide +kernel) closest
  have differ : Resolver.plain.origins document ⟨3⟩ ≠
      Resolver.plain.origins document ⟨1⟩ := by
    decide +kernel
  exact differ same

end Document

end Page

end SourceMark
