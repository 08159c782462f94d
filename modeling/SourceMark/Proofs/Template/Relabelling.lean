import SourceMark.Proofs.Template.Elements

/-!
# Trees with other attributes

Where an element stands and which attributes it has do not matter for the shape
of a tree, as long as the directives stay the same: reading tokens with changed
attributes gives the tree with changed attributes.
-/

namespace SourceMark

namespace Template

/-- The place of everything in a tree whose places do not matter. -/
def Place.nowhere : Place :=
  { offset := 0, position := { line := 0, column := 0 } }

mutual

/-- A node with other attributes and without places. -/
def Node.relabel (change : Element → List TagAttribute) : Node → Node
  | .element tag attributes place selfClosing children =>
      .element tag (change { tag, attributes, place }) .nowhere selfClosing
        (Node.relabelAll change children)
  | .repeated source child => .repeated source (child.relabel change)
  | .choice branches => .choice (Node.relabelBranches change branches)
  | .text value => .text value
  | .interpolation value => .interpolation value
  | .comment value => .comment value

/-- Nodes with other attributes and without places. -/
def Node.relabelAll (change : Element → List TagAttribute) :
    List Node → List Node
  | [] => []
  | node :: nodes => node.relabel change :: Node.relabelAll change nodes

/-- Branches with other attributes and without places. -/
def Node.relabelBranches (change : Element → List TagAttribute) :
    List (Option String × Node) → List (Option String × Node)
  | [] => []
  | (condition, node) :: branches =>
      (condition, node.relabel change) :: Node.relabelBranches change branches

end

/-- The attributes that decide where an element goes. -/
def directiveNames : List String := ["v-if", "v-else-if", "v-else", "v-for"]

/-- A change of attributes that leaves the directives alone. -/
def KeepsDirectives (change : Element → List TagAttribute) : Prop :=
  ∀ element, ∀ name ∈ directiveNames,
    findAttribute? (change element) name =
      findAttribute? element.attributes name

theorem keepsDirectives_attributes : KeepsDirectives Element.attributes :=
  fun _ _ _ => rfl

namespace Node

variable {change : Element → List TagAttribute}

theorem relabelAll_eq_map (nodes : List Node) :
    relabelAll change nodes = nodes.map (relabel change) := by
  induction nodes with
  | nil => rfl
  | cons node nodes induction => rw [relabelAll, induction, List.map_cons]

theorem relabelBranches_eq_map (branches : List (Option String × Node)) :
    relabelBranches change branches =
      branches.map fun branch => (branch.1, branch.2.relabel change) := by
  induction branches with
  | nil => rfl
  | cons branch branches induction =>
      obtain ⟨condition, node⟩ := branch
      rw [relabelBranches, induction, List.map_cons]

mutual

/-- Relabelling keeps the elements and their order. -/
theorem elements_relabel (node : Node) :
    (node.relabel change).elements = node.elements.map fun element =>
      { element with attributes := change element, place := .nowhere } := by
  match node with
  | .element tag attributes place selfClosing children =>
      simp only [relabel, elements, elementsAll_relabelAll, List.map_cons]
  | .repeated source child =>
      simp only [relabel, elements, elements_relabel]
  | .choice branches =>
      simp only [relabel, elements, elementsOfBranches_relabelBranches]
  | .text _ => rfl
  | .interpolation _ => rfl
  | .comment _ => rfl

/-- List counterpart of `elements_relabel`. -/
theorem elementsAll_relabelAll (nodes : List Node) :
    elementsAll (relabelAll change nodes) =
      (elementsAll nodes).map fun element =>
        { element with attributes := change element, place := .nowhere } := by
  match nodes with
  | [] => rfl
  | node :: nodes =>
      simp only [relabelAll, elementsAll, elements_relabel,
        elementsAll_relabelAll, List.map_append]

/-- Branch counterpart of `elements_relabel`. -/
theorem elementsOfBranches_relabelBranches
    (branches : List (Option String × Node)) :
    elementsOfBranches (relabelBranches change branches) =
      (elementsOfBranches branches).map fun element =>
        { element with attributes := change element, place := .nowhere } := by
  match branches with
  | [] => rfl
  | (_, node) :: branches =>
      simp only [relabelBranches, elementsOfBranches, elements_relabel,
        elementsOfBranches_relabelBranches, List.map_append]

end

theorem isGap_relabel (node : Node) :
    (node.relabel change).isGap = node.isGap := by
  cases node with
  | element tag attributes place selfClosing children => rfl
  | repeated source child => rfl
  | choice branches => rfl
  | text value => rfl
  | interpolation value => rfl
  | comment value => rfl

/-- Only the last node can take up a text. -/
theorem addText_cons_cons (value : String) (node next : Node)
    (nodes : List Node) :
    addText value (node :: next :: nodes) =
      node :: addText value (next :: nodes) := by
  rw [addText]
  simp

theorem relabelAll_addText (value : String) (nodes : List Node) :
    relabelAll change (addText value nodes) =
      addText value (relabelAll change nodes) := by
  fun_induction addText value nodes with
  | case1 => rfl
  | case2 before => rfl
  | case3 node nodes other induction =>
      rw [relabelAll, induction, relabelAll]
      cases nodes with
      | cons next nodes => simp only [relabelAll, addText_cons_cons]
      | nil =>
          cases node with
          | text before => exact absurd rfl (other before rfl)
          | element tag attributes place selfClosing children => rfl
          | repeated source child => rfl
          | choice branches => rfl
          | interpolation value => rfl
          | comment value => rfl

/-- A branch goes to the same choice. -/
theorem relabelAll_addBranch? (condition : Option String) (node : Node)
    (nodes : List Node) :
    (addBranch? (condition, node) nodes).map (relabelAll change) =
      addBranch? (condition, node.relabel change)
        (relabelAll change nodes) := by
  induction nodes with
  | nil => rfl
  | cons last nodes induction =>
      simp only [addBranch?, relabelAll, isGap_relabel]
      split
      · rw [← induction, Option.map_map, Option.map_map]
        rfl
      · cases last with
        | choice branches =>
            simp only [relabel, relabelBranches_eq_map, List.getLast?_map]
            cases branches.getLast? with
            | none => rfl
            | some branch =>
                obtain ⟨given, inner⟩ := branch
                cases given with
                | none => rfl
                | some earlier =>
                    simp [relabelAll, relabel, relabelBranches_eq_map]
        | element tag attributes place selfClosing children => rfl
        | repeated source child => rfl
        | text value => rfl
        | interpolation value => rfl
        | comment value => rfl

theorem relabel_withRepetition (keeps : KeepsDirectives change)
    (element : Element) (node : Node) :
    (withRepetition element.attributes node).relabel change =
      withRepetition (change element) (node.relabel change) := by
  have same : directive? (change element) "v-for" =
      directive? element.attributes "v-for" := by
    rw [directive?, directive?, keeps element "v-for" (by decide)]
  unfold withRepetition
  rw [same]
  cases directive? element.attributes "v-for" with
  | none => rfl
  | some source => rfl

/-- A finished element goes to the same place. -/
theorem relabelAll_addElement (keeps : KeepsDirectives change) (tag : String)
    (attributes : List TagAttribute) (place : Place) (selfClosing : Bool)
    (children nodes : List Node) :
    (addElement tag attributes place selfClosing children nodes).map
        (relabelAll change) =
      addElement tag (change { tag, attributes, place }) .nowhere selfClosing
        (relabelAll change children) (relabelAll change nodes) := by
  have found (name : String) (known : name ∈ directiveNames) :=
    keeps { tag, attributes, place } name known
  have repeats := relabel_withRepetition keeps { tag, attributes, place }
    (element tag attributes place selfClosing children)
  simp only [relabel] at repeats
  unfold addElement directive?
  rw [found "v-if" (by decide), found "v-else-if" (by decide),
    found "v-else" (by decide), ← repeats]
  generalize withRepetition attributes
    (element tag attributes place selfClosing children) = node
  cases findAttribute? attributes "v-if" with
  | some given => simp [Except.map, relabelAll_eq_map, relabel,
      relabelBranches_eq_map]
  | none =>
      simp only [Option.map_none]
      split
      · generalize (findAttribute? attributes "v-else-if").map
          (fun given => given.value.getD "") = condition
        have joins : (addBranch? (condition, node) nodes.reverse).map
            (relabelAll change) =
          addBranch? (condition, node.relabel change)
            (relabelAll change nodes).reverse := by
          rw [relabelAll_addBranch?, relabelAll_eq_map, relabelAll_eq_map,
            List.map_reverse]
        rw [← joins]
        cases addBranch? (condition, node) nodes.reverse with
        | none => rfl
        | some joined => simp [Except.map, relabelAll_eq_map]
      · simp [Except.map, relabelAll_eq_map]

end Node

/-- A tag with other attributes. -/
def OpenTag.relabel (change : Element → List TagAttribute) (place : Place)
    (tag : OpenTag) : OpenTag :=
  { tag with
    attributes := change {
      tag := tag.name
      attributes := tag.attributes
      place } }

/-- A token whose tag has other attributes. -/
def Token.relabel (change : Element → List TagAttribute) (place : Place) :
    Token → Token
  | opening tag => opening (tag.relabel change place)
  | raw tag body => raw (tag.relabel change place) body
  | other => other

namespace Draft

/-- An open element with other attributes and without a place. -/
def relabelOpen (change : Element → List TagAttribute) (inner : OpenElement) :
    OpenElement where
  tag := inner.tag.relabel change inner.place
  place := .nowhere
  children := Node.relabelAll change inner.children

/-- A draft with other attributes and without places. -/
def relabel (change : Element → List TagAttribute) (draft : Draft) : Draft where
  opened := draft.opened.map (relabelOpen change)
  roots := Node.relabelAll change draft.roots

variable {change : Element → List TagAttribute}

theorem relabel_mapNodes {given changed : List Node → List Node}
    (same : ∀ nodes, Node.relabelAll change (given nodes) =
      changed (Node.relabelAll change nodes)) (draft : Draft) :
    (draft.mapNodes given).relabel change =
      (draft.relabel change).mapNodes changed := by
  obtain ⟨opened, roots⟩ := draft
  cases opened with
  | nil => simp [mapNodes, relabel, same]
  | cons inner outer => simp [mapNodes, relabel, relabelOpen, same]

theorem relabel_addElement (keeps : KeepsDirectives change) (tag : OpenTag)
    (place : Place) (children : List Node) (draft : Draft) :
    (draft.addElement tag place children).map (relabel change) =
      (draft.relabel change).addElement (tag.relabel change place) .nowhere
        (Node.relabelAll change children) := by
  obtain ⟨opened, roots⟩ := draft
  cases opened with
  | nil =>
      have joins := Node.relabelAll_addElement keeps tag.name tag.attributes
        place tag.selfClosing children roots
      simp only [addElement, relabel, List.map_nil, OpenTag.relabel, ← joins]
      cases Node.addElement tag.name tag.attributes place tag.selfClosing
        children roots with
      | error fault => rfl
      | ok joined => rfl
  | cons inner outer =>
      have joins := Node.relabelAll_addElement keeps tag.name tag.attributes
        place tag.selfClosing children inner.children
      simp only [addElement, relabel, List.map_cons, relabelOpen,
        OpenTag.relabel, ← joins]
      cases Node.addElement tag.name tag.attributes place tag.selfClosing
        children inner.children with
      | error fault => rfl
      | ok joined => rfl

theorem closes_relabel (name : List Char) (inner : OpenElement) :
    closes name (relabelOpen change inner) = closes name inner := rfl

theorem relabel_close (keeps : KeepsDirectives change) (name : List Char)
    (draft : Draft) :
    (draft.close name).map (relabel change) =
      (draft.relabel change).close name := by
  obtain ⟨opened, roots⟩ := draft
  cases opened with
  | nil => rfl
  | cons inner outer =>
      have adds := relabel_addElement keeps inner.tag inner.place
        inner.children { opened := outer, roots }
      have any : (outer.map (relabelOpen change)).any (closes name) =
          outer.any (closes name) := by
        rw [List.any_map]
        rfl
      simp only [close, relabel, List.map_cons, closes_relabel, any]
      split
      · exact adds
      · split
        · rfl
        · rfl

/-- A token with other attributes is added to a draft with other attributes. -/
theorem relabel_add (keeps : KeepsDirectives change) (locate : Nat → Position)
    (draft : Draft) (offset : Nat) (token : Token) :
    (draft.add locate offset token).map (relabel change) =
      (draft.relabel change).add (fun _ => Place.nowhere.position)
        Place.nowhere.offset
        (token.relabel change { offset, position := locate offset }) := by
  cases token with
  | text value =>
      simp only [add, Except.map, Token.relabel]
      rw [relabel_mapNodes (Node.relabelAll_addText _)]
  | interpolation value =>
      simp only [add, Except.map, Token.relabel]
      rw [relabel_mapNodes]
      intro nodes
      simp [Node.relabelAll_eq_map, Node.relabel]
  | comment value =>
      simp only [add, Except.map, Token.relabel]
      rw [relabel_mapNodes]
      intro nodes
      simp [Node.relabelAll_eq_map, Node.relabel]
  | opening tag =>
      simp only [add, Token.relabel]
      split
      · next childless =>
          have still : ((tag.relabel change {
                offset, position := locate offset }).selfClosing ||
              isVoid (tag.relabel change {
                offset, position := locate offset }).name) = true := childless
          rw [if_pos still, relabel_addElement keeps]
          rfl
      · next opens =>
          have still : ¬ ((tag.relabel change {
                offset, position := locate offset }).selfClosing ||
              isVoid (tag.relabel change {
                offset, position := locate offset }).name) = true := opens
          rw [if_neg still]
          rfl
  | raw tag body =>
      simp only [add, Token.relabel]
      have raw : Node.relabelAll change (rawChildren body) =
          rawChildren body := by
        unfold rawChildren
        split
        · rfl
        · rfl
      rw [relabel_addElement keeps, raw]
  | closing name => exact relabel_close keeps name draft
  | fault fault => rfl

/-- Counterpart of `relabel_add` for all tokens. -/
theorem relabel_addAll (keeps : KeepsDirectives change)
    (locate : Nat → Position) (draft : Draft) (entries : List Entry) :
    (addAll locate draft entries).map (relabel change) =
      addAll (fun _ => Place.nowhere.position) (draft.relabel change)
        (entries.map fun entry => (Place.nowhere.offset,
          entry.2.relabel change {
            offset := entry.1
            position := locate entry.1 })) := by
  induction entries generalizing draft with
  | nil => rfl
  | cons entry entries induction =>
      obtain ⟨offset, token⟩ := entry
      have here := relabel_add keeps locate draft offset token
      simp only [addAll, List.map_cons, ← here]
      cases draft.add locate offset token with
      | error fault => rfl
      | ok later => exact induction later

theorem relabel_finish (draft : Draft) :
    draft.finish.map (Node.relabelAll change) =
      (draft.relabel change).finish := by
  obtain ⟨opened, roots⟩ := draft
  cases opened with
  | nil => rfl
  | cons inner outer => rfl

end Draft

/-- The tree that tokens make when places do not matter. -/
def treeOf (tokens : List Token) : Except Fault (List Node) :=
  match Draft.addAll (fun _ => Place.nowhere.position) Draft.empty
      (tokens.map fun token => (Place.nowhere.offset, token)) with
  | .ok draft => draft.finish
  | .error fault => .error fault

/-- The tree of a text with other attributes is the tree of its tokens with
these attributes. -/
theorem relabelAll_parse {change : Element → List TagAttribute}
    (keeps : KeepsDirectives change) (locate : Nat → Position)
    (origin : Nat) (text : List Char) :
    (parse locate origin text).map (Node.relabelAll change) =
      treeOf ((tokens origin text).map fun entry =>
        entry.2.relabel change {
          offset := entry.1
          position := locate entry.1 }) := by
  have all := Draft.relabel_addAll keeps locate Draft.empty
    (tokens origin text)
  have nothing : Draft.empty.relabel change = Draft.empty := rfl
  rw [nothing] at all
  unfold parse treeOf
  rw [List.map_map]
  simp only [Function.comp_def]
  rw [← all]
  cases Draft.addAll locate Draft.empty (tokens origin text) with
  | error fault => rfl
  | ok draft => exact Draft.relabel_finish draft

end Template

end SourceMark
