import SourceMark.Proofs.Location
import SourceMark.Proofs.Template.Elements

/-!
# The marks of a tree

The elements that annotation counts are the eligible ones of the tree, and
there is one insertion for each of them.
-/

namespace SourceMark

namespace Template

namespace Element

/-- Whether an element gets a mark. -/
def isEligible (options : FileOptions) (element : Element) : Bool :=
  Template.isEligible options element.tag element.attributes

/-- The location that the mark of an element carries. -/
def location (filename : String) (element : Element) : Location :=
  Location.ofPosition filename element.place.position

/-- The value that stands between the quotes of the mark of an element. -/
def value (filename : String) (element : Element) : String :=
  String.ofList (Marker.escape (element.location filename).encode.toList)

/-- The insertion that marks an element: it comes right behind the name of the
tag, and its offset counts from `base`. -/
def mark (filename : String) (base : Nat) (element : Element) : Insertion where
  offset := element.place.offset - base + 1 +
    Text.byteLength element.tag.toList
  text := " " ++ Marker.combined ++ "=\"" ++ element.value filename ++ "\""

end Element

/-- The eligible elements of some nodes. -/
def eligibleElements (options : FileOptions) (nodes : List Node) :
    List Element :=
  (Node.elementsAll nodes).filter (Element.isEligible options)

theorem mem_of_eligible {options : FileOptions} {nodes : List Node}
    {element : Element} (eligible : element ∈ eligibleElements options nodes) :
    element ∈ Node.elementsAll nodes :=
  (List.mem_filter.mp eligible).1

/-- No attribute has been added to these elements. -/
def AreUnmarked (elements : List Element) : Prop :=
  ∀ element ∈ elements, ∀ given ∈ element.attributes, given.isAdded = false

theorem startsWith_encode (location : Location) :
    Text.startsWith location.encode location.file = true := by
  simp [Text.startsWith, Location.encode_toList]

theorem AreUnmarked.left {first second : List Element}
    (unmarked : AreUnmarked (first ++ second)) : AreUnmarked first :=
  fun element member => unmarked element (by simp [member])

theorem AreUnmarked.right {first second : List Element}
    (unmarked : AreUnmarked (first ++ second)) : AreUnmarked second :=
  fun element member => unmarked element (by simp [member])

theorem addedValue?_of_parsed {attributes : List TagAttribute}
    (parsed : ∀ given ∈ attributes, given.isAdded = false)
    (filename : String) : addedValue? filename attributes = none := by
  simp only [addedValue?]
  rw [List.find?_eq_none.mpr]
  intro given member
  simp [parsed given member]

/-- The value that annotation has added is found again. -/
theorem addedValue?_append {attributes : List TagAttribute}
    (parsed : ∀ given ∈ attributes, given.isAdded = false)
    (filename : String) (place : Place) :
    addedValue? filename (attributes ++ [addedAttribute filename place]) =
      some (Location.ofPosition filename place.position).encode := by
  have leads : Text.startsWith
      (Location.ofPosition filename place.position).encode filename = true :=
    startsWith_encode _
  simp only [addedValue?]
  rw [List.find?_append, List.find?_eq_none.mpr]
  · simp [addedAttribute, leads]
  · intro given member
    simp [parsed given member]

theorem insertionFor_annotated (filename : String) (options : FileOptions)
    (base : Nat) (element : Element)
    (parsed : ∀ given ∈ element.attributes, given.isAdded = false) :
    insertionFor filename base element.tag
        (if isEligible options element.tag element.attributes then
          element.attributes ++ [addedAttribute filename element.place]
        else element.attributes) element.place =
      if element.isEligible options then [element.mark filename base]
      else [] := by
  cases eligible : isEligible options element.tag element.attributes with
  | true =>
      simp [insertionFor, addedValue?_append parsed, Element.isEligible,
        eligible, Element.mark, Element.value, Element.location]
  | false =>
      simp [insertionFor, addedValue?_of_parsed parsed, Element.isEligible,
        eligible]

mutual

/-- The insertions for an annotated node. -/
theorem insertionsOfNode_annotateNode (filename : String)
    (options : FileOptions) (base : Nat) (node : Node)
    (unmarked : AreUnmarked node.elements) :
    insertionsOfNode filename base (annotateNode filename options node) =
      (node.elements.filter (Element.isEligible options)).map
        (Element.mark filename base) := by
  match node with
  | .element tag attributes place selfClosing children =>
      have both : AreUnmarked ([Element.mk tag attributes place] ++
          Node.elementsAll children) := unmarked
      have here : AreUnmarked [Element.mk tag attributes place] := both.left
      have inside := insertionsOfNodes_annotateNodes filename options base
        children both.right
      have own := insertionFor_annotated filename options base
        { tag, attributes, place } (here _ (by simp))
      simp only [annotateNode, insertionsOfNode, Node.elements, inside, own,
        eligibleElements]
      cases eligible : Element.isEligible options
          { tag, attributes, place } with
      | true => simp [eligible]
      | false => simp [eligible]
  | .repeated _ child =>
      exact insertionsOfNode_annotateNode filename options base child unmarked
  | .choice branches =>
      exact insertionsOfBranches_annotateBranches filename options base branches
        unmarked
  | .text _ => rfl
  | .interpolation _ => rfl
  | .comment _ => rfl

/-- List counterpart of `insertionsOfNode_annotateNode`. -/
theorem insertionsOfNodes_annotateNodes (filename : String)
    (options : FileOptions) (base : Nat) (nodes : List Node)
    (unmarked : AreUnmarked (Node.elementsAll nodes)) :
    insertionsOfNodes filename base (annotateNodes filename options nodes) =
      (eligibleElements options nodes).map (Element.mark filename base) := by
  match nodes with
  | [] => rfl
  | node :: nodes =>
      have here := insertionsOfNode_annotateNode filename options base node
        unmarked.left
      have later := insertionsOfNodes_annotateNodes filename options base nodes
        unmarked.right
      simp only [annotateNodes, insertionsOfNodes, here, later,
        eligibleElements, Node.elementsAll, List.filter_append, List.map_append]

/-- Branch counterpart of `insertionsOfNode_annotateNode`. -/
theorem insertionsOfBranches_annotateBranches (filename : String)
    (options : FileOptions) (base : Nat)
    (branches : List (Option String × Node))
    (unmarked : AreUnmarked (Node.elementsOfBranches branches)) :
    insertionsOfBranches filename base
        (annotateBranches filename options branches) =
      ((Node.elementsOfBranches branches).filter
        (Element.isEligible options)).map (Element.mark filename base) := by
  match branches with
  | [] => rfl
  | (_, node) :: branches =>
      have here := insertionsOfNode_annotateNode filename options base node
        unmarked.left
      have later := insertionsOfBranches_annotateBranches filename options base
        branches unmarked.right
      simp only [annotateBranches, insertionsOfBranches, here, later,
        Node.elementsOfBranches, List.filter_append, List.map_append]

end

mutual

theorem countNode_eq (options : FileOptions) (node : Node) :
    countNode options node =
      (node.elements.filter (Element.isEligible options)).length := by
  match node with
  | .element tag attributes place _ children =>
      have inside := countNodes_eq options children
      simp only [countNode, Node.elements, inside, eligibleElements]
      cases eligible : isEligible options tag attributes with
      | true =>
          simp [Element.isEligible, eligible, Nat.add_comm]
      | false => simp [Element.isEligible, eligible]
  | .repeated _ child => exact countNode_eq options child
  | .choice branches => exact countBranches_eq options branches
  | .text _ => rfl
  | .interpolation _ => rfl
  | .comment _ => rfl

/-- The count of eligible elements is the number of those in the list. -/
theorem countNodes_eq (options : FileOptions) (nodes : List Node) :
    countNodes options nodes = (eligibleElements options nodes).length := by
  match nodes with
  | [] => rfl
  | node :: nodes =>
      have here := countNode_eq options node
      have later := countNodes_eq options nodes
      simp only [countNodes, here, later, eligibleElements, Node.elementsAll,
        List.filter_append, List.length_append]

theorem countBranches_eq (options : FileOptions)
    (branches : List (Option String × Node)) :
    countBranches options branches =
      ((Node.elementsOfBranches branches).filter
        (Element.isEligible options)).length := by
  match branches with
  | [] => rfl
  | (_, node) :: branches =>
      have here := countNode_eq options node
      have later := countBranches_eq options branches
      simp only [countBranches, here, later, Node.elementsOfBranches,
        List.filter_append, List.length_append]

end

/-! ## The elements of a parsed text -/

section Parsed

variable {locate : Nat → Position} {origin : Nat} {text : List Char}
  {nodes : List Node}

theorem areUnmarked_of_parse (success : parse locate origin text = .ok nodes) :
    AreUnmarked (Node.elementsAll nodes) := by
  obtain ⟨sound, elements⟩ := elements_of_parse success
  intro element member
  rw [elements] at member
  obtain ⟨entry, inside, rfl⟩ := List.mem_map.mp member
  exact isAdded_of_tag sound entry inside

/-- An element stands at its place, and its position is the one of the place. -/
theorem element_at_place (success : parse locate origin text = .ok nodes) :
    ∀ element ∈ Node.elementsAll nodes,
      element.place.position = locate element.place.offset ∧
      ∃ before after,
        text = before ++ '<' :: (element.tag.toList ++ after) ∧
          element.place.offset = origin + Text.byteLength before := by
  obtain ⟨sound, elements⟩ := elements_of_parse success
  intro element member
  rw [elements] at member
  obtain ⟨entry, inside, rfl⟩ := List.mem_map.mp member
  exact ⟨rfl, tag_at_offset sound entry inside⟩

/-- Elements come in the order of their places. -/
theorem elements_pairwise (success : parse locate origin text = .ok nodes) :
    (Node.elementsAll nodes).Pairwise
      fun first second => first.place.offset < second.place.offset := by
  obtain ⟨sound, elements⟩ := elements_of_parse success
  rw [elements, List.pairwise_map]
  exact tags_pairwise sound

end Parsed

end Template

end SourceMark
