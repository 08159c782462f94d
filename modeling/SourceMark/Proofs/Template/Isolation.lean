import SourceMark.Proofs.Template.Brackets
import SourceMark.Proofs.Template.Relabelling
import SourceMark.Proofs.Template.Shape
import SourceMark.Proofs.Template.SlicedTrees

/-!
# Templates apart from their files

The tree of a range of a file is the tree of the text of that range, with every
element at its place in the file.  Nothing else of the file has a say in it:
neither the readers that are given the rest of the text nor those that are given
the whole file and two offsets look beyond the range.
-/

namespace SourceMark

namespace Template

/-! ## Trees elsewhere -/

mutual

/-- A node whose elements stand elsewhere. -/
def Node.moved (move : Place → Place) : Node → Node
  | .element tag attributes place selfClosing children =>
      .element tag attributes (move place) selfClosing
        (Node.movedAll move children)
  | .repeated source child => .repeated source (child.moved move)
  | .choice branches => .choice (Node.movedBranches move branches)
  | .text value => .text value
  | .interpolation value => .interpolation value
  | .comment value => .comment value

/-- Nodes whose elements stand elsewhere. -/
def Node.movedAll (move : Place → Place) : List Node → List Node
  | [] => []
  | node :: nodes => node.moved move :: Node.movedAll move nodes

/-- Branches whose elements stand elsewhere. -/
def Node.movedBranches (move : Place → Place) :
    List (Option String × Node) → List (Option String × Node)
  | [] => []
  | (condition, node) :: branches =>
      (condition, node.moved move) :: Node.movedBranches move branches

end

/-- An element that stands elsewhere. -/
def Element.moved (move : Place → Place) (element : Element) : Element :=
  { element with place := move element.place }

namespace Node

variable {move : Place → Place}

mutual

/-- Moving a node keeps everything but its places. -/
theorem relabel_moved (node : Node) :
    (node.moved move).relabel Element.attributes =
      node.relabel Element.attributes := by
  match node with
  | .element tag attributes place selfClosing children =>
      simp only [moved, relabel, relabelAll_movedAll]
  | .repeated source child => simp only [moved, relabel, relabel_moved]
  | .choice branches =>
      simp only [moved, relabel, relabelBranches_movedBranches]
  | .text _ => rfl
  | .interpolation _ => rfl
  | .comment _ => rfl

/-- List counterpart of `relabel_moved`. -/
theorem relabelAll_movedAll (nodes : List Node) :
    relabelAll Element.attributes (movedAll move nodes) =
      relabelAll Element.attributes nodes := by
  match nodes with
  | [] => rfl
  | node :: nodes =>
      simp only [movedAll, relabelAll, relabel_moved, relabelAll_movedAll]

/-- Branch counterpart of `relabel_moved`. -/
theorem relabelBranches_movedBranches
    (branches : List (Option String × Node)) :
    relabelBranches Element.attributes (movedBranches move branches) =
      relabelBranches Element.attributes branches := by
  match branches with
  | [] => rfl
  | (_, node) :: branches =>
      simp only [movedBranches, relabelBranches, relabel_moved,
        relabelBranches_movedBranches]

end

mutual

/-- Moving a node moves each of its elements. -/
theorem elements_moved (node : Node) :
    (node.moved move).elements = node.elements.map (Element.moved move) := by
  match node with
  | .element tag attributes place selfClosing children =>
      simp only [moved, elements, elementsAll_movedAll, List.map_cons,
        Element.moved]
  | .repeated source child => simp only [moved, elements, elements_moved]
  | .choice branches =>
      simp only [moved, elements, elementsOfBranches_movedBranches]
  | .text _ => rfl
  | .interpolation _ => rfl
  | .comment _ => rfl

/-- List counterpart of `elements_moved`. -/
theorem elementsAll_movedAll (nodes : List Node) :
    elementsAll (movedAll move nodes) =
      (elementsAll nodes).map (Element.moved move) := by
  match nodes with
  | [] => rfl
  | node :: nodes =>
      simp only [movedAll, elementsAll, elements_moved, elementsAll_movedAll,
        List.map_append]

/-- Branch counterpart of `elements_moved`. -/
theorem elementsOfBranches_movedBranches
    (branches : List (Option String × Node)) :
    elementsOfBranches (movedBranches move branches) =
      (elementsOfBranches branches).map (Element.moved move) := by
  match branches with
  | [] => rfl
  | (_, node) :: branches =>
      simp only [movedBranches, elementsOfBranches, elements_moved,
        elementsOfBranches_movedBranches, List.map_append]

end

/-- Nodes that differ in places only have as many elements. -/
theorem length_elements_of_relabel {first second : Node}
    (shape : first.relabel Element.attributes =
      second.relabel Element.attributes) :
    first.elements.length = second.elements.length := by
  have counted := congrArg (fun node => node.elements.length) shape
  simpa only [elements_relabel, List.length_map] using counted

/-- Elements of two rows fall apart alike where the first nodes differ in places
only. -/
theorem elements_of_append {first second : Node} {more others : List Element}
    (shape : first.relabel Element.attributes =
      second.relabel Element.attributes)
    (same : first.elements ++ more = second.elements ++ others) :
    first.elements = second.elements ∧ more = others :=
  List.append_inj same (length_elements_of_relabel shape)

mutual

/-- A node is known by its shape and its elements in order. -/
theorem eq_of_relabel (first second : Node)
    (shape : first.relabel Element.attributes =
      second.relabel Element.attributes)
    (same : first.elements = second.elements) : first = second := by
  match first with
  | .element tag attributes place selfClosing children =>
      cases second with
      | element other given there closed inner =>
          simp only [relabel, element.injEq] at shape
          simp only [elements, List.cons.injEq, Element.mk.injEq] at same
          obtain ⟨rfl, rfl, -, rfl, inside⟩ := shape
          obtain ⟨⟨-, -, rfl⟩, within⟩ := same
          rw [eq_of_relabelAll children inner inside within]
      | _ => simp [relabel] at shape
  | .repeated source child =>
      cases second with
      | repeated other inner =>
          simp only [relabel, repeated.injEq] at shape
          obtain ⟨rfl, inside⟩ := shape
          rw [eq_of_relabel child inner inside same]
      | _ => simp [relabel] at shape
  | .choice branches =>
      cases second with
      | choice others =>
          simp only [relabel, choice.injEq] at shape
          rw [eq_of_relabelBranches branches others shape same]
      | _ => simp [relabel] at shape
  | .text value =>
      cases second with
      | text other => simpa [relabel] using shape
      | _ => simp [relabel] at shape
  | .interpolation value =>
      cases second with
      | interpolation other => simpa [relabel] using shape
      | _ => simp [relabel] at shape
  | .comment value =>
      cases second with
      | comment other => simpa [relabel] using shape
      | _ => simp [relabel] at shape

/-- List counterpart of `eq_of_relabel`. -/
theorem eq_of_relabelAll (first second : List Node)
    (shape : relabelAll Element.attributes first =
      relabelAll Element.attributes second)
    (same : elementsAll first = elementsAll second) : first = second := by
  match first, second with
  | [], [] => rfl
  | [], _ :: _ => simp [relabelAll] at shape
  | _ :: _, [] => simp [relabelAll] at shape
  | node :: nodes, other :: others =>
      simp only [relabelAll, List.cons.injEq] at shape
      obtain ⟨here, later⟩ := elements_of_append shape.1 same
      rw [eq_of_relabel node other shape.1 here,
        eq_of_relabelAll nodes others shape.2 later]

/-- Branch counterpart of `eq_of_relabel`. -/
theorem eq_of_relabelBranches (first second : List (Option String × Node))
    (shape : relabelBranches Element.attributes first =
      relabelBranches Element.attributes second)
    (same : elementsOfBranches first = elementsOfBranches second) :
    first = second := by
  match first, second with
  | [], [] => rfl
  | [], _ :: _ => simp [relabelBranches] at shape
  | _ :: _, [] => simp [relabelBranches] at shape
  | (condition, node) :: branches, (given, other) :: others =>
      simp only [relabelBranches, List.cons.injEq, Prod.mk.injEq] at shape
      obtain ⟨⟨rfl, alike⟩, rest⟩ := shape
      obtain ⟨here, later⟩ := elements_of_append alike same
      rw [eq_of_relabel node other alike here,
        eq_of_relabelBranches branches others rest later]

end

end Node

/-! ## Tokens elsewhere -/

section Tokens

variable {offset : Nat} {text : List Char}

/-- Tokens that are read elsewhere are the same ones, as far from the start. -/
theorem tokens_moved (sound : AreSound (tokens offset text)) (start : Nat) :
    tokens (start + offset) text = (tokens offset text).map
      fun entry => (start + entry.1, entry.2) := by
  induction offset, text, sound using sound_induction with
  | nil offset sound => simp [tokens]
  | cons first rest offset sound token behind front back later taken reaches
      reads induction =>
      have again := reads.again .none (fun _ => rfl) behind.rest
        (start + offset) rfl
      have whole : first :: rest = (first :: (front ++ back)) ++ behind.rest :=
        reaches.rest
      have inside : rest = front ++ (back ++ behind.rest) := by
        simpa using List.tail_eq_of_cons_eq whole
      rw [Addition.text_none, List.nil_append, ← inside, Token.adding_none]
        at again
      rw [tokens_cons again, tokens_cons taken, List.map_cons, ← induction,
        reaches.offset, Nat.add_assoc]
      rfl

theorem map_snd_tokens (sound : AreSound (tokens offset text)) (start : Nat) :
    (tokens start text).map Prod.snd = (tokens offset text).map Prod.snd := by
  rw [tokens_of_tokenTexts, tokens_of_tokenTexts, tokenTexts_eq sound]

theorem tagsOf_moved (entries : List Entry) (start : Nat) :
    tagsOf (entries.map fun entry => (start + entry.1, entry.2)) =
      (tagsOf entries).map fun entry => (start + entry.1, entry.2) := by
  rw [tagsOf, tagsOf, List.filterMap_map, List.map_filterMap]
  simp [Function.comp_def]

end Tokens

/-! ## Trees of one text -/

section Parsing

variable {locate relocate : Nat → Position} {offset : Nat} {text : List Char}
  {nodes : List Node}

/-- A text that has a tree has one wherever it starts, of the same shape. -/
theorem parse_elsewhere (success : parse locate offset text = .ok nodes)
    (relocate : Nat → Position) (start : Nat) :
    ∃ others, parse relocate start text = .ok others ∧
      Node.relabelAll Element.attributes others =
        Node.relabelAll Element.attributes nodes := by
  have sound := (elements_of_parse success).1
  have shape (locate : Nat → Position) (place : Nat) :
      (parse locate place text).map (Node.relabelAll Element.attributes) =
        treeOf ((tokens place text).map Prod.snd) := by
    rw [relabelAll_parse keepsDirectives_attributes]
    simp only [relabel_attributes]
  have same := shape relocate start
  rw [map_snd_tokens sound, ← shape locate offset, success] at same
  obtain ⟨others, found, alike⟩ := exists_ok_of_map same
  exact ⟨others, found, alike.symm⟩

/-- A place that counts from `start` on, in the file that it belongs to. -/
def Place.behind (locate : Nat → Position) (start : Nat) (place : Place) :
    Place where
  offset := start + place.offset
  position := locate (start + place.offset)

/-- The tree of a text that starts later has all elements that much later. -/
theorem parse_moved (success : parse locate offset text = .ok nodes)
    (relocate : Nat → Position) (start : Nat) :
    parse relocate (start + offset) text =
      .ok (Node.movedAll (Place.behind relocate start) nodes) := by
  obtain ⟨others, found, shape⟩ :=
    parse_elsewhere success relocate (start + offset)
  obtain ⟨sound, here⟩ := elements_of_parse success
  have there := (elements_of_parse found).2
  have places : Node.elementsAll others =
      Node.elementsAll (Node.movedAll (Place.behind relocate start) nodes) := by
    rw [there, Node.elementsAll_movedAll, here, tokens_moved sound,
      tagsOf_moved, List.map_map, List.map_map]
    rfl
  rw [found, Node.eq_of_relabelAll others _ ?_ places]
  rw [shape, Node.relabelAll_movedAll]

end Parsing

/-! ## Ranges of a file -/

section Ranges

variable {source text : List Char} {start stop : Nat}

/-- What is read of a range is the tree of its text. -/
theorem parseRange_of_slice (inside : Text.slice? source start stop = some text) :
    parseRange source start stop =
      parse (LineIndex.ofText source).location start text := by
  obtain ⟨before, after, rfl, rfl, rfl⟩ :=
    Text.eq_append_of_slice? inside
  exact parseRange_of_cut before text after

/-- The reader that is given the whole file and two offsets finds the same. -/
theorem Sliced.parse_of_slice
    (inside : Text.slice? source start stop = some text) :
    Sliced.parse source start stop =
      Sliced.settle (parseRange source start stop) := by
  obtain ⟨before, after, rfl, rfl, rfl⟩ :=
    Text.eq_append_of_slice? inside
  have window : Cursor.IsWindow (before ++ (text ++ after))
      (Text.byteLength before + Text.byteLength text)
      { rest := text, offset := Text.byteLength before } :=
    ⟨before, after, rfl, rfl, rfl⟩
  rw [parseRange_of_slice inside]
  exact Sliced.parse_eq window

/-- Ranges with the same text have trees of the same shape, or both none. -/
theorem shape_of_slice {other : List Char} {first last : Nat}
    (inside : Text.slice? source start stop = some text)
    (there : Text.slice? other first last = some text) {nodes : List Node}
    (success : parseRange source start stop = .ok nodes) :
    ((parseRange other first last).map
        (Node.relabelAll Element.attributes)).toOption =
      some (Node.relabelAll Element.attributes nodes) := by
  rw [parseRange_of_slice inside] at success
  obtain ⟨others, found, alike⟩ := parse_elsewhere success
    (LineIndex.ofText other).location first
  rw [parseRange_of_slice there, found, Except.map, Except.toOption, alike]

/-- A range has the tree of its text: the tree that the text has as a file of
its own, with every element as much later as the range starts and at its
position in the whole file.  Readers with the whole file at hand come to this
tree as well, and in any other file the text has a tree of the same shape. -/
theorem parseRange_isolated
    (inside : Text.slice? source start stop = some text) :
    (parseRange source start stop).toOption =
        ((parseRange text 0 (Text.byteLength text)).map (Node.movedAll
          (Place.behind (LineIndex.ofText source).location start))).toOption ∧
      Sliced.parse source start stop =
        Sliced.settle (parseRange source start stop) ∧
      ∀ other first last, Text.slice? other first last = some text →
        ((parseRange other first last).map
            (Node.relabelAll Element.attributes)).toOption =
          ((parseRange source start stop).map
            (Node.relabelAll Element.attributes)).toOption := by
  refine ⟨?_, Sliced.parse_of_slice inside, fun other first last there => ?_⟩
  · rw [parseRange_whole, parseRange_of_slice inside]
    cases alone : parse (LineIndex.ofText text).location 0 text with
    | ok nodes =>
        have moved := parse_moved alone (LineIndex.ofText source).location start
        rw [Nat.add_zero] at moved
        rw [moved]
        rfl
    | error fault =>
        cases within : parse (LineIndex.ofText source).location start text with
        | error other => rfl
        | ok nodes =>
            obtain ⟨others, found, _⟩ :=
              parse_elsewhere within (LineIndex.ofText text).location 0
            rw [alone] at found
            nomatch found
  · cases here : parseRange source start stop with
    | ok nodes => exact shape_of_slice inside there here
    | error fault =>
        cases elsewhere : parseRange other first last with
        | error other => rfl
        | ok nodes =>
            have back := shape_of_slice there inside elsewhere
            rw [here] at back
            simp [Except.map, Except.toOption] at back

/-- A template between an open comment, quotes and end marks, and the same text
behind a single quote. -/
theorem parseRange_isolated_quotes :
    let source :=
      ("<!-- \x7b\x7b é\n<template>\n<p a=é>é<b/></p></template>\"'-->" ++
        "\x7d\x7d</b>").toList
    let text := "\n<p a=é>é<b/></p>".toList
    let other := '"' :: text
    Text.slice? source 21 40 = some text ∧
      Text.slice? other 1 20 = some text ∧
      ∃ nodes alone others, parseRange source 21 40 = .ok nodes ∧
        parseRange text 0 (Text.byteLength text) = .ok alone ∧
        parseRange other 1 20 = .ok others ∧
        Sliced.parse source 21 40 = .ok nodes ∧
        (Node.elementsAll nodes).map Element.place =
          [{ offset := 22, position := { line := 3, column := 0 } },
            { offset := 32, position := { line := 3, column := 8 } }] ∧
        nodes = Node.movedAll
          (Place.behind (LineIndex.ofText source).location 21) alone ∧
        Node.relabelAll Element.attributes others =
          Node.relabelAll Element.attributes nodes := by
  intro source text other
  have inside : Text.slice? source 21 40 = some text := by decide +kernel
  have there : Text.slice? other 1 20 = some text := by decide +kernel
  obtain ⟨moved, sliced, elsewhere⟩ := parseRange_isolated inside
  have alike := elsewhere other 1 20 there
  obtain ⟨nodes, success, places⟩ : ∃ nodes,
      parseRange source 21 40 = .ok nodes ∧
        (Node.elementsAll nodes).map Element.place =
          [{ offset := 22, position := { line := 3, column := 0 } },
            { offset := 32, position := { line := 3, column := 8 } }] :=
    exists_ok_of_toOption_map (by decide +kernel)
  rw [success] at moved sliced alike
  obtain ⟨alone, single, same⟩ := exists_ok_of_toOption_map moved.symm
  obtain ⟨others, found, shape⟩ := exists_ok_of_toOption_map alike
  exact ⟨inside, there, nodes, alone, others, success, single, found, sliced,
    places, same.symm, shape⟩

end Ranges

end Template

end SourceMark
