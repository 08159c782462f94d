import SourceMark.Proofs.Template.Visibility

/-!
# How the tags of a template nest

The tags of a template say by themselves which element is inside which one:
an end tag belongs to the last tag before it that is still open.  `Nests` is the
grammar of tokens that nest in this way.  The tree of a template is made from
the parts that its tokens nest in, level by level, and the draft that is kept
while reading computes just that.
-/

namespace SourceMark

namespace Template

/-- Whether a token is a part of its own: it opens no element that waits for an
end tag, and is no end tag. -/
def Token.standsAlone : Token → Bool
  | opening tag => tag.selfClosing || isVoid tag.name
  | closing _ => false
  | _ => true

/-- A part of a template as its tags nest. -/
inductive Part where
  | single (offset : Nat) (token : Token)
  /-- A tag, the parts behind it, and its end tag. -/
  | pair (offset : Nat) (tag : OpenTag) (inner : List Part)

/-- Tokens whose tags nest, with the parts that they make. -/
inductive Nests : List Entry → List Part → Prop where
  | nil : Nests [] []
  | single {offset : Nat} {token : Token} {later : List Entry}
      {parts : List Part} (alone : token.standsAlone = true)
      (rest : Nests later parts) :
      Nests ((offset, token) :: later) (.single offset token :: parts)
  | pair {offset place : Nat} {tag : OpenTag} {name : List Char}
      {inner later : List Entry} {children parts : List Part}
      (left : (tag.selfClosing || isVoid tag.name) = false)
      (inside : Nests inner children)
      (same : Text.sameIgnoringCase tag.name.toList name = true)
      (rest : Nests later parts) :
      Nests ((offset, .opening tag) :: (inner ++ (place, .closing name) :: later))
        (.pair offset tag children :: parts)

/-! ## There is one way to nest -/

/-- Nothing follows, or an end tag. -/
def AreEnded (entries : List Entry) : Prop :=
  ∀ entry ∈ entries.head?, ∃ name, entry.2 = .closing name

theorem not_areEnded_of_standsAlone {offset : Nat} {token : Token}
    {entries : List Entry} (alone : token.standsAlone = true) :
    ¬ AreEnded ((offset, token) :: entries) := by
  intro ended
  obtain ⟨name, rfl⟩ := ended (offset, token) rfl
  simp [Token.standsAlone] at alone

theorem not_areEnded_of_opening {offset : Nat} {tag : OpenTag}
    {entries : List Entry} :
    ¬ AreEnded ((offset, .opening tag) :: entries) := by
  intro ended
  obtain ⟨name, same⟩ := ended (offset, .opening tag) rfl
  simp at same

/-- Tokens nest up to the first end tag that is left over, and in one way. -/
theorem Nests.unique {first second behind rest : List Entry}
    {parts others : List Part} (left : Nests first parts)
    (right : Nests second others) (same : first ++ behind = second ++ rest)
    (ended : AreEnded behind) (stopped : AreEnded rest) :
    parts = others ∧ behind = rest := by
  induction left generalizing second behind rest others with
  | nil =>
      cases right with
      | nil => exact ⟨rfl, same⟩
      | single alone later =>
          rw [List.nil_append, List.cons_append] at same
          rw [same] at ended
          exact absurd ended (not_areEnded_of_standsAlone alone)
      | pair open_ within closes later =>
          rw [List.nil_append, List.cons_append] at same
          rw [same] at ended
          exact absurd ended not_areEnded_of_opening
  | single alone later induction =>
      cases right with
      | nil =>
          rw [List.nil_append, List.cons_append] at same
          rw [← same] at stopped
          exact absurd stopped (not_areEnded_of_standsAlone alone)
      | single other further =>
          simp only [List.cons_append, List.cons.injEq, Prod.mk.injEq] at same
          obtain ⟨⟨rfl, rfl⟩, same⟩ := same
          obtain ⟨rfl, rfl⟩ := induction further same ended stopped
          exact ⟨rfl, rfl⟩
      | pair open_ within closes further =>
          simp only [List.cons_append, List.cons.injEq, Prod.mk.injEq] at same
          obtain ⟨⟨rfl, rfl⟩, _⟩ := same
          rw [Token.standsAlone, open_] at alone
          simp at alone
  | pair open_ within closes later innerInduction induction =>
      cases right with
      | nil =>
          rw [List.nil_append, List.cons_append] at same
          rw [← same] at stopped
          exact absurd stopped not_areEnded_of_opening
      | single other further =>
          simp only [List.cons_append, List.cons.injEq, Prod.mk.injEq] at same
          obtain ⟨⟨rfl, rfl⟩, _⟩ := same
          rw [Token.standsAlone, open_] at other
          simp at other
      | pair opens inside ends further =>
          simp only [List.cons_append, List.append_assoc, List.cons.injEq,
            Prod.mk.injEq, Token.opening.injEq] at same
          obtain ⟨⟨rfl, rfl⟩, same⟩ := same
          obtain ⟨rfl, tails⟩ := innerInduction inside same
            (fun entry member => by
              obtain rfl := by simpa using member
              exact ⟨_, rfl⟩)
            (fun entry member => by
              obtain rfl := by simpa using member
              exact ⟨_, rfl⟩)
          simp only [List.cons.injEq] at tails
          obtain ⟨rfl, rfl⟩ := induction further tails.2 ended stopped
          exact ⟨rfl, rfl⟩

theorem Nests.parts_eq {entries : List Entry} {parts others : List Part}
    (left : Nests entries parts) (right : Nests entries others) :
    parts = others := by
  have nothing : AreEnded [] := by simp [AreEnded]
  exact (left.unique right rfl nothing nothing).1

/-! ## The nodes of parts -/

/-- Add a token that stands alone behind other nodes. -/
def Node.addToken (locate : Nat → Position) (offset : Nat) (nodes : List Node) :
    Token → Except Fault (List Node)
  | .text value => .ok (addText (String.ofList value) nodes)
  | .interpolation value => .ok (nodes ++ [.interpolation (String.ofList value)])
  | .comment value => .ok (nodes ++ [.comment (String.ofList value)])
  | .opening tag =>
      addElement tag.name tag.attributes
        { offset, position := locate offset } tag.selfClosing [] nodes
  | .raw tag body =>
      addElement tag.name tag.attributes
        { offset, position := locate offset } tag.selfClosing
        (Draft.rawChildren body) nodes
  | .closing name => .error (.strayEndTag (String.ofList name))
  | .fault fault => .error fault

mutual

/-- Add a part behind other nodes. -/
def Part.addTo (locate : Nat → Position) (nodes : List Node) :
    Part → Except Fault (List Node)
  | .single offset token => Node.addToken locate offset nodes token
  | .pair offset tag inner =>
      match Part.addAllTo locate [] inner with
      | .ok children =>
          Node.addElement tag.name tag.attributes
            { offset, position := locate offset } tag.selfClosing children nodes
      | .error fault => .error fault

/-- Add parts behind other nodes in order. -/
def Part.addAllTo (locate : Nat → Position) (nodes : List Node) :
    List Part → Except Fault (List Node)
  | [] => .ok nodes
  | part :: parts =>
      match part.addTo locate nodes with
      | .ok more => Part.addAllTo locate more parts
      | .error fault => .error fault

end

namespace Draft

/-- The nodes at the innermost level. -/
def nodes (draft : Draft) : List Node :=
  match draft.opened with
  | [] => draft.roots
  | inner :: _ => inner.children

/-- The draft with other nodes at the innermost level. -/
def withNodes (draft : Draft) (nodes : List Node) : Draft :=
  draft.mapNodes fun _ => nodes

theorem nodes_withNodes (draft : Draft) (nodes : List Node) :
    (draft.withNodes nodes).nodes = nodes := by
  obtain ⟨opened, roots⟩ := draft
  cases opened with
  | nil => rfl
  | cons inner outer => rfl

theorem withNodes_withNodes (draft : Draft) (first second : List Node) :
    (draft.withNodes first).withNodes second = draft.withNodes second := by
  obtain ⟨opened, roots⟩ := draft
  cases opened with
  | nil => rfl
  | cons inner outer => rfl

theorem withNodes_nodes (draft : Draft) : draft.withNodes draft.nodes = draft := by
  obtain ⟨opened, roots⟩ := draft
  cases opened with
  | nil => rfl
  | cons inner outer => rfl

theorem mapNodes_eq (change : List Node → List Node) (draft : Draft) :
    draft.mapNodes change = draft.withNodes (change draft.nodes) := by
  obtain ⟨opened, roots⟩ := draft
  cases opened with
  | nil => rfl
  | cons inner outer => rfl

theorem addElement_eq (tag : OpenTag) (place : Place) (children : List Node)
    (draft : Draft) :
    draft.addElement tag place children =
      (Node.addElement tag.name tag.attributes place tag.selfClosing children
        draft.nodes).map draft.withNodes := by
  obtain ⟨opened, roots⟩ := draft
  cases opened with
  | nil =>
      simp only [addElement, nodes]
      cases Node.addElement tag.name tag.attributes place tag.selfClosing
        children roots with
      | ok joined => rfl
      | error fault => rfl
  | cons inner outer =>
      simp only [addElement, nodes]
      cases Node.addElement tag.name tag.attributes place tag.selfClosing
        children inner.children with
      | ok joined => rfl
      | error fault => rfl

/-- The draft with one more open element, innermost. -/
def inside (draft : Draft) (tag : OpenTag) (place : Place)
    (children : List Node) : Draft :=
  { draft with opened := { tag, place, children } :: draft.opened }

theorem withNodes_inside (draft : Draft) (tag : OpenTag) (place : Place)
    (children nodes : List Node) :
    (draft.inside tag place children).withNodes nodes =
      draft.inside tag place nodes := rfl

theorem close_inside {tag : OpenTag} {name : List Char}
    (same : Text.sameIgnoringCase tag.name.toList name = true) (draft : Draft)
    (place : Place) (children : List Node) :
    (draft.inside tag place children).close name =
      draft.addElement tag place children := by
  simp only [inside, close, closes, same, if_true]

section Reading

variable {locate : Nat → Position}

theorem add_opening {tag : OpenTag}
    (left : (tag.selfClosing || isVoid tag.name) = false) (draft : Draft)
    (offset : Nat) :
    draft.add locate offset (.opening tag) =
      .ok (draft.inside tag { offset, position := locate offset } []) := by
  rw [add, left]
  rfl

/-- A token that stands alone changes the innermost level only. -/
theorem add_of_standsAlone {token : Token} (alone : token.standsAlone = true)
    (draft : Draft) (offset : Nat) :
    draft.add locate offset token =
      (Node.addToken locate offset draft.nodes token).map draft.withNodes := by
  cases token with
  | text value => rw [add, mapNodes_eq]; rfl
  | interpolation value => rw [add, mapNodes_eq]; rfl
  | comment value => rw [add, mapNodes_eq]; rfl
  | opening tag =>
      have childless : (tag.selfClosing || isVoid tag.name) = true := alone
      simp only [add, childless, if_true]
      exact addElement_eq tag _ [] draft
  | raw tag body => exact addElement_eq tag _ (rawChildren body) draft
  | closing name => simp [Token.standsAlone] at alone
  | fault fault => rfl

/-- Reading tokens whose tags nest adds their parts to the innermost level. -/
theorem addAll_of_nests {entries : List Entry} {parts : List Part}
    (nests : Nests entries parts) (draft : Draft) (later : List Entry) :
    draft.addAll locate (entries ++ later) =
      (Part.addAllTo locate draft.nodes parts).bind fun nodes =>
        (draft.withNodes nodes).addAll locate later := by
  induction nests generalizing draft later with
  | nil =>
      simp only [Part.addAllTo, Except.bind, withNodes_nodes, List.nil_append]
  | @single offset token entries parts alone rest induction =>
      simp only [List.cons_append, addAll, add_of_standsAlone alone,
        Part.addAllTo, Part.addTo]
      cases Node.addToken locate offset draft.nodes token with
      | error fault => rfl
      | ok nodes =>
          simp only [Except.map, induction, nodes_withNodes,
            withNodes_withNodes]
  | @pair offset place tag name inner entries children parts left within same
      rest innerInduction induction =>
      -- The parts behind the tag go into a level of their own, which the end
      -- tag makes an element of the level around it.
      have level : (draft.inside tag { offset, position := locate offset }
          []).nodes = [] := rfl
      simp only [List.cons_append, List.append_assoc, addAll, add_opening left,
        innerInduction, level, withNodes_inside, Part.addAllTo, Part.addTo]
      cases Part.addAllTo locate [] children with
      | error fault => rfl
      | ok given =>
          simp only [Except.bind, add, close_inside same, addElement_eq]
          cases Node.addElement tag.name tag.attributes
              { offset, position := locate offset } tag.selfClosing given
              draft.nodes with
          | error fault => rfl
          | ok nodes =>
              simp only [Except.map, induction, nodes_withNodes,
                withNodes_withNodes, Except.bind]

end Reading

end Draft

/-! ## The parts of tokens -/

/-- Tokens that close some open elements, innermost first, and whose tags nest
apart from that. -/
def Finishes : List OpenTag → List Entry → Prop
  | [], entries => ∃ parts, Nests entries parts
  | tag :: tags, entries =>
      ∃ inner parts place name later,
        entries = inner ++ (place, Token.closing name) :: later ∧
        Nests inner parts ∧
        Text.sameIgnoringCase tag.name.toList name = true ∧
        Finishes tags later

section Finishing

variable {offset : Nat} {tags before after : List OpenTag}
  {entries : List Entry} {token : Token}

theorem Finishes.single (alone : token.standsAlone = true)
    (finishes : Finishes tags entries) :
    Finishes tags ((offset, token) :: entries) := by
  cases tags with
  | nil =>
      obtain ⟨parts, nests⟩ := finishes
      exact ⟨.single offset token :: parts, .single alone nests⟩
  | cons tag tags =>
      obtain ⟨inner, parts, place, name, later, rfl, nests, same, rest⟩ :=
        finishes
      exact ⟨(offset, token) :: inner, .single offset token :: parts, place,
        name, later, rfl, .single alone nests, same, rest⟩

/-- A tag in front takes the first end tag that is left over. -/
theorem Finishes.pair {tag : OpenTag}
    (left : (tag.selfClosing || isVoid tag.name) = false)
    (finishes : Finishes (tag :: tags) entries) :
    Finishes tags ((offset, .opening tag) :: entries) := by
  obtain ⟨inner, children, place, name, later, rfl, within, same, rest⟩ :=
    finishes
  cases tags with
  | nil =>
      obtain ⟨parts, nests⟩ := rest
      exact ⟨.pair offset tag children :: parts, .pair left within same nests⟩
  | cons outer tags =>
      obtain ⟨more, parts, stop, other, last, rfl, nests, closes, further⟩ :=
        rest
      refine ⟨(offset, .opening tag) :: (inner ++ (place, .closing name) :: more),
        .pair offset tag children :: parts, stop, other, last, ?_,
        .pair left within same nests, closes, further⟩
      simp

theorem Finishes.cons (turns : token.Turns before after)
    (sound : ∀ fault, token ≠ .fault fault)
    (finishes : Finishes after entries) :
    Finishes before ((offset, token) :: entries) := by
  cases turns with
  | keeps childless stays =>
      refine finishes.single ?_
      cases token with
      | opening tag => exact childless tag rfl
      | closing name => exact absurd rfl (stays name)
      | text value => rfl
      | interpolation value => rfl
      | comment value => rfl
      | raw tag body => rfl
      | fault fault => rfl
  | opens left => exact finishes.pair left
  | closes same => exact ⟨[], [], offset, _, entries, rfl, .nil, same, finishes⟩

end Finishing

theorem finishes_of_addAll {locate : Nat → Position} {draft last : Draft}
    {entries : List Entry} (added : draft.addAll locate entries = .ok last)
    (closed : last.opened = []) : Finishes draft.openTags entries := by
  induction entries generalizing draft with
  | nil =>
      obtain rfl : draft = last := by simpa [Draft.addAll] using added
      rw [Draft.openTags, closed]
      exact ⟨[], .nil⟩
  | cons entry entries induction =>
      obtain ⟨offset, token⟩ := entry
      simp only [Draft.addAll] at added
      split at added
      · next between one =>
          refine Finishes.cons (Draft.turns_of_add one) ?_ (induction added)
          rintro fault rfl
          simp [Draft.add] at one
      · simp at added

/-- A tree is read from a text just when the tags of its tokens nest and the
parts that they make give the tree. -/
theorem parse_eq_ok_iff {locate : Nat → Position} {origin : Nat}
    {text : List Char} {nodes : List Node} :
    parse locate origin text = .ok nodes ↔
      ∃ parts, Nests (tokens origin text) parts ∧
        Part.addAllTo locate [] parts = .ok nodes := by
  have read {parts : List Part} (nests : Nests (tokens origin text) parts) :
      parse locate origin text = Part.addAllTo locate [] parts := by
    have run : Draft.empty.addAll locate (tokens origin text ++ []) = _ :=
      Draft.addAll_of_nests nests Draft.empty []
    have nothing : Draft.empty.nodes = [] := rfl
    rw [List.append_nil, nothing] at run
    rw [parse, run]
    cases Part.addAllTo locate [] parts with
    | error fault => rfl
    | ok nodes => rfl
  constructor
  · intro success
    have finishes : Finishes Draft.empty.openTags (tokens origin text) := by
      unfold parse at success
      split at success
      · next draft added =>
          refine finishes_of_addAll added ?_
          unfold Draft.finish at success
          split at success
          · assumption
          · simp at success
      · simp at success
    obtain ⟨parts, nests⟩ := finishes
    exact ⟨parts, nests, (read nests).symm.trans success⟩
  · rintro ⟨parts, nests, added⟩
    rw [read nests, added]

end Template

end SourceMark
