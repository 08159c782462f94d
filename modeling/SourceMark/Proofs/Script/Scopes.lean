import Mathlib.Data.List.Forall2
import SourceMark.Proofs.Script.Coverage

/-!
# What the entries of a table belong to

An entry of an element names the component around it, and an entry of a styled
template the variable that it defines.  On its way a traversal keeps the
components around it on a stack, and the name of a variable until the first
template takes it.  Here both are read off the tree: the stack holds what stands
above the current address, and a name is left as long as no template that the
variable holds was met.
-/

namespace SourceMark

namespace Script

namespace Node

/-- The name that the variable at an address has for a template. -/
def offerAt? (nodes : List Node) (address : Address) : Option String :=
  (at? nodes address).bind fun node => node.offer?.join

/-- Whether a template was met that the variable at an address holds. -/
def isTaken (nodes : List Node) (found : List (Address × Node))
    (outer : Address) : Bool :=
  found.any fun met => met.2.isTemplate &&
    nearest? nodes isDeclarator met.1.dropLast == some outer

/-- The name that is left for a template directly inside the construct at an
address. -/
def nameLeft (nodes : List Node) (found : List (Address × Node))
    (base : Address) : Option String :=
  (nearest? nodes isDeclarator base).bind fun outer =>
    if isTaken nodes found outer then none else offerAt? nodes outer

theorem isTaken_append (nodes : List Node)
    (first second : List (Address × Node)) (outer : Address) :
    isTaken nodes (first ++ second) outer =
      (isTaken nodes first outer || isTaken nodes second outer) :=
  List.any_append

theorem isTaken_concat (nodes : List Node) (found : List (Address × Node))
    (base : Address) (number : Nat) (node : Node) (outer : Address) :
    isTaken nodes (found ++ [(base ++ [number], node)]) outer =
      (isTaken nodes found outer || (node.isTemplate &&
        nearest? nodes isDeclarator base == some outer)) := by
  rw [isTaken_append]
  simp [isTaken]

theorem isTemplate_of_isDeclarator {node : Node}
    (declarator : node.isDeclarator = true) : node.isTemplate = false := by
  cases node with
  | taggedTemplate tag extent parts =>
      simp [isDeclarator, offer?] at declarator
  | _ => rfl

section Met

variable {nodes : List Node} {found : List (Address × Node)} {base : Address}
  {number : Nat} {node : Node}

theorem at?_of_ahead
    (ahead : found ++ [(base ++ [number], node)] <+: met nodes) :
    at? nodes (base ++ [number]) = some node := by
  apply mem_met_iff.mp
  apply ahead.subset
  simp

theorem precedes_of_ahead {address : Address}
    (ahead : found ++ [(address, node)] <+: met nodes)
    {earlier : Address × Node} (member : earlier ∈ found) :
    Address.Precedes earlier.1 address := by
  have ordered := (pairwise_met nodes).sublist (ahead.map Prod.fst).sublist
  rw [List.map_append, List.pairwise_append] at ordered
  exact ordered.2.2 earlier.1 (List.mem_map_of_mem member) address (by simp)

/-- Nothing that was met before a variable is held by it. -/
theorem isTaken_of_ahead
    (ahead : found ++ [(base ++ [number], node)] <+: met nodes) :
    isTaken nodes found (base ++ [number]) = false := by
  rw [isTaken, List.any_eq_false]
  intro earlier member taken
  have precedes := precedes_of_ahead ahead member
  simp only [Bool.and_eq_true, beq_iff_eq] at taken
  have around := (prefix_of_nearest? taken.2).trans
    (List.dropLast_prefix earlier.1)
  exact Address.not_precedes_of_prefix around precedes

/-- What is inside a variable is not held by any variable around it. -/
theorem isTaken_metFrom {outer : Address}
    (here : at? nodes (base ++ [number]) = some node)
    (declarator : node.isDeclarator = true)
    (nearest : nearest? nodes isDeclarator base = some outer) :
    isTaken nodes (metFrom (base ++ [number]) 0 node.inner) outer = false := by
  rw [isTaken, List.any_eq_false]
  rintro ⟨address, inside⟩ member taken
  obtain ⟨index, further, rfl, _⟩ := mem_metFrom_iff.mp member
  simp only [Bool.and_eq_true, beq_iff_eq] at taken
  have proper : base ++ [number] ++ (0 + index) :: further ≠ [] := by simp
  -- The variable here is around the template as well, and further inside.
  have innermost := (isInnermost_iff proper).mpr taken.2
  have within := innermost.innermost _ _ here declarator
    ⟨List.prefix_append _ _, by simp⟩
  have shorter := (within.trans (prefix_of_nearest? nearest)).length_le
  rw [List.length_append, List.length_singleton] at shorter
  omega

/-- The name that is left behind the start of a construct. -/
theorem nameLeft_opened
    (ahead : found ++ [(base ++ [number], node)] <+: met nodes) :
    nameLeft nodes (found ++ [(base ++ [number], node)]) (base ++ [number]) =
      node.offer?.getD
        (if node.isTemplate then none else nameLeft nodes found base) := by
  have here := at?_of_ahead ahead
  unfold nameLeft
  rw [nearest?_concat isDeclarator here]
  cases offered : node.offer? with
  | some name =>
      have declarator : node.isDeclarator = true := by
        simp [isDeclarator, offered]
      rw [if_pos declarator, Option.bind_some, isTaken_concat,
        isTemplate_of_isDeclarator declarator, isTaken_of_ahead ahead,
        offerAt?, here, Option.bind_some, offered]
      rfl
  | none =>
      have outside : ¬ node.isDeclarator = true := by
        simp [isDeclarator, offered]
      rw [if_neg outside, Option.getD_none]
      cases nearest : nearest? nodes isDeclarator base with
      | none => simp
      | some outer =>
          rw [Option.bind_some, Option.bind_some, isTaken_concat, nearest]
          cases node.isTemplate with
          | true => simp
          | false => simp

/-- Behind a construct that is no variable the name is the one left inside. -/
theorem nameLeft_concat (here : at? nodes (base ++ [number]) = some node)
    (outside : node.isDeclarator = false) :
    nameLeft nodes found (base ++ [number]) = nameLeft nodes found base := by
  unfold nameLeft
  rw [nearest?_concat isDeclarator here, outside]
  rfl

/-- Behind a variable the name is the one left in front of it. -/
theorem nameLeft_behind (here : at? nodes (base ++ [number]) = some node)
    (declarator : node.isDeclarator = true) :
    nameLeft nodes (found ++ (base ++ [number], node) ::
        metFrom (base ++ [number]) 0 node.inner) base =
      nameLeft nodes found base := by
  have plain := isTemplate_of_isDeclarator declarator
  unfold nameLeft
  cases nearest : nearest? nodes isDeclarator base with
  | none => rfl
  | some outer =>
      have inside := isTaken_metFrom here declarator nearest
      have whole : isTaken nodes ((base ++ [number], node) ::
          metFrom (base ++ [number]) 0 node.inner) outer = false := by
        rw [isTaken, List.any_cons, plain, Bool.false_and, Bool.false_or]
        exact inside
      rw [Option.bind_some, Option.bind_some, isTaken_append, whole,
        Bool.or_false]

end Met

end Node

namespace Marking

/-- The address of the component with a number. -/
def componentAt? (found : List (Address × Node)) (entry : Nat) :
    Option Address :=
  ((Node.gather Node.component? found)[entry]?).map Prod.fst

theorem componentAt?_mono {found : List (Address × Node)} {entry : Nat}
    {outer : Address} (known : componentAt? found entry = some outer)
    (more : List (Address × Node)) :
    componentAt? (found ++ more) entry = some outer := by
  obtain ⟨item, here, rfl⟩ := Option.map_eq_some_iff.mp known
  have inside := (List.getElem?_eq_some_iff.mp here).1
  rw [componentAt?, Node.gather_append, List.getElem?_append_left inside, here]
  rfl

/-- A number is that of a component, or both are missing. -/
def Numbers (found : List (Address × Node)) (number? : Option Nat)
    (outer? : Option Address) : Prop :=
  number?.map (componentAt? found) = outer?.map some

theorem Numbers.mono {found : List (Address × Node)} {number? : Option Nat}
    {outer? : Option Address} (numbers : Numbers found number? outer?)
    (more : List (Address × Node)) : Numbers (found ++ more) number? outer? := by
  unfold Numbers at numbers ⊢
  cases number? with
  | none => exact numbers
  | some entry =>
      cases outer? with
      | none => simp at numbers
      | some outer =>
          have known := Option.some.inj numbers
          rw [Option.map_some, Option.map_some, componentAt?_mono known]

theorem Numbers.of_some {found : List (Address × Node)} {entry : Nat}
    {outer? : Option Address} (numbers : Numbers found (some entry) outer?) :
    ∃ outer, outer? = some outer ∧ componentAt? found entry = some outer := by
  obtain ⟨outer, here, known⟩ := Option.map_eq_some_iff.mp numbers.symm
  exact ⟨outer, here, known.symm⟩

/-- What the stack, the name that is left and the table hold of the constructs
met so far, when the traversal is inside the construct at `base`. -/
structure Scopes (setting : Setting) (root : List Node)
    (found : List (Address × Node)) (base : Address) (marking : Marking) :
    Prop where
  enclosing : List.Forall₂
    (fun entry around => componentAt? found entry = some around.1)
    marking.enclosing
    ((Node.above root base).filter fun around => around.2.isComponent)
  components : marking.table.components =
    (Node.gather Node.component? found).map fun item =>
      componentRecord setting item.2
  wrapped : List.Forall₂
    (fun expression item =>
      expression = expressionRecord setting expression.component item.2 ∧
      Numbers found expression.component
        (Node.nearest? root Node.isComponent item.1.dropLast))
    marking.table.expressions (chosenIn setting found)
  named : List.Forall₂
    (fun definition item =>
      definition = styledRecord setting definition.name item.2 ∧
      ∃ earlier node, earlier ++ [(item.1, node)] <+: found ∧
        definition.name = Node.nameLeft root earlier item.1.dropLast)
    marking.table.styled (styledIn setting found)
  styledName : marking.styledName = Node.nameLeft root found base

namespace Scopes

variable {setting : Setting} {root : List Node}
  {found : List (Address × Node)} {base : Address} {number : Nat}
  {node : Node} {marking after : Marking}

theorem head_numbers (scopes : Scopes setting root found base marking) :
    Numbers found marking.enclosing.head?
      (Node.nearest? root Node.isComponent base) := by
  have enclosing := scopes.enclosing
  unfold Numbers Node.nearest?
  rw [← List.head?_filter]
  revert enclosing
  generalize marking.enclosing = entries
  generalize (Node.above root base).filter _ = around
  rintro (_ | ⟨known, _⟩)
  · rfl
  · exact congrArg some known

theorem step (scopes : Scopes setting root found base marking)
    (covers : Covers setting found marking)
    (ahead : found ++ [(base ++ [number], node)] <+: Node.met root)
    (opens : Opens setting node marking after) :
    Scopes setting root (found ++ [(base ++ [number], node)])
      (base ++ [number]) after := by
  have here := Node.at?_of_ahead ahead
  have components := Node.gather_concat Node.component? found (base ++ [number])
    node
  have before : (base ++ [number]).dropLast = base := List.dropLast_concat
  constructor
  case enclosing =>
    rw [opens.enclosing, Node.above_concat here, List.filter_cons]
    have kept := scopes.enclosing.imp fun entry around known =>
      componentAt?_mono known [(base ++ [number], node)]
    split
    · -- The new number is the count of the components before.
      refine .cons ?_ kept
      rename_i declares
      obtain ⟨declared, component⟩ := Option.isSome_iff_exists.mp declares
      simp [componentAt?, components, component, scopes.components]
    · exact kept
  case components =>
    rw [opens.components, scopes.components, components, List.map_append]
    simp [Function.comp_def]
  case wrapped =>
    rw [opens.expressions, (covers.chosenIn_concat _ node).1]
    refine List.rel_append (scopes.wrapped.imp fun _ _ ⟨same, numbers⟩ =>
      ⟨same, numbers.mono _⟩) ?_
    have numbers := scopes.head_numbers.mono [(base ++ [number], node)]
    cases selected? setting node marking.counted with
    | none => exact .nil
    | some opening =>
        refine .cons ⟨rfl, ?_⟩ .nil
        rw [before]
        exact numbers
  case named =>
    have templates : styledIn setting (found ++ [(base ++ [number], node)]) =
        styledIn setting found ++
          (instrumented? setting node).toList.map (base ++ [number], ·) :=
      Node.gather_concat _ _ _ _
    rw [opens.styled, templates]
    refine List.rel_append (scopes.named.imp ?_) ?_
    · rintro _ _ ⟨same, earlier, met, among, name⟩
      exact ⟨same, earlier, met, among.trans (List.prefix_append _ _), name⟩
    · cases instrumented? setting node with
      | none => exact .nil
      | some template =>
          refine .cons ⟨rfl, found, node, List.prefix_rfl, ?_⟩ .nil
          rw [before]
          exact scopes.styledName
  case styledName =>
    rw [opens.styledName, Node.nameLeft_opened ahead, scopes.styledName]

theorem behind {outer : Marking} {inside : List (Address × Node)}
    (whole : inside = found ++ (base ++ [number], node) ::
      Node.metFrom (base ++ [number]) 0 node.inner)
    (here : Node.at? root (base ++ [number]) = some node)
    (front : Scopes setting root found base outer)
    (scopes : Scopes setting root inside (base ++ [number]) marking)
    (closes : Closes node outer marking after) :
    Scopes setting root inside base after := by
  have enclosing := scopes.enclosing
  constructor
  case enclosing =>
    rw [Node.above_concat here, List.filter_cons] at enclosing
    rw [closes.enclosing]
    split at enclosing
    · obtain ⟨_, entries, _, around, same⟩ :=
        List.forall₂_cons_right_iff.mp enclosing
      rw [if_pos ‹_›, same]
      exact around
    · rw [if_neg ‹_›]
      exact enclosing
  case components =>
    rw [closes.table, scopes.components]
  case wrapped =>
    rw [closes.table]
    exact scopes.wrapped
  case named =>
    rw [closes.table]
    exact scopes.named
  case styledName =>
    rw [closes.styledName]
    split
    · rw [front.styledName, whole, Node.nameLeft_behind here ‹_›]
    · rw [scopes.styledName,
        Node.nameLeft_concat here (Bool.eq_false_iff.mpr ‹_›)]

end Scopes

theorem survives_scopes (setting : Setting) (root : List Node) :
    Survives setting root fun found base marking =>
      Covers setting found marking ∧
        Scopes setting root found base marking where
  opened ahead holds :=
    ⟨holds.1.step (opens setting _ _) _,
      holds.2.step holds.1 ahead (opens setting _ _)⟩
  closed ahead front inside :=
    ⟨inside.1.behind (closes _ _ _),
      front.2.behind rfl (Node.mem_met_iff.mp (ahead.subset (by simp)))
        inside.2 (closes _ _ _)⟩

theorem scopes_start (setting : Setting) (root : List Node)
    (project : Option String) :
    Scopes setting root [] []
      (start (FileTable.forFile setting.file.filename project)) where
  enclosing := .nil
  components := rfl
  wrapped := by
    have nothing : chosenIn setting [] = [] :=
      chosen_nil setting.file setting.options
    rw [nothing]
    exact .nil
  named := .nil
  styledName := rfl

theorem scopes_ofTree (source : List Char) (file : FileOptions)
    (options : Options) (nodes : List Node) :
    Scopes (Setting.forText source file options) nodes (Node.met nodes) []
      (Marking.ofTree source file options nodes) :=
  ((survives_scopes _ nodes).of_start
    ⟨covers_start _ options.project, scopes_start _ nodes options.project⟩).2

/-! ## The owner of an element -/

/-- A number is that of the innermost component around an address, among the
given ones, and is missing when no component is around it. -/
structure BelongsTo (nodes : List Node)
    (declared : List (Address × (String × Extent))) (number? : Option Nat)
    (address : Address) : Prop where
  inside : ∀ entry, number? = some entry ↔ ∃ outer,
    Node.IsInnermost nodes Node.isComponent outer address ∧
      (declared[entry]?).map Prod.fst = some outer
  outside : number? = none ↔ ∀ outer node, Node.at? nodes outer = some node →
    node.isComponent = true → ¬ Address.Encloses outer address
  below : ∀ entry, number? = some entry → entry < declared.length

theorem componentAt?_inj {nodes : List Node} {first second : Nat}
    {outer : Address}
    (one : componentAt? (Node.met nodes) first = some outer)
    (other : componentAt? (Node.met nodes) second = some outer) :
    first = second := by
  have enumerates : Node.Enumerates nodes Node.component?
      (Node.gather Node.component? (Node.met nodes)) :=
    Node.enumerates_gather_met nodes
  have once := enumerates.ordered.imp fun {first second} precedes =>
    show first ≠ second by
      rintro rfl
      exact Address.not_precedes_self _ precedes
  unfold componentAt? at one other
  rw [← List.getElem?_map] at one other
  exact (List.getElem?_inj (List.getElem?_eq_some_iff.mp one).1 once).mp
    (one.trans other.symm)

theorem Numbers.belongsTo {nodes : List Node} {number? : Option Nat}
    {address : Address} (proper : address ≠ [])
    (numbers : Numbers (Node.met nodes) number?
      (Node.nearest? nodes Node.isComponent address.dropLast)) :
    BelongsTo nodes (Node.gather Node.component? (Node.met nodes)) number?
      address := by
  constructor
  case inside =>
    intro entry
    simp only [Node.isInnermost_iff proper]
    constructor
    · rintro rfl
      exact numbers.of_some
    · rintro ⟨outer, nearest, known⟩
      rw [Numbers, nearest] at numbers
      obtain ⟨other, rfl, same⟩ := Option.map_eq_some_iff.mp numbers
      rw [componentAt?_inj same known]
  case outside =>
    constructor
    · rintro rfl outer node found component encloses
      rw [← List.dropLast_concat_getLast proper] at encloses
      obtain ⟨innermost, nearest⟩ :=
        Node.exists_nearest? found component encloses
      simp [Numbers, nearest] at numbers
    · intro outside
      cases nearest : Node.nearest? nodes Node.isComponent address.dropLast with
      | none => simpa [Numbers, nearest] using numbers
      | some outer =>
          have innermost := (Node.isInnermost_iff proper).mpr nearest
          obtain ⟨node, found, component⟩ := innermost.holds
          exact absurd innermost.encloses (outside _ _ found component)
  case below =>
    rintro entry rfl
    obtain ⟨outer, _, known⟩ := numbers.of_some
    obtain ⟨_, here, _⟩ := Option.map_eq_some_iff.mp known
    exact (List.getElem?_eq_some_iff.mp here).1

/-- The marked elements are at addresses of elements. -/
theorem ne_nil_of_mem_chosenIn {setting : Setting} {nodes : List Node}
    {item : Address × Opening}
    (member : item ∈ chosenIn setting (Node.met nodes)) : item.1 ≠ [] := by
  have among := (chosen_sublist _ _ _).subset member
  obtain ⟨node, found, _⟩ :=
    ((Node.enumerates_gather_met nodes).everywhere item.1 item.2).mp among
  exact Node.ne_nil_of_at? found

/-- An entry of an element has the number of the component around it. -/
theorem Scopes.belongsTo {setting : Setting} {nodes : List Node}
    {base : Address} {marking : Marking}
    (scopes : Scopes setting nodes (Node.met nodes) base marking) :
    List.Forall₂
      (fun expression item =>
        expression = expressionRecord setting expression.component item.2 ∧
        BelongsTo nodes (Node.gather Node.component? (Node.met nodes))
          expression.component item.1)
      marking.table.expressions (chosenIn setting (Node.met nodes)) := by
  refine List.forall₂_iff_zip.mpr ⟨scopes.wrapped.length_eq, ?_⟩
  intro expression item paired
  obtain ⟨same, numbers⟩ := (List.forall₂_iff_zip.mp scopes.wrapped).2 paired
  have proper := ne_nil_of_mem_chosenIn (List.of_mem_zip paired).2
  exact ⟨same, numbers.belongsTo proper⟩

end Marking

end Script

end SourceMark
