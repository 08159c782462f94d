import SourceMark.Proofs.Script.Scopes

/-!
# Which component an element has, and which variable a template

An element has the innermost component around it.  A template has the name of a
variable when it is the first one that the variable holds; this is the template
that is the variable's value unless the type of the variable holds another one.
-/

namespace SourceMark

namespace Script

namespace Node

/-- The construct is a variable whose value is a template, with so many
constructs in front of the value. -/
def IsTemplateVariable (node : Node) (binding : String) (count : Nat) : Prop :=
  ∃ extent target tag range parts, target.length = count ∧
    node = .declarator (some binding) extent target
      (some (.taggedTemplate tag range parts))

/-- A template is the value of a variable with a name. -/
def IsInitializer (nodes : List Node) (binding : String) (address : Address) :
    Prop :=
  ∃ outer node count, at? nodes outer = some node ∧
    node.IsTemplateVariable binding count ∧ address = outer ++ [count]

/-- A template is in a variable and in no variable inside this one. -/
structure IsHeld (nodes : List Node) (outer address : Address) : Prop where
  template : ∃ node, at? nodes address = some node ∧ node.isTemplate = true
  innermost : IsInnermost nodes isDeclarator outer address

/-- A template comes before all others that a variable holds. -/
structure IsFirstHeld (nodes : List Node) (outer address : Address) :
    Prop where
  held : IsHeld nodes outer address
  first : ∀ other, IsHeld nodes outer other →
    ¬ Address.Precedes other address

/-- A template is the first one in a variable that has a name for it. -/
def TakesName (nodes : List Node) (binding : String) (address : Address) :
    Prop :=
  ∃ outer node count, at? nodes outer = some node ∧
    node.IsTemplateVariable binding count ∧ IsFirstHeld nodes outer address

/-- A template is the value of a variable, or the first one that the variable
holds, and something in front of the value is a template as well. -/
def IsDisplaced (nodes : List Node) (address : Address) : Prop :=
  ∃ outer node binding count, at? nodes outer = some node ∧
    node.IsTemplateVariable binding count ∧
    (address = outer ++ [count] ∨ IsFirstHeld nodes outer address) ∧
    ∃ other, IsHeld nodes outer other ∧
      Address.Precedes other (outer ++ [count])

theorem IsTemplateVariable.isDeclarator {node : Node} {binding : String}
    {count : Nat} (declares : node.IsTemplateVariable binding count) :
    node.isDeclarator = true := by
  obtain ⟨extent, target, tag, range, parts, _, rfl⟩ := declares
  rfl

theorem isTemplateVariable_iff {node : Node} {binding : String} :
    node.offer? = some (some binding) ↔
      ∃ count, node.IsTemplateVariable binding count := by
  constructor
  · intro offered
    unfold offer? at offered
    split at offered
    · rename_i named extent target value
      have name := Option.some.inj offered
      unfold Marking.initializedName at name
      split at name
      · subst name
        exact ⟨_, extent, target, _, _, _, rfl, rfl⟩
      · cases name
    · cases offered
  · rintro ⟨count, extent, target, tag, range, parts, _, rfl⟩
    rfl

theorem IsTemplateVariable.count_eq {node : Node} {binding binding' : String}
    {count count' : Nat} (one : node.IsTemplateVariable binding count)
    (other : node.IsTemplateVariable binding' count') :
    binding = binding' ∧ count = count' := by
  obtain ⟨extent, target, tag, range, parts, rfl, rfl⟩ := one
  obtain ⟨_, _, _, _, _, rfl, same⟩ := other
  cases same
  exact ⟨rfl, rfl⟩

section Held

variable {nodes : List Node} {outer address : Address} {node : Node}
  {binding : String} {count : Nat}

/-- What is directly inside a construct has it for its innermost one. -/
theorem isInnermost_concat {test : Node → Bool}
    (found : at? nodes outer = some node) (holds : test node = true)
    (number : Nat) : IsInnermost nodes test outer (outer ++ [number]) where
  holds := ⟨node, found, holds⟩
  encloses := Address.encloses_concat_iff.mpr List.prefix_rfl
  innermost _ _ _ _ encloses := Address.encloses_concat_iff.mp encloses

/-- A variable holds its value. -/
theorem IsTemplateVariable.isHeld (found : at? nodes outer = some node)
    (declares : node.IsTemplateVariable binding count) :
    IsHeld nodes outer (outer ++ [count]) where
  template := by
    obtain ⟨extent, target, tag, range, parts, rfl, rfl⟩ := declares
    refine ⟨.taggedTemplate tag range parts, ?_, rfl⟩
    rw [at?_append_cons nodes (ne_nil_of_at? found), found, Option.bind_some,
      at?_single, inner, Option.toList_some, List.getElem?_concat_length]
  innermost := isInnermost_concat found declares.isDeclarator count

/-- A template that is a value, with what its variable has. -/
theorem IsHeld.of_initializer {outer' : Address} {node' : Node}
    (held : IsHeld nodes outer address)
    (found : at? nodes outer' = some node')
    (declares : node'.IsTemplateVariable binding count)
    (value : address = outer' ++ [count]) : outer' = outer := by
  rw [value] at held
  exact (declares.isHeld found).innermost.unique held.innermost

/-- A template takes a name as it should exactly when no variable displaces
its value. -/
theorem takesName_iff_isInitializer :
    (∀ binding, TakesName nodes binding address ↔
      IsInitializer nodes binding address) ↔ ¬ IsDisplaced nodes address := by
  constructor
  · rintro agrees ⟨outer, node, binding, count, found, declares, value | first,
      other, held, precedes⟩
    · -- The value of the declares does not take the name.
      obtain ⟨outer', node', count', found', declares', first⟩ :=
        (agrees binding).mpr ⟨outer, node, count, found, declares, value⟩
      obtain rfl := first.held.of_initializer found declares value
      exact first.first other held (value ▸ precedes)
    · -- The first template takes it and is not the value.
      obtain ⟨outer', node', count', found', declares', value⟩ :=
        (agrees binding).mp ⟨outer, node, count, found, declares, first⟩
      obtain rfl := first.held.of_initializer found' declares' value
      obtain rfl : node = node' := Option.some.inj (found.symm.trans found')
      rw [(declares.count_eq declares').2, ← value] at precedes
      exact first.first other held precedes
  · intro inPlace binding
    constructor
    · -- The first template is neither before nor behind the value.
      rintro ⟨outer, node, count, found, declares, first⟩
      refine ⟨outer, node, count, found, declares, ?_⟩
      apply Address.eq_of_not_precedes
      · intro precedes
        exact inPlace ⟨outer, node, binding, count, found, declares,
          .inr first, address, first.held, precedes⟩
      · exact first.first _ (declares.isHeld found)
    · rintro ⟨outer, node, count, found, declares, rfl⟩
      refine ⟨outer, node, count, found, declares, declares.isHeld found, ?_⟩
      intro other held precedes
      exact inPlace ⟨outer, node, binding, count, found, declares, .inl rfl,
        other, held, precedes⟩

end Held

/-- What was met before a construct are those that precede it. -/
theorem mem_iff_precedes {nodes : List Node} {earlier : List (Address × Node)}
    {address other : Address} {node inside : Node}
    (ahead : earlier ++ [(address, node)] <+: met nodes) :
    (other, inside) ∈ earlier ↔
      at? nodes other = some inside ∧ Address.Precedes other address := by
  constructor
  · intro member
    exact ⟨mem_met_iff.mp (ahead.subset (List.mem_append_left _ member)),
      precedes_of_ahead ahead member⟩
  · rintro ⟨found, precedes⟩
    obtain ⟨later, whole⟩ := ahead
    have ordered := pairwise_met nodes
    have member := mem_met_iff.mpr found
    rw [← whole] at ordered member
    rw [List.map_append, List.pairwise_append] at ordered
    rcases List.mem_append.mp member with front | behind
    · rcases List.mem_append.mp front with before | here
      · exact before
      · obtain ⟨rfl, _⟩ := Prod.mk.inj (List.mem_singleton.mp here)
        exact absurd precedes (Address.not_precedes_self _)
    · have follows := ordered.2.2 address (by simp) other
        (List.mem_map_of_mem behind)
      exact absurd precedes (Address.precedes_asymm follows)

/-- No template was met in a variable exactly when the current one is the
first that it holds. -/
theorem isTaken_eq_false_iff {nodes : List Node}
    {earlier : List (Address × Node)} {address outer : Address} {node : Node}
    (ahead : earlier ++ [(address, node)] <+: met nodes) :
    isTaken nodes earlier outer = false ↔
      ∀ other, IsHeld nodes outer other → ¬ Address.Precedes other address := by
  rw [isTaken, List.any_eq_false]
  constructor
  · rintro free other ⟨⟨inside, found, template⟩, innermost⟩ precedes
    refine free _ ((mem_iff_precedes ahead).mpr ⟨found, precedes⟩) ?_
    rw [Bool.and_eq_true, beq_iff_eq]
    exact ⟨template, (isInnermost_iff (ne_nil_of_at? found)).mp innermost⟩
  · rintro first ⟨other, inside⟩ member taken
    obtain ⟨found, precedes⟩ := (mem_iff_precedes ahead).mp member
    rw [Bool.and_eq_true, beq_iff_eq] at taken
    exact first other ⟨⟨inside, found, taken.1⟩,
      (isInnermost_iff (ne_nil_of_at? found)).mpr taken.2⟩ precedes

/-- The name left for a template is the one that it takes. -/
theorem nameLeft_eq_some_iff {nodes : List Node}
    {earlier : List (Address × Node)} {address : Address} {node : Node}
    {binding : String}
    (ahead : earlier ++ [(address, node)] <+: met nodes)
    (template : node.isTemplate = true) :
    nameLeft nodes earlier address.dropLast = some binding ↔
      TakesName nodes binding address := by
  have here : at? nodes address = some node :=
    mem_met_iff.mp (ahead.subset (by simp))
  have proper := ne_nil_of_at? here
  rw [nameLeft, Option.bind_eq_some_iff]
  constructor
  · rintro ⟨outer, nearest, name⟩
    split at name
    · cases name
    · rename_i free
      rw [Bool.not_eq_true, isTaken_eq_false_iff ahead] at free
      obtain ⟨declarator, found, offered⟩ := Option.bind_eq_some_iff.mp name
      obtain ⟨count, isVariable⟩ :=
        isTemplateVariable_iff.mp (Option.join_eq_some_iff.mp offered)
      exact ⟨outer, declarator, count, found, isVariable,
        ⟨⟨node, here, template⟩, (isInnermost_iff proper).mpr nearest⟩, free⟩
  · rintro ⟨outer, declarator, count, found, isVariable, held, first⟩
    refine ⟨outer, (isInnermost_iff proper).mp held.innermost, ?_⟩
    rw [if_neg (by rw [Bool.not_eq_true, isTaken_eq_false_iff ahead]
                   exact first), offerAt?, found, Option.bind_some,
      isTemplateVariable_iff.mpr ⟨count, isVariable⟩]
    rfl

end Node

/-- The name of a template is the one that it takes, and this is that of the
variable whose value it is unless the variable displaces its value. -/
structure IsNamed (nodes : List Node) (name? : Option String)
    (address : Address) : Prop where
  takes : ∀ binding, name? = some binding ↔
    Node.TakesName nodes binding address
  initializes : (∀ binding, name? = some binding ↔
    Node.IsInitializer nodes binding address) ↔ ¬ Node.IsDisplaced nodes address

/-- What the table of a script holds, and what else a traversal leaves behind:
`declared` are the components, `openings` the opening tags of the elements and
`templates` the styled templates, all in the order of the traversal. -/
structure Attributes (setting : Setting) (nodes : List Node)
    (declared : List (Address × (String × Extent)))
    (openings : List (Address × Opening))
    (templates : List (Address × StyledTemplate)) (marking : Marking) :
    Prop where
  enclosing : marking.enclosing = []
  styledName : marking.styledName = none
  declarations : Node.Enumerates nodes Node.component? declared
  components : marking.table.components =
    declared.map fun item => Marking.componentRecord setting item.2
  elements : Node.Enumerates nodes Node.opening? openings
  expressions : List.Forall₂
    (fun expression item => expression =
        Marking.expressionRecord setting expression.component item.2 ∧
      Marking.BelongsTo nodes declared expression.component item.1)
    marking.table.expressions (chosen setting.file setting.options openings)
  definitions : Node.Enumerates nodes (Marking.instrumented? setting) templates
  styled : List.Forall₂
    (fun definition item => definition =
        Marking.styledRecord setting definition.name item.2 ∧
      IsNamed nodes definition.name item.1)
    marking.table.styled templates

namespace Marking

theorem isTemplate_of_instrumented? {setting : Setting} {node : Node}
    {template : StyledTemplate}
    (instrumented : instrumented? setting node = some template) :
    node.isTemplate = true := by
  unfold instrumented? at instrumented
  split at instrumented
  · cases instrumented
  · cases node with
    | taggedTemplate tag extent parts => rfl
    | _ => cases instrumented

/-- An entry of a styled template has the name that is left for it. -/
theorem Scopes.isNamed {setting : Setting} {nodes : List Node}
    {base : Address} {marking : Marking}
    (scopes : Scopes setting nodes (Node.met nodes) base marking) :
    List.Forall₂
      (fun definition item =>
        definition = styledRecord setting definition.name item.2 ∧
        IsNamed nodes definition.name item.1)
      marking.table.styled (styledIn setting (Node.met nodes)) := by
  refine List.forall₂_iff_zip.mpr ⟨scopes.named.length_eq, ?_⟩
  intro definition item paired
  obtain ⟨same, earlier, node, ahead, name⟩ :=
    (List.forall₂_iff_zip.mp scopes.named).2 paired
  obtain ⟨node', found, instrumented⟩ :=
    ((Node.enumerates_gather_met nodes).everywhere item.1 item.2).mp
      (List.of_mem_zip paired).2
  have here : Node.at? nodes item.1 = some node :=
    Node.mem_met_iff.mp (ahead.subset (by simp))
  obtain rfl := Option.some.inj (here.symm.trans found)
  have takes (binding : String) : definition.name = some binding ↔
      Node.TakesName nodes binding item.1 := by
    rw [name]
    exact Node.nameLeft_eq_some_iff ahead
      (isTemplate_of_instrumented? instrumented)
  refine ⟨same, takes, ?_⟩
  simp only [takes]
  exact Node.takesName_iff_isInitializer

end Marking

/-- Nothing is left on the stack of components, elements belong to the innermost
components around them, and templates have the names that they take. -/
theorem attributes_ofTree (source : List Char) (file : FileOptions)
    (options : Options) (nodes : List Node) :
    ∃ declared openings templates,
      Attributes (Setting.forText source file options) nodes declared openings
        templates (Marking.ofTree source file options nodes) := by
  have scopes := Marking.scopes_ofTree source file options nodes
  refine ⟨Node.gather Node.component? (Node.met nodes),
    Node.gather Node.opening? (Node.met nodes),
    Marking.styledIn (Setting.forText source file options) (Node.met nodes), ?_⟩
  exact {
    enclosing := List.forall₂_nil_right_iff.mp scopes.enclosing
    styledName := scopes.styledName
    declarations := Node.enumerates_gather_met nodes
    components := scopes.components
    elements := Node.enumerates_gather_met nodes
    expressions := scopes.belongsTo
    definitions := Node.enumerates_gather_met nodes
    styled := scopes.isNamed }

/-- A template in the type of a variable takes the name from the template that
is the variable's value. -/
theorem not_named_by_initializers :
    ¬ ∀ (options : Options) (text : String) (file : FileOptions)
        (nodes : List Node),
      readScript file.filename text.toList = .ok nodes →
      List.Forall₂
        (fun definition item => ∀ binding, definition.name = some binding ↔
          Node.IsInitializer nodes binding item.1)
        (Marking.ofTree text.toList file options nodes).table.styled
        (Marking.styledIn (Setting.forText text.toList file options)
          (Node.met nodes)) := by
  intro named
  let options : Options := {
    mode := .path, environment := none, project := none
    current := "development", filter := .all }
  let file : FileOptions := { filename := "/src/a.ts", ignored := [] }
  let text := "const x: \x7b [styled.p\x60a\x60]: string \x7d = " ++
    "styled.div\x60b\x60;"
  let nodes := (readScript file.filename text.toList).toOption.getD []
  have read : readScript file.filename text.toList = .ok nodes :=
    eq_ok_getD [] (by decide +kernel)
  have names : (Marking.ofTree text.toList file options
      nodes).table.styled.map StyledDefinition.name = [some "x", none] := by
    decide +kernel
  have addresses : (Marking.styledIn (Setting.forText text.toList file options)
      (Node.met nodes)).map Prod.fst = [[0, 0, 0], [0, 0, 1]] := by
    decide +kernel
  have shown : (Node.at? nodes [0, 0]).map (fun node =>
      (node.offer?, node.inner.length)) = some (some (some "x"), 2) := by
    decide +kernel
  obtain ⟨node, found, shape⟩ := Option.map_eq_some_iff.mp shown
  obtain ⟨offered, length⟩ := Prod.mk.inj shape
  obtain ⟨count, declares⟩ := Node.isTemplateVariable_iff.mp offered
  have last : count = 1 := by
    obtain ⟨extent, target, tag, range, parts, rfl, rfl⟩ := declares
    simpa [Node.inner] using length
  have agrees := named options text file nodes read
  rw [← List.forall₂_map_right_iff
      (R := fun (definition : StyledDefinition) address => ∀ binding,
        definition.name = some binding ↔
          Node.IsInitializer nodes binding address) (f := Prod.fst),
    ← List.forall₂_map_left_iff
      (R := fun (name : Option String) address => ∀ binding,
        name = some binding ↔ Node.IsInitializer nodes binding address)
      (f := StyledDefinition.name), names, addresses] at agrees
  cases agrees with
  | cons _ agrees =>
      cases agrees with
      | cons second _ =>
          have initializes : Node.IsInitializer nodes "x" [0, 0, 1] :=
            ⟨[0, 0], node, count, found, declares, by rw [last]; rfl⟩
          have name := (second "x").mpr initializes
          simp at name

end Script

end SourceMark
