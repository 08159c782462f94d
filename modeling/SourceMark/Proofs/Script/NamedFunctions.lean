import SourceMark.Proofs.Evaluation
import SourceMark.Proofs.Script.Scopes

/-!
# Which functions with a name are components

A function that is declared by a statement is a component, and the elements
directly in it have its number.  A function that has a name for another reason,
such as the one that a module exports by default, is none: what is directly in
it belongs to what is around it.
-/

namespace SourceMark

namespace Script

namespace Node

/-- An address is inside a construct and in no component inside this one. -/
structure IsDirectlyIn (nodes : List Node) (outer address : Address) :
    Prop where
  encloses : Address.Encloses outer address
  direct : ∀ other node, at? nodes other = some node →
    node.isComponent = true → Address.Encloses other address → other <+: outer

section Directly

variable {nodes : List Node} {outer address : Address} {node : Node}

/-- What is directly in a component has it for its innermost one. -/
theorem IsDirectlyIn.isInnermost (directly : IsDirectlyIn nodes outer address)
    (found : at? nodes outer = some node)
    (component : node.isComponent = true) :
    IsInnermost nodes isComponent outer address where
  holds := ⟨node, found, component⟩
  encloses := directly.encloses
  innermost := directly.direct

/-- The components around what is directly in another construct are those around
the construct. -/
theorem IsDirectlyIn.encloses_iff (directly : IsDirectlyIn nodes outer address)
    (found : at? nodes outer = some node)
    (outside : node.isComponent = false) {other : Address} {around : Node}
    (here : at? nodes other = some around)
    (component : around.isComponent = true) :
    Address.Encloses other address ↔ Address.Encloses other outer := by
  constructor
  · intro encloses
    refine ⟨directly.direct other around here component encloses, ?_⟩
    rintro rfl
    rw [Option.some.inj (here.symm.trans found), outside] at component
    cases component
  · rintro ⟨before, proper⟩
    refine ⟨before.trans directly.encloses.1, ?_⟩
    rintro rfl
    exact proper (before.eq_of_length
      (Nat.le_antisymm before.length_le directly.encloses.1.length_le))

theorem IsDirectlyIn.isInnermost_iff
    (directly : IsDirectlyIn nodes outer address)
    (found : at? nodes outer = some node)
    (outside : node.isComponent = false) {around : Address} :
    IsInnermost nodes isComponent around address ↔
      IsInnermost nodes isComponent around outer := by
  have moved {other : Address} {around : Node}
      (here : at? nodes other = some around)
      (component : around.isComponent = true) :=
    directly.encloses_iff found outside here component
  constructor
  · rintro ⟨⟨inside, here, component⟩, encloses, innermost⟩
    refine ⟨⟨inside, here, component⟩, (moved here component).mp encloses, ?_⟩
    intro other node' here' component' encloses'
    exact innermost other node' here' component'
      ((moved here' component').mpr encloses')
  · rintro ⟨⟨inside, here, component⟩, encloses, innermost⟩
    refine ⟨⟨inside, here, component⟩, (moved here component).mpr encloses, ?_⟩
    intro other node' here' component' encloses'
    exact innermost other node' here' component'
      ((moved here' component').mp encloses')

end Directly

/-- The role and the name of a function. -/
def function? : Node → Option (FunctionRole × Option String)
  | .function role named _ _ => some (role, named)
  | _ => none

theorem exists_of_function? {node : Node} {role : FunctionRole}
    {named : Option String} (shown : node.function? = some (role, named)) :
    ∃ extent parts, node = .function role named extent parts := by
  cases node with
  | function role named extent parts =>
      cases shown
      exact ⟨extent, parts, rfl⟩
  | _ => cases shown

theorem component?_function (role : FunctionRole) (named : String)
    (extent : Extent) (parts : List Node) :
    (function role (some named) extent parts).component? =
      if role = .declaration then some (named, extent) else none := by
  cases role with
  | declaration => rfl
  | defaultExport => rfl
  | expression => rfl

end Node

namespace Marking

/-- What is directly in a construct that is no component belongs to what the
construct belongs to. -/
theorem BelongsTo.of_isDirectlyIn {nodes : List Node}
    {declared : List (Address × (String × Extent))} {number? : Option Nat}
    {outer address : Address} {node : Node}
    (belongs : BelongsTo nodes declared number? address)
    (directly : Node.IsDirectlyIn nodes outer address)
    (found : Node.at? nodes outer = some node)
    (outside : node.isComponent = false) :
    BelongsTo nodes declared number? outer where
  inside entry := by
    rw [belongs.inside entry]
    simp only [directly.isInnermost_iff found outside]
  outside := by
    rw [belongs.outside]
    constructor
    · intro nothing other around here component encloses
      exact nothing other around here component
        ((directly.encloses_iff found outside here component).mpr encloses)
    · intro nothing other around here component encloses
      exact nothing other around here component
        ((directly.encloses_iff found outside here component).mp encloses)
  below := belongs.below

end Marking

/-- A construct is the component with a number, and the marked elements directly
in it have this number. -/
structure Wraps (setting : Setting) (nodes : List Node)
    (declared : List (Address × (String × Extent)))
    (openings : List (Address × Opening)) (table : FileTable)
    (outer : Address) (component : String × Extent) (entry : Nat) : Prop where
  registered : declared[entry]? = some (outer, component)
  recorded : table.components[entry]? =
    some (Marking.componentRecord setting component)
  wraps : List.Forall₂
    (fun expression item => Node.IsDirectlyIn nodes outer item.1 →
      expression.component = some entry)
    table.expressions (chosen setting.file setting.options openings)

/-- What a table holds of a function with a name at an address: `declared` are
the components of the script and `openings` the opening tags of its elements. -/
structure HoldsFunction (setting : Setting) (nodes : List Node)
    (declared : List (Address × (String × Extent)))
    (openings : List (Address × Opening)) (table : FileTable)
    (role : FunctionRole) (outer : Address) (component : String × Extent) :
    Prop where
  declarations : Node.Enumerates nodes Node.component? declared
  elements : Node.Enumerates nodes Node.opening? openings
  wrapping : (∃ entry, Wraps setting nodes declared openings table outer
    component entry) ↔ role = .declaration
  passed : role ≠ .declaration → List.Forall₂
    (fun expression item => Node.IsDirectlyIn nodes outer item.1 →
      Marking.BelongsTo nodes declared expression.component outer)
    table.expressions (chosen setting.file setting.options openings)

/-- A function with a name is a component that wraps the elements directly in it
exactly when a statement declares it. -/
theorem holdsFunction_ofTree {source : List Char} {file : FileOptions}
    {options : Options} {nodes : List Node} {outer : Address}
    {role : FunctionRole} {named : String} {extent : Extent}
    {parts : List Node}
    (found : Node.at? nodes outer =
      some (.function role (some named) extent parts)) :
    ∃ declared openings, HoldsFunction (Setting.forText source file options)
      nodes declared openings (Marking.ofTree source file options nodes).table
      role outer (named, extent) := by
  have scopes := Marking.scopes_ofTree source file options nodes
  have declarations : Node.Enumerates nodes Node.component?
      (Node.gather Node.component? (Node.met nodes)) :=
    Node.enumerates_gather_met nodes
  have shown := Node.component?_function role named extent parts
  refine ⟨Node.gather Node.component? (Node.met nodes),
    Node.gather Node.opening? (Node.met nodes), declarations,
    Node.enumerates_gather_met nodes, ?_, ?_⟩
  · constructor
    · rintro ⟨entry, wraps⟩
      obtain ⟨node, here, component⟩ := (declarations.everywhere _ _).mp
        (List.mem_of_getElem? wraps.registered)
      rw [← Option.some.inj (found.symm.trans here), shown] at component
      split at component
      · assumption
      · cases component
    · intro declared
      rw [if_pos declared] at shown
      have member := (declarations.everywhere _ _).mpr ⟨_, found, shown⟩
      obtain ⟨entry, registered⟩ := List.mem_iff_getElem?.mp member
      refine ⟨entry, registered, ?_, ?_⟩
      · rw [scopes.components, List.getElem?_map, registered]
        rfl
      · apply scopes.belongsTo.imp
        rintro expression item ⟨_, belongs⟩ directly
        have component := Option.isSome_of_eq_some shown
        exact (belongs.inside entry).mpr
          ⟨outer, directly.isInnermost found component, by rw [registered]; rfl⟩
  · intro undeclared
    rw [if_neg undeclared] at shown
    apply scopes.belongsTo.imp
    rintro expression item ⟨_, belongs⟩ directly
    exact belongs.of_isDirectlyIn directly found (by
      rw [Node.isComponent, shown]
      rfl)

/-- A component around the elements of a function but for those of another
component inside it. -/
theorem holdsFunction_ofTree_nested :
    let options : Options := {
      mode := .key, environment := none, project := none
      current := "development", filter := .all }
    let file : FileOptions := { filename := "/src/a.jsx", ignored := [] }
    let text := "export function A() \x7b return <a>\x7b() => \x7b " ++
      "const B = () => <b/>; \x7d\x7d</a>; \x7d\n"
    ∃ nodes extent parts declared openings,
      readScript file.filename text.toList = .ok nodes ∧
      Node.at? nodes [0, 0] =
        some (.function .declaration (some "A") extent parts) ∧
      HoldsFunction (Setting.forText text.toList file options) nodes declared
        openings (Marking.ofTree text.toList file options nodes).table
        .declaration [0, 0] ("A", extent) ∧
      (Marking.ofTree text.toList file options nodes).table.expressions.map
        Expression.component = [some 0, some 1] := by
  intro options file text
  let nodes := (readScript file.filename text.toList).toOption.getD []
  have read : readScript file.filename text.toList = .ok nodes :=
    eq_ok_getD [] (by decide +kernel)
  have shown : (Node.at? nodes [0, 0]).bind Node.function? =
      some (.declaration, some "A") := by decide +kernel
  have entries : (Marking.ofTree text.toList file options
      nodes).table.expressions.map Expression.component =
        [some 0, some 1] := by
    decide +kernel
  obtain ⟨node, found, isFunction⟩ := Option.bind_eq_some_iff.mp shown
  obtain ⟨extent, parts, rfl⟩ := Node.exists_of_function? isFunction
  obtain ⟨declared, openings, holds⟩ : ∃ declared openings,
      HoldsFunction (Setting.forText text.toList file options) nodes declared
        openings (Marking.ofTree text.toList file options nodes).table
        .declaration [0, 0] ("A", extent) :=
    holdsFunction_ofTree found
  exact ⟨nodes, extent, parts, declared, openings, read, found, holds, entries⟩

/-- A function that a module exports by default is no component. -/
theorem not_wraps_defaultExport :
    ¬ ∀ (options : Options) (text : String) (file : FileOptions)
        (nodes : List Node) (outer : Address) (role : FunctionRole)
        (named : String) (extent : Extent) (parts : List Node),
      readScript file.filename text.toList = .ok nodes →
      Node.at? nodes outer = some (.function role (some named) extent parts) →
      role = .declaration ∨ role = .defaultExport →
      ∃ entry component,
        (Marking.ofTree text.toList file options
          nodes).table.components[entry]? = some component ∧
        component.name = named ∧
        List.Forall₂
          (fun expression item => Node.IsDirectlyIn nodes outer item.1 →
            expression.component = some entry)
          (Marking.ofTree text.toList file options nodes).table.expressions
          (Marking.chosenIn (Setting.forText text.toList file options)
            (Node.met nodes)) := by
  intro wraps
  let options : Options := {
    mode := .key, environment := none, project := none
    current := "development", filter := .all }
  let file : FileOptions := { filename := "/src/a.tsx", ignored := [] }
  let text := "export default function App() \x7b return <div/>; \x7d\n"
  let nodes := (readScript file.filename text.toList).toOption.getD []
  have read : readScript file.filename text.toList = .ok nodes :=
    eq_ok_getD [] (by decide +kernel)
  have shown : (Node.at? nodes [0, 0]).bind Node.function? =
      some (.defaultExport, some "App") := by decide +kernel
  have nothing : (Marking.ofTree text.toList file options
      nodes).table.components.length = 0 := by decide +kernel
  obtain ⟨node, found, isFunction⟩ := Option.bind_eq_some_iff.mp shown
  obtain ⟨extent, parts, rfl⟩ := Node.exists_of_function? isFunction
  obtain ⟨entry, component, recorded, _⟩ :=
    wraps options text file nodes [0, 0] _ "App" extent parts read found
      (.inr rfl)
  have below := (List.getElem?_eq_some_iff.mp recorded).1
  omega

end Script

end SourceMark
