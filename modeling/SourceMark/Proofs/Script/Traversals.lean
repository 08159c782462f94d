import SourceMark.Proofs.Script.Addresses
import SourceMark.Script.Marking

/-!
# One traversal, construct by construct

A traversal does something at a construct before it turns to what is inside,
and something behind it.  Both are described here once, field by field of the
marking, and what both of them preserve is preserved by a whole traversal.
-/

namespace SourceMark

namespace Script

/-! ## What a construct is to a traversal -/

/-- What is recorded of a styled template. -/
structure StyledTemplate where
  /-- The offset behind the tag. -/
  tagStop : Nat
  extent : Extent
  /-- The property that the tag names. -/
  property : String

namespace Node

/-- The opening tag of an element. -/
def opening? : Node → Option Opening
  | .element opening _ => some opening
  | _ => none

/-- The component that a construct declares: a function with its name, or the
variable whose value is a function. -/
def component? : Node → Option (String × Extent)
  | .function .declaration (some named) extent _ => some (named, extent)
  | .declarator binding extent _ value =>
      (Marking.componentName? binding value).map (·, extent)
  | _ => none

/-- Whether a construct is a template with a tag. -/
def isTemplate : Node → Bool
  | .taggedTemplate _ _ _ => true
  | _ => false

/-- A template whose tag is a property of `styled`. -/
def styledTemplate? : Node → Option StyledTemplate
  | .taggedTemplate tag extent _ =>
      (Marking.styledTag? tag).map fun property =>
        { tagStop := tag.extent.stop, extent, property }
  | _ => none

/-- What a variable has for a template: its name when its value is one, and
otherwise nothing. -/
def offer? : Node → Option (Option String)
  | .declarator binding _ _ value =>
      some (Marking.initializedName binding value)
  | _ => none

/-- Whether a construct is a variable with its value. -/
def isDeclarator (node : Node) : Bool := node.offer?.isSome

/-- Whether a construct declares a component. -/
def isComponent (node : Node) : Bool := node.component?.isSome

end Node

namespace Marking

/-- The record of a component. -/
def componentRecord (setting : Setting) (component : String × Extent) :
    Component :=
  let span := setting.span component.2
  { name := component.1
    place := Text.numeral span.start.line ++ ":" ++
      Text.numeral span.start.column
    span }

/-- The record of an element inside a component. -/
def expressionRecord (setting : Setting) (component : Option Nat)
    (opening : Opening) : Expression :=
  { name := opening.name, span := setting.span opening.extent, component }

/-- The record of a styled template. -/
def styledRecord (setting : Setting) (name : Option String)
    (template : StyledTemplate) : StyledDefinition :=
  { name, span := setting.span template.extent, tag := template.property }

/-- What marks an element with a number in the table. -/
def elementInsertion (setting : Setting) (file : String) (opening : Opening)
    (entry : Nat) : Insertion where
  offset := markOffset opening
  text := markText setting.options.mode file
    (setting.span opening.extent).start entry

/-- What marks a styled template with a number in the table. -/
def styledInsertion (file : String) (template : StyledTemplate)
    (entry : Nat) : Insertion where
  offset := template.tagStop
  text := styledText file entry

/-- The element that a construct is, when it is to be marked. -/
def selected? (setting : Setting) (node : Node) (counted : Nat) :
    Option Opening :=
  node.opening?.filter fun opening => (select setting opening counted).1

/-- The styled template that a construct is, when it is to be marked. -/
def instrumented? (setting : Setting) (node : Node) : Option StyledTemplate :=
  if setting.options.mode = .split then none else node.styledTemplate?

/-! ## At a construct and behind it -/

/-- What a traversal does at a construct. -/
def opened (setting : Setting) : Node → Marking → Marking
  | .function .declaration (some name) extent _, marking =>
      enter setting name extent marking
  | .declarator binding extent _ value, marking =>
      let marking :=
        { marking with styledName := initializedName binding value }
      match componentName? binding value with
      | some name => enter setting name extent marking
      | none => marking
  | .taggedTemplate tag extent _, marking =>
      markTemplate setting tag extent marking
  | .element opening _, marking => markElement setting opening marking
  | _, marking => marking

/-- What a traversal does behind a construct; `outer` is the marking in front
of it. -/
def closed : Node → Marking → Marking → Marking
  | .function .declaration (some _) _ _, _, marking => leave marking
  | .declarator binding _ _ value, outer, marking =>
      let marking :=
        match componentName? binding value with
        | some _ => leave marking
        | none => marking
      { marking with styledName := outer.styledName }
  | _, _, marking => marking

theorem visitAll_append (setting : Setting) (first second : List Node)
    (marking : Marking) :
    visitAll setting (first ++ second) marking =
      visitAll setting second (visitAll setting first marking) := by
  induction first generalizing marking with
  | nil => rfl
  | cons node first induction => exact induction (visit setting node marking)

theorem visitValue_eq (setting : Setting) (value : Option Node)
    (marking : Marking) :
    visitValue setting value marking =
      visitAll setting value.toList marking := by
  cases value with
  | none => rfl
  | some node => rfl

theorem visit_eq (setting : Setting) (node : Node) (marking : Marking) :
    visit setting node marking =
      closed node marking
        (visitAll setting node.inner (opened setting node marking)) := by
  cases node with
  | function role named extent parts =>
      cases role with
      | declaration =>
          cases named with
          | some name => rfl
          | none => rfl
      | defaultExport => rfl
      | expression => rfl
  | declarator binding extent target value =>
      simp only [visit, opened, closed, Node.inner, visitAll_append,
        visitValue_eq]
      cases componentName? binding value with
      | some name => rfl
      | none => rfl
  | taggedTemplate tag extent parts => rfl
  | _ => rfl

/-- What changes at a construct. -/
structure Opens (setting : Setting) (node : Node) (before after : Marking) :
    Prop where
  fullPath : after.table.fullPath = before.table.fullPath
  components : after.table.components = before.table.components ++
    node.component?.toList.map (componentRecord setting)
  enclosing : after.enclosing =
    if node.isComponent then
      before.table.components.length :: before.enclosing
    else before.enclosing
  counted : after.counted = node.opening?.elim before.counted
    fun opening => (select setting opening before.counted).2
  expressions : after.table.expressions = before.table.expressions ++
    (selected? setting node before.counted).toList.map
      (expressionRecord setting before.enclosing.head?)
  styled : after.table.styled = before.table.styled ++
    (instrumented? setting node).toList.map
      (styledRecord setting before.styledName)
  styledName : after.styledName = node.offer?.getD
    (if node.isTemplate then none else before.styledName)
  insertions : after.insertions = before.insertions ++
    (selected? setting node before.counted).toList.map (fun opening =>
      elementInsertion setting before.table.fullPath opening
        before.table.expressions.length) ++
    (instrumented? setting node).toList.map (fun template =>
      styledInsertion before.table.fullPath template
        before.table.styled.length)

/-- A construct that is nothing to a traversal changes nothing. -/
theorem opens_of_plain {setting : Setting} {node : Node}
    (component : node.component? = none) (opening : node.opening? = none)
    (template : node.isTemplate = false)
    (styled : node.styledTemplate? = none) (offer : node.offer? = none)
    (marking : Marking) : Opens setting node marking marking := by
  constructor
  all_goals simp [component, opening, template, styled, offer, selected?,
    instrumented?, Node.isComponent]

theorem opens_element (setting : Setting) (opening : Opening)
    (parts : List Node) (marking : Marking) :
    Opens setting (.element opening parts) marking
      (markElement setting opening marking) := by
  unfold markElement
  cases chosen : select setting opening marking.counted with
  | mk selected counted =>
      cases selected with
      | false =>
          constructor
          all_goals simp [Node.component?, Node.opening?, Node.offer?,
            Node.isComponent, Node.isTemplate, selected?, instrumented?,
            Node.styledTemplate?, chosen]
      | true =>
          constructor
          all_goals simp [Node.component?, Node.opening?, Node.offer?,
            Node.isComponent, Node.isTemplate, selected?, instrumented?,
            Node.styledTemplate?, chosen, Option.filter_some, insert,
            FileTable.addExpression, FileTable.fullPath, expressionRecord,
            elementInsertion]

theorem opens_template (setting : Setting) (tag : Node) (extent : Extent)
    (parts : List Node) (marking : Marking) :
    Opens setting (.taggedTemplate tag extent parts) marking
      (markTemplate setting tag extent marking) := by
  unfold markTemplate
  by_cases split : setting.options.mode = .split
  · constructor
    all_goals cases styledTag? tag with
      | none =>
          simp [Node.component?, Node.opening?, Node.offer?, Node.isComponent,
            Node.isTemplate, selected?, instrumented?, split]
      | some property =>
          simp [Node.component?, Node.opening?, Node.offer?, Node.isComponent,
            Node.isTemplate, selected?, instrumented?, split]
  · cases styled : styledTag? tag with
    | none =>
        constructor
        all_goals simp [Node.component?, Node.opening?, Node.offer?,
          Node.isComponent, Node.isTemplate, selected?, instrumented?,
          Node.styledTemplate?, styled, split]
    | some property =>
        constructor
        all_goals simp [Node.component?, Node.opening?, Node.offer?,
          Node.isComponent, Node.isTemplate, selected?, instrumented?,
          Node.styledTemplate?, styled, split, insert, FileTable.addStyled,
          FileTable.fullPath, styledRecord, styledInsertion]

theorem opens (setting : Setting) (node : Node) (marking : Marking) :
    Opens setting node marking (opened setting node marking) := by
  cases node with
  | element opening parts => exact opens_element setting opening parts marking
  | taggedTemplate tag extent parts =>
      exact opens_template setting tag extent parts marking
  | declarator binding extent target value =>
      simp only [opened]
      cases component : componentName? binding value with
      | none =>
          constructor
          all_goals simp [Node.component?, Node.opening?, Node.offer?,
            Node.isComponent, selected?, instrumented?, Node.styledTemplate?,
            component]
      | some name =>
          constructor
          all_goals simp [Node.component?, Node.opening?, Node.offer?,
            Node.isComponent, selected?, instrumented?, Node.styledTemplate?,
            component, enter, FileTable.addComponent, FileTable.fullPath,
            componentRecord]
  | function role named extent parts =>
      cases role with
      | declaration =>
          cases named with
          | none => exact opens_of_plain rfl rfl rfl rfl rfl marking
          | some name =>
              constructor
              all_goals simp [opened, Node.component?, Node.opening?,
                Node.offer?, Node.isComponent, Node.isTemplate, selected?,
                instrumented?, Node.styledTemplate?, enter,
                FileTable.addComponent, FileTable.fullPath, componentRecord]
      | defaultExport => exact opens_of_plain rfl rfl rfl rfl rfl marking
      | expression => exact opens_of_plain rfl rfl rfl rfl rfl marking
  | _ => exact opens_of_plain rfl rfl rfl rfl rfl marking

/-- What changes behind a construct. -/
structure Closes (node : Node) (outer before after : Marking) : Prop where
  table : after.table = before.table
  insertions : after.insertions = before.insertions
  counted : after.counted = before.counted
  enclosing : after.enclosing =
    if node.isComponent then before.enclosing.tail else before.enclosing
  styledName : after.styledName =
    if node.isDeclarator then outer.styledName else before.styledName

theorem closes (node : Node) (outer marking : Marking) :
    Closes node outer marking (closed node outer marking) := by
  have plain (component : node.isComponent = false)
      (declarator : node.isDeclarator = false) :
      Closes node outer marking marking := by
    constructor
    all_goals simp [component, declarator]
  cases node with
  | declarator binding extent target value =>
      simp only [closed]
      cases component : componentName? binding value with
      | none =>
          constructor
          all_goals simp [Node.isComponent, Node.component?, component,
            Node.isDeclarator, Node.offer?]
      | some name =>
          constructor
          all_goals simp [Node.isComponent, Node.component?, component,
            Node.isDeclarator, Node.offer?, leave]
  | function role named extent parts =>
      cases role with
      | declaration =>
          cases named with
          | none => exact plain rfl rfl
          | some name => exact ⟨rfl, rfl, rfl, rfl, rfl⟩
      | defaultExport => exact plain rfl rfl
      | expression => exact plain rfl rfl
  | _ => exact plain rfl rfl

/-! ## Whole traversals -/

/-- What holds of the constructs met so far, of the address that the traversal
is inside of and of the marking survives what is done at and behind
constructs. -/
structure Survives (setting : Setting) (root : List Node)
    (holds : List (Address × Node) → Address → Marking → Prop) : Prop where
  opened {before : List (Address × Node)} {base : Address} {number : Nat}
      {node : Node} {marking : Marking} :
    before ++ [(base ++ [number], node)] <+: Node.met root →
    holds before base marking →
    holds (before ++ [(base ++ [number], node)]) (base ++ [number])
      (opened setting node marking)
  closed {before : List (Address × Node)} {base : Address} {number : Nat}
      {node : Node} {outer marking : Marking} :
    before ++ (base ++ [number], node) ::
      Node.metFrom (base ++ [number]) 0 node.inner <+: Node.met root →
    holds before base outer →
    holds (before ++ (base ++ [number], node) ::
      Node.metFrom (base ++ [number]) 0 node.inner) (base ++ [number])
      marking →
    holds (before ++ (base ++ [number], node) ::
      Node.metFrom (base ++ [number]) 0 node.inner) base
      (closed node outer marking)

theorem Survives.visitAll {setting : Setting} {root : List Node}
    {holds : List (Address × Node) → Address → Marking → Prop}
    (survives : Survives setting root holds) {base : Address} {number : Nat}
    {nodes : List Node} {before : List (Address × Node)} {marking : Marking}
    (ahead : before ++ Node.metFrom base number nodes <+: Node.met root)
    (start : holds before base marking) :
    holds (before ++ Node.metFrom base number nodes) base
      (visitAll setting nodes marking) := by
  fun_induction Node.metFrom base number nodes generalizing before marking with
  | case1 base number =>
      rw [List.append_nil]
      exact start
  | case2 base number node nodes inside behind =>
      let met := before ++ (base ++ [number], node) ::
        Node.metFrom (base ++ [number]) 0 node.inner
      have parts : before ++ (base ++ [number], node) ::
          (Node.metFrom (base ++ [number]) 0 node.inner ++
            Node.metFrom base (number + 1) nodes) =
          met ++ Node.metFrom base (number + 1) nodes := by
        simp [met]
      have front : before ++ [(base ++ [number], node)] ++
          Node.metFrom (base ++ [number]) 0 node.inner = met := by
        simp [met]
      rw [parts] at ahead ⊢
      have met_ahead : met <+: Node.met root :=
        (List.prefix_append _ _).trans ahead
      have here_ahead : before ++ [(base ++ [number], node)] <+:
          Node.met root :=
        (front ▸ List.prefix_append _ _).trans met_ahead
      have opened := survives.opened here_ahead start
      have filled := inside (front ▸ met_ahead) opened
      rw [front] at filled
      have closed := survives.closed met_ahead start filled
      rw [← visit_eq] at closed
      exact behind ahead closed

/-- What a traversal starts with and what survives holds at its end. -/
theorem Survives.of_start {setting : Setting} {nodes : List Node}
    {holds : List (Address × Node) → Address → Marking → Prop}
    (survives : Survives setting nodes holds) {marking : Marking}
    (start : holds [] [] marking) :
    holds (Node.met nodes) [] (Marking.visitAll setting nodes marking) := by
  have ahead : [] ++ Node.metFrom [] 0 nodes <+: Node.met nodes :=
    List.prefix_rfl
  exact survives.visitAll ahead start

end Marking

end Script

end SourceMark
