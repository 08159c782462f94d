import SourceMark.Proofs.Script.Sites

/-!
# The numbers in the table of a script

A construct enters at most one record into the table of its file, and the
number of a component that an element names is one that has been given out.
All numbers of the table therefore fit into words when places do and the tree
has fewer constructs than there are words.
-/

namespace SourceMark

namespace FileTable

/-- Splitting the project off a file name does not change the file part of the
keys. -/
theorem fullPath_forFile (filename : String) (project : Option String) :
    (forFile filename project).fullPath = filename := by
  unfold forFile fullPath
  cases project with
  | none => simp
  | some path =>
      by_cases inside : !path.isEmpty && Text.startsWith filename path
      · simp only [inside, if_true]
        have leading : path.toList <+: filename.toList := by
          simp only [Text.startsWith, Bool.and_eq_true,
            List.isPrefixOf_iff_prefix] at inside
          exact inside.2
        obtain ⟨rest, whole⟩ := leading
        rw [← whole, List.drop_left]
        apply String.toList_inj.mp
        simp [whole]
      · simp [inside]

end FileTable

namespace Script

namespace Marking

/-- The table after some number of constructs: every record is well placed,
and there are no more records than constructs. -/
structure FitsAfter (steps : Nat) (marking : Marking) : Prop where
  expression : ∀ expression ∈ marking.table.expressions,
    expression.span.FitsWord
  component : ∀ expression ∈ marking.table.expressions,
    ∀ component ∈ expression.component,
      component < marking.table.components.length
  styled : ∀ definition ∈ marking.table.styled, definition.span.FitsWord
  components : ∀ component ∈ marking.table.components,
    component.span.FitsWord
  enclosing : ∀ component ∈ marking.enclosing,
    component < marking.table.components.length
  few : marking.table.expressions.length + marking.table.styled.length +
    marking.table.components.length ≤ steps

namespace FitsAfter

variable {setting : Setting} {steps : Nat} {marking : Marking}

theorem mono (fits : FitsAfter steps marking) {more : Nat}
    (fewer : steps ≤ more) : FitsAfter more marking :=
  { fits with few := Nat.le_trans fits.few fewer }

/-- The name of the next variable has no place in the table. -/
theorem setName (fits : FitsAfter steps marking) (name : Option String) :
    FitsAfter steps { marking with styledName := name } :=
  ⟨fits.expression, fits.component, fits.styled, fits.components,
    fits.enclosing, fits.few⟩

theorem leave (fits : FitsAfter steps marking) :
    FitsAfter steps (leave marking) where
  expression := fits.expression
  component := fits.component
  styled := fits.styled
  components := fits.components
  enclosing := fun component member =>
    fits.enclosing component (List.mem_of_mem_tail member)
  few := fits.few

theorem enter (fits : FitsAfter steps marking) (name : String)
    {extent : Extent} (place : (setting.span extent).FitsWord) :
    FitsAfter (steps + 1) (enter setting name extent marking) where
  expression := fits.expression
  component := by
    intro expression member component given
    have earlier := fits.component expression member component given
    simp [Marking.enter, FileTable.addComponent]
    omega
  styled := fits.styled
  components := by
    intro component member
    simp only [Marking.enter, FileTable.addComponent, List.mem_append,
      List.mem_singleton] at member
    rcases member with earlier | rfl
    · exact fits.components component earlier
    · exact place
  enclosing := by
    intro component member
    simp only [Marking.enter, FileTable.addComponent, List.mem_cons,
      List.length_append, List.length_singleton] at member ⊢
    rcases member with rfl | outer
    · exact Nat.lt_succ_self _
    · exact Nat.lt_succ_of_lt (fits.enclosing component outer)
  few := by
    have few := fits.few
    simp [Marking.enter, FileTable.addComponent]
    omega

theorem markElement (fits : FitsAfter steps marking) (opening : Opening)
    (place : (setting.span opening.extent).FitsWord) :
    FitsAfter (steps + 1) (markElement setting opening marking) := by
  unfold Marking.markElement
  cases select setting opening marking.counted with
  | mk selected counted =>
      cases selected with
      | false =>
          have few := fits.few
          exact ⟨fits.expression, fits.component, fits.styled,
            fits.components, fits.enclosing, by simp; omega⟩
      | true =>
          constructor
          · intro expression member
            simp only [insert, FileTable.addExpression, if_true,
              List.mem_append, List.mem_singleton] at member
            rcases member with earlier | rfl
            · exact fits.expression expression earlier
            · exact place
          · intro expression member component given
            simp only [insert, FileTable.addExpression, if_true,
              List.mem_append, List.mem_singleton] at member
            rcases member with earlier | rfl
            · exact fits.component expression earlier component given
            · exact fits.enclosing component (List.mem_of_mem_head? given)
          · exact fits.styled
          · exact fits.components
          · exact fits.enclosing
          · have few := fits.few
            simp [insert, FileTable.addExpression]
            omega

theorem markTemplate (fits : FitsAfter steps marking) (tag : Node)
    {extent : Extent} (place : (setting.span extent).FitsWord) :
    FitsAfter (steps + 1) (markTemplate setting tag extent marking) := by
  have unchanged := (fits.setName none).mono (Nat.le_succ steps)
  unfold Marking.markTemplate
  cases styledTag? tag with
  | none => exact unchanged
  | some property =>
      by_cases split : setting.options.mode = .split
      · simpa only [split, if_true] using unchanged
      · simp only [split, if_false]
        constructor
        · exact fits.expression
        · exact fits.component
        · intro definition member
          simp only [insert, FileTable.addStyled, List.mem_append,
            List.mem_singleton] at member
          rcases member with earlier | rfl
          · exact fits.styled definition earlier
          · exact place
        · exact fits.components
        · exact fits.enclosing
        · have few := fits.few
          simp [insert, FileTable.addStyled]
          omega

end FitsAfter

section Traversal

variable {setting : Setting}

/-- A span fits into words when all places do. -/
theorem fitsWord_span
    (places : ∀ offset, (setting.index.location offset).FitsWord)
    (extent : Extent) : (setting.span extent).FitsWord :=
  ⟨places extent.start, places extent.stop⟩

mutual

/-- A traversal keeps the table within the count of the constructs met. -/
theorem fitsAfter_visit
    (places : ∀ offset, (setting.index.location offset).FitsWord)
    {steps : Nat} (node : Node) (marking : Marking)
    (fits : FitsAfter steps marking) :
    FitsAfter (steps + node.count) (visit setting node marking) := by
  match node with
  | .name _ _ => exact fits.mono (by omega)
  | .member object _ _ =>
      exact (fitsAfter_visit places object marking fits).mono
        (by simp only [Node.count]; omega)
  | .function .declaration (some name) extent parts =>
      have entered := fits.enter name (fitsWord_span places extent)
      exact (fitsAfter_visitAll places parts _ entered).leave.mono
        (by simp only [Node.count]; omega)
  | .function .declaration none _ parts
  | .function .defaultExport _ _ parts
  | .function .expression _ _ parts
  | .arrow _ parts
  | .group _ parts =>
      exact (fitsAfter_visitAll places parts marking fits).mono
        (by simp only [Node.count]; omega)
  | .declarator binding extent target value =>
      have named := fits.setName (initializedName binding value)
      simp only [visit]
      cases component : componentName? binding value with
      | none =>
          have inside := fitsAfter_visitValue places value _
            (fitsAfter_visitAll places target _ named)
          exact (inside.setName marking.styledName).mono
            (by simp only [Node.count]; omega)
      | some name =>
          have entered := named.enter name (fitsWord_span places extent)
          have inside := fitsAfter_visitValue places value _
            (fitsAfter_visitAll places target _ entered)
          exact (inside.leave.setName marking.styledName).mono
            (by simp only [Node.count]; omega)
  | .taggedTemplate tag extent parts =>
      have marked := fits.markTemplate tag (fitsWord_span places extent)
      have inside := fitsAfter_visit places tag _ marked
      exact (fitsAfter_visitAll places parts _ inside).mono
        (by simp only [Node.count]; omega)
  | .element opening parts =>
      have marked := fits.markElement opening
        (fitsWord_span places opening.extent)
      exact (fitsAfter_visitAll places parts _ marked).mono
        (by simp only [Node.count]; omega)

/-- List counterpart of `fitsAfter_visit`. -/
theorem fitsAfter_visitAll
    (places : ∀ offset, (setting.index.location offset).FitsWord)
    {steps : Nat} (nodes : List Node) (marking : Marking)
    (fits : FitsAfter steps marking) :
    FitsAfter (steps + Node.countAll nodes)
      (visitAll setting nodes marking) := by
  match nodes with
  | [] => exact fits
  | node :: nodes =>
      have inside := fitsAfter_visit places node marking fits
      exact (fitsAfter_visitAll places nodes _ inside).mono
        (by simp only [Node.countAll]; omega)

/-- Counterpart of `fitsAfter_visit` for the value of a variable. -/
theorem fitsAfter_visitValue
    (places : ∀ offset, (setting.index.location offset).FitsWord)
    {steps : Nat} (value : Option Node) (marking : Marking)
    (fits : FitsAfter steps marking) :
    FitsAfter (steps + Node.countOfValue value)
      (visitValue setting value marking) := by
  match value with
  | none => exact fits
  | some node => exact fitsAfter_visit places node marking fits

end

end Traversal

/-- Nothing is recorded at the start. -/
theorem fitsAfter_start (filename : String) (project : Option String) :
    FitsAfter 0 (start (FileTable.forFile filename project)) := by
  have nothing : (FileTable.forFile filename project).expressions = [] ∧
      (FileTable.forFile filename project).styled = [] ∧
      (FileTable.forFile filename project).components = [] :=
    ⟨rfl, rfl, rfl⟩
  obtain ⟨expressions, styled, components⟩ := nothing
  constructor
  all_goals simp [start, expressions, styled, components]

end Marking

/-- The setting in which the tree of a text is marked. -/
def Setting.forText (source : List Char) (file : FileOptions)
    (options : Options) : Setting :=
  { index := LineIndex.ofText source, file, options }

/-- The marking behind the tree of a text. -/
def Marking.ofTree (source : List Char) (file : FileOptions)
    (options : Options) (nodes : List Node) : Marking :=
  Marking.visitAll (Setting.forText source file options) nodes
    (Marking.start (FileTable.forFile file.filename options.project))

theorem markTree_eq (source : List Char) (file : FileOptions)
    (options : Options) (nodes : List Node) :
    markTree source file options nodes =
      ((Marking.ofTree source file options nodes).table,
        (Marking.ofTree source file options nodes).insertions) :=
  rfl

/-- The table of a script has words for all its numbers, and fewer entries
than there are words. -/
theorem Marking.fitsWords_ofTree {source : List Char}
    (storable : Text.IsStorable source) (file : FileOptions)
    (options : Options) {nodes : List Node}
    (small : Node.countAll nodes < Text.wordBound) :
    (Marking.ofTree source file options nodes).table.FitsWords ∧
      (Marking.ofTree source file options nodes).table.expressions.length <
        Text.wordBound ∧
      (Marking.ofTree source file options nodes).table.styled.length <
        Text.wordBound := by
  have places : ∀ offset, ((Setting.forText source file options).index.location
      offset).FitsWord := LineIndex.location_lt_wordBound storable
  have fits := Marking.fitsAfter_visitAll places nodes _
    (Marking.fitsAfter_start file.filename options.project)
  rw [Nat.zero_add] at fits
  change Marking.FitsAfter _ (Marking.ofTree source file options nodes) at fits
  have few := fits.few
  refine ⟨⟨fits.expression, ?_, fits.styled, fits.components⟩, ?_, ?_⟩
  · intro expression member component given
    have known := fits.component expression member component given
    omega
  · omega
  · omega

end Script

end SourceMark
