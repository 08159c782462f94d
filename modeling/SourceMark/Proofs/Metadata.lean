import SourceMark.Metadata.Registry
import SourceMark.Proofs.Json.RoundTrip
import SourceMark.Proofs.Location

/-!
# Tables that leave the script and come back

A table whose numbers fit into words is the same table after it has been
written and read.  Once a table is registered, every key of one of its entries
leads to the place of that entry, whatever was registered before.
-/

namespace SourceMark

/-! ## Reading records back -/

theorem Position.ofJson?_toJson (position : Position) :
    Position.ofJson? position.toJson = some position := by
  simp [Position.ofJson?, Position.toJson, Json.members?, Json.fieldsNamed,
    Json.natural?]

theorem Span.ofJson?_toJson (span : Span) :
    Span.ofJson? span.toJson = some span := by
  simp [Span.ofJson?, Span.toJson, Json.members?, Json.fieldsNamed,
    Position.ofJson?_toJson]

theorem Expression.ofJson?_toJson (expression : Expression) :
    Expression.ofJson? expression.toJson = some expression := by
  obtain ⟨name, span, component⟩ := expression
  cases component with
  | none =>
      simp [Expression.ofJson?, Expression.toJson, Json.members?,
        Json.fieldsNamed, Span.ofJson?_toJson, Json.text?, Json.ofNatural?,
        Json.optional]
  | some component =>
      simp [Expression.ofJson?, Expression.toJson, Json.members?,
        Json.fieldsNamed, Span.ofJson?_toJson, Json.text?, Json.ofNatural?,
        Json.optional, Json.natural?]

theorem StyledDefinition.ofJson?_toJson (definition : StyledDefinition) :
    StyledDefinition.ofJson? definition.toJson = some definition := by
  obtain ⟨name, span, tag⟩ := definition
  cases name with
  | none =>
      simp [StyledDefinition.ofJson?, StyledDefinition.toJson, Json.members?,
        Json.fieldsNamed, Span.ofJson?_toJson, Json.text?, Json.ofText?,
        Json.optional]
  | some name =>
      simp [StyledDefinition.ofJson?, StyledDefinition.toJson, Json.members?,
        Json.fieldsNamed, Span.ofJson?_toJson, Json.text?, Json.ofText?,
        Json.optional]

theorem Component.ofJson?_toJson (component : Component) :
    Component.ofJson? component.toJson = some component := by
  simp [Component.ofJson?, Component.toJson, Json.members?, Json.fieldsNamed,
    Span.ofJson?_toJson, Json.text?]

theorem Json.listOf_map {α : Type} {read : Json → Option α}
    {write : α → Json} (back : ∀ item, read (write item) = some item)
    (items : List α) :
    Json.listOf read (.list (items.map write)) = some items := by
  simp only [Json.listOf]
  induction items with
  | nil => rfl
  | cons item items induction =>
      simp [back, induction]

theorem FileTable.ofJson?_toJson (table : FileTable) :
    FileTable.ofJson? table.toJson = some table := by
  simp [FileTable.ofJson?, FileTable.toJson, FileTable.fieldNames,
    Json.members?, Json.fieldsNamed, Json.text?,
    Json.listOf_map Expression.ofJson?_toJson,
    Json.listOf_map StyledDefinition.ofJson?_toJson,
    Json.listOf_map Component.ofJson?_toJson]

/-! ## Tables whose numbers fit into words -/

/-- Line and column fit into words. -/
def Position.FitsWord (position : Position) : Prop :=
  position.line < Text.wordBound ∧ position.column < Text.wordBound

/-- Both ends of a span fit into words. -/
def Span.FitsWord (span : Span) : Prop :=
  span.start.FitsWord ∧ span.stop.FitsWord

/-- All numbers of a table fit into words. -/
structure FileTable.FitsWords (table : FileTable) : Prop where
  expression : ∀ expression ∈ table.expressions, expression.span.FitsWord
  component : ∀ expression ∈ table.expressions,
    ∀ component ∈ expression.component, component < Text.wordBound
  styled : ∀ definition ∈ table.styled, definition.span.FitsWord
  components : ∀ component ∈ table.components, component.span.FitsWord

theorem Span.isPlain_toJson {span : Span} (fits : span.FitsWord) :
    Json.IsPlain span.toJson := by
  obtain ⟨⟨_, _⟩, ⟨_, _⟩⟩ := fits
  simp_all [Span.toJson, Position.toJson, Json.IsPlain, Json.HavePlain]

theorem Expression.isPlain_toJson {expression : Expression}
    (fits : expression.span.FitsWord)
    (component : ∀ component ∈ expression.component,
      component < Text.wordBound) :
    Json.IsPlain expression.toJson := by
  have span := Span.isPlain_toJson fits
  obtain ⟨name, _, given⟩ := expression
  cases given with
  | none =>
      simpa [Expression.toJson, Json.IsPlain, Json.HavePlain, Json.ofNatural?]
        using span
  | some number =>
      have bound := component number rfl
      simpa [Expression.toJson, Json.IsPlain, Json.HavePlain, Json.ofNatural?,
        bound] using span

theorem StyledDefinition.isPlain_toJson {definition : StyledDefinition}
    (fits : definition.span.FitsWord) : Json.IsPlain definition.toJson := by
  have span := Span.isPlain_toJson fits
  obtain ⟨name, _, tag⟩ := definition
  cases name with
  | none =>
      simpa [StyledDefinition.toJson, Json.IsPlain, Json.HavePlain,
        Json.ofText?] using span
  | some name =>
      simpa [StyledDefinition.toJson, Json.IsPlain, Json.HavePlain,
        Json.ofText?] using span

theorem Component.isPlain_toJson {component : Component}
    (fits : component.span.FitsWord) : Json.IsPlain component.toJson := by
  have span := Span.isPlain_toJson fits
  simpa [Component.toJson, Json.IsPlain, Json.HavePlain] using span

theorem Json.arePlain_map {α : Type} {write : α → Json} {items : List α}
    (plain : ∀ item ∈ items, Json.IsPlain (write item)) :
    Json.ArePlain (items.map write) := by
  induction items with
  | nil => trivial
  | cons item items induction =>
      exact ⟨plain item (by simp),
        induction fun other member => plain other (by simp [member])⟩

namespace FileTable

theorem isPlain_toJson {table : FileTable} (fits : table.FitsWords) :
    Json.IsPlain table.toJson := by
  have expressions : Json.ArePlain (table.expressions.map Expression.toJson) :=
    Json.arePlain_map fun expression member =>
      Expression.isPlain_toJson (fits.expression expression member)
        (fits.component expression member)
  have styled : Json.ArePlain (table.styled.map StyledDefinition.toJson) :=
    Json.arePlain_map fun definition member =>
      StyledDefinition.isPlain_toJson (fits.styled definition member)
  have components : Json.ArePlain (table.components.map Component.toJson) :=
    Json.arePlain_map fun component member =>
      Component.isPlain_toJson (fits.components component member)
  simp [toJson, Json.IsPlain, Json.HavePlain, expressions, styled, components]

/-- The written form of a table is read back as the table. -/
theorem read?_of_written {table : FileTable} (fits : table.FitsWords) :
    read? table.written = some table := by
  simp [read?, written, Json.skim?_compact (isPlain_toJson fits),
    ofJson?_toJson]

end FileTable

/-! ## Registered tables -/

namespace Registry

theorem lookup_put (path : String) (table : FileTable)
    (tables : List (String × FileTable)) :
    (put path table tables).lookup path = some table := by
  induction tables with
  | nil => simp [put]
  | cons entry entries induction =>
      by_cases same : entry.1 = path
      · simp [put, same]
      · have different : (path == entry.1) = false := by
          simpa using Ne.symm same
        obtain ⟨other, kept⟩ := entry
        simpa [put, same, List.lookup_cons, different] using induction

/-- Registering the written form of a table registers the table. -/
theorem registerText?_of_written (registry : Registry) {table : FileTable}
    (fits : table.FitsWords) :
    registry.registerText? table.written = some (registry.register table) := by
  simp [registerText?, FileTable.read?_of_written fits]

variable {table : FileTable} {entry : Nat}

/-- The key of an entry of a table names the table and the entry. -/
theorem decode?_ownKey (named : table.fullPath ≠ "")
    (bound : entry < Text.wordBound) :
    EntryKey.decode? (EntryKey.encode { file := table.fullPath, entry }) =
      some { file := table.fullPath, entry } :=
  EntryKey.decode?_of_encode named bound

/-- After registration a key leads to what the table says about its entry. -/
theorem expressionLocation?_register (registry : Registry)
    (named : table.fullPath ≠ "") (bound : entry < Text.wordBound) :
    (registry.register table).expressionLocation?
      (EntryKey.encode { file := table.fullPath, entry }) =
        table.expressionLocation? entry := by
  simp [expressionLocation?, register, decode?_ownKey named bound, lookup_put]

theorem styledLocation?_register (registry : Registry)
    (named : table.fullPath ≠ "") (bound : entry < Text.wordBound) :
    (registry.register table).styledLocation?
      (EntryKey.encode { file := table.fullPath, entry }) =
        table.styledLocation? entry := by
  simp [styledLocation?, register, decode?_ownKey named bound, lookup_put]

end Registry

end SourceMark
