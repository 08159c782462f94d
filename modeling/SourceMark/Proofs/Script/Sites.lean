import SourceMark.Script.Annotation
import SourceMark.Proofs.Metadata
import SourceMark.Proofs.Text.Positions

/-!
# What a traversal of a script marks

The elements and the tagged templates of a tree, in the order of a traversal,
are its sites.  Which of them are marked and under which numbers depends only
on what has been counted before, so the insertions of a traversal can be read
off the list of sites.  Components and the names of variables go into the table
as well, but they have no influence on what is inserted.
-/

namespace SourceMark

namespace Script

/-- A construct that can carry a mark. -/
inductive Site where
  | element (opening : Opening)
  | template (tag : Node) (extent : Extent)

mutual

/-- The sites of a construct in the order of a traversal. -/
def Node.sites : Node → List Site
  | .name _ _ => []
  | .member object _ _ => object.sites
  | .function _ _ _ parts => Node.sitesAll parts
  | .arrow _ parts => Node.sitesAll parts
  | .declarator _ _ target value =>
      Node.sitesAll target ++ Node.sitesOfValue value
  | .taggedTemplate tag extent parts =>
      .template tag extent :: (tag.sites ++ Node.sitesAll parts)
  | .element opening parts => .element opening :: Node.sitesAll parts
  | .group _ parts => Node.sitesAll parts

/-- The sites of constructs in order. -/
def Node.sitesAll : List Node → List Site
  | [] => []
  | node :: nodes => node.sites ++ Node.sitesAll nodes

/-- The sites of the value of a variable. -/
def Node.sitesOfValue : Option Node → List Site
  | none => []
  | some node => node.sites

end

mutual

/-- The number of constructs in a tree. -/
def Node.count : Node → Nat
  | .name _ _ => 1
  | .member object _ _ => object.count + 1
  | .function _ _ _ parts => Node.countAll parts + 1
  | .arrow _ parts => Node.countAll parts + 1
  | .declarator _ _ target value =>
      Node.countAll target + Node.countOfValue value + 1
  | .taggedTemplate tag _ parts => tag.count + Node.countAll parts + 1
  | .element _ parts => Node.countAll parts + 1
  | .group _ parts => Node.countAll parts + 1

/-- The number of constructs in some trees. -/
def Node.countAll : List Node → Nat
  | [] => 0
  | node :: nodes => node.count + Node.countAll nodes

/-- The number of constructs in the value of a variable. -/
def Node.countOfValue : Option Node → Nat
  | none => 0
  | some node => node.count

end

/-- What the choice and the numbers of further marks depend on. -/
structure Tally where
  /-- The elements that have passed the split filter. -/
  counted : Nat
  expressions : Nat
  styled : Nat

namespace Tally

/-- Nothing has been counted. -/
def zero : Tally := { counted := 0, expressions := 0, styled := 0 }

/-- Whether a site is marked, and the tally behind it. -/
def choose (setting : Setting) (tally : Tally) : Site → Bool × Tally
  | .element opening =>
      let (selected, counted) := Marking.select setting opening tally.counted
      (selected, { tally with
        counted
        expressions := tally.expressions + selected.toNat })
  | .template tag _ =>
      let instrumented := (Marking.styledTag? tag).isSome &&
        setting.options.mode != .split
      (instrumented, { tally with
        styled := tally.styled + instrumented.toNat })

/-- The number under which a site is entered into its list of the table. -/
def entry (tally : Tally) : Site → Nat
  | .element _ => tally.expressions
  | .template _ _ => tally.styled

/-- The tally behind some sites. -/
def behind (setting : Setting) (tally : Tally) (sites : List Site) : Tally :=
  sites.foldl (fun tally site => (tally.choose setting site).2) tally

/-- The sites that are marked, with their numbers. -/
def marks (setting : Setting) (tally : Tally) : List Site → List (Site × Nat)
  | [] => []
  | site :: sites =>
      let (chosen, next) := tally.choose setting site
      let later := marks setting next sites
      if chosen then (site, tally.entry site) :: later else later

theorem marks_append (setting : Setting) (tally : Tally)
    (first second : List Site) :
    marks setting tally (first ++ second) =
      marks setting tally first ++
        marks setting (tally.behind setting first) second := by
  induction first generalizing tally with
  | nil => rfl
  | cons site sites induction =>
      simp only [List.cons_append, marks, behind, List.foldl_cons,
        induction]
      split
      · rfl
      · rfl

theorem mem_of_mem_marks {setting : Setting} {tally : Tally}
    {sites : List Site} {site : Site} {entry : Nat}
    (member : (site, entry) ∈ tally.marks setting sites) : site ∈ sites := by
  induction sites generalizing tally with
  | nil => simp [marks] at member
  | cons first sites induction =>
      simp only [marks] at member
      split at member
      · rcases List.mem_cons.mp member with here | later
        · cases here
          exact List.mem_cons_self
        · exact List.mem_cons_of_mem first (induction later)
      · exact List.mem_cons_of_mem first (induction member)

theorem behind_append (setting : Setting) (tally : Tally)
    (first second : List Site) :
    tally.behind setting (first ++ second) =
      (tally.behind setting first).behind setting second := by
  simp [behind]

end Tally

/-- The insertion for a site that is entered under a number. -/
def Site.insertion (setting : Setting) (file : String) :
    Site × Nat → Insertion
  | (.element opening, entry) => {
      offset := Marking.markOffset opening
      text := Marking.markText setting.options.mode file
        (setting.span opening.extent).start entry }
  | (.template tag _, entry) => {
      offset := tag.extent.stop
      text := Marking.styledText file entry }

/-- The table has the span of a site under its number. -/
def Site.RecordedIn (setting : Setting) (table : FileTable) :
    Site × Nat → Prop
  | (.element opening, entry) =>
      (table.expressions[entry]?).map Expression.span =
        some (setting.span opening.extent)
  | (.template _ extent, entry) =>
      (table.styled[entry]?).map StyledDefinition.span =
        some (setting.span extent)

/-- Entries that follow change nothing about the ones that are there. -/
theorem Site.RecordedIn.mono {setting : Setting} {table later : FileTable}
    (expressions : table.expressions <+: later.expressions)
    (styled : table.styled <+: later.styled) {mark : Site × Nat}
    (recorded : Site.RecordedIn setting table mark) :
    Site.RecordedIn setting later mark := by
  obtain ⟨moreExpressions, expressionsEq⟩ := expressions
  obtain ⟨moreStyled, styledEq⟩ := styled
  obtain ⟨site, entry⟩ := mark
  cases site with
  | element opening =>
      simp only [Site.RecordedIn, Option.map_eq_some_iff] at recorded ⊢
      obtain ⟨expression, found, span⟩ := recorded
      have inside : entry < table.expressions.length :=
        (List.getElem?_eq_some_iff.mp found).1
      refine ⟨expression, ?_, span⟩
      rw [← expressionsEq, List.getElem?_append_left inside, found]
  | template tag extent =>
      simp only [Site.RecordedIn, Option.map_eq_some_iff] at recorded ⊢
      obtain ⟨definition, found, span⟩ := recorded
      have inside : entry < table.styled.length :=
        (List.getElem?_eq_some_iff.mp found).1
      refine ⟨definition, ?_, span⟩
      rw [← styledEq, List.getElem?_append_left inside, found]

namespace Marking

/-- What has been counted so far. -/
def tally (marking : Marking) : Tally where
  counted := marking.counted
  expressions := marking.table.expressions.length
  styled := marking.table.styled.length

/-- What happens to the insertions and the table on the way over some sites. -/
structure Passes (setting : Setting) (sites : List Site)
    (before after : Marking) : Prop where
  fullPath : after.table.fullPath = before.table.fullPath
  tally : after.tally = before.tally.behind setting sites
  insertions : after.insertions = before.insertions ++
    (before.tally.marks setting sites).map
      (Site.insertion setting before.table.fullPath)
  expressions : before.table.expressions <+: after.table.expressions
  styled : before.table.styled <+: after.table.styled
  recorded : ∀ mark ∈ before.tally.marks setting sites,
    Site.RecordedIn setting after.table mark

namespace Passes

/-- A change that bears neither on insertions nor on entries passes over no
site. -/
theorem of_same {setting : Setting} {before after : Marking}
    (fullPath : after.table.fullPath = before.table.fullPath)
    (insertions : after.insertions = before.insertions)
    (counted : after.counted = before.counted)
    (expressions : after.table.expressions = before.table.expressions)
    (styled : after.table.styled = before.table.styled) :
    Passes setting [] before after where
  fullPath := fullPath
  tally := by simp [Marking.tally, Tally.behind, counted, expressions, styled]
  insertions := by simp [Tally.marks, insertions]
  expressions := by simp [expressions]
  styled := by simp [styled]
  recorded := by simp [Tally.marks]

theorem trans {setting : Setting} {first second : List Site}
    {before between after : Marking}
    (left : Passes setting first before between)
    (right : Passes setting second between after) :
    Passes setting (first ++ second) before after where
  fullPath := right.fullPath.trans left.fullPath
  tally := by
    rw [right.tally, left.tally, Tally.behind_append]
  insertions := by
    rw [right.insertions, left.insertions, left.fullPath, left.tally,
      Tally.marks_append, List.map_append, List.append_assoc]
  expressions := left.expressions.trans right.expressions
  styled := left.styled.trans right.styled
  recorded := by
    intro mark member
    rw [Tally.marks_append, ← left.tally] at member
    rcases List.mem_append.mp member with early | late
    · exact Site.RecordedIn.mono right.expressions right.styled
        (left.recorded mark early)
    · exact right.recorded mark late

end Passes

theorem passes_markElement (setting : Setting) (opening : Opening)
    (marking : Marking) :
    Passes setting [.element opening] marking
      (markElement setting opening marking) := by
  unfold markElement
  cases chosen : select setting opening marking.counted with
  | mk selected counted =>
      cases selected with
      | false =>
          constructor
          · rfl
          · simp [Marking.tally, Tally.behind, Tally.choose, chosen]
          · simp [Tally.marks, Tally.choose, Marking.tally, chosen]
          · exact List.prefix_rfl
          · exact List.prefix_rfl
          · simp [Tally.marks, Tally.choose, Marking.tally, chosen]
      | true =>
          constructor
          · rfl
          · simp [Marking.tally, Tally.behind, Tally.choose, chosen, insert,
              FileTable.addExpression]
          · simp [Tally.marks, Tally.choose, Tally.entry, Marking.tally, chosen,
              insert, FileTable.addExpression, Site.insertion,
              FileTable.fullPath]
          · exact List.prefix_append _ _
          · exact List.prefix_rfl
          · simp [Tally.marks, Tally.choose, Tally.entry, Marking.tally, chosen,
              insert, FileTable.addExpression, Site.RecordedIn]

theorem passes_markTemplate (setting : Setting) (tag : Node) (extent : Extent)
    (marking : Marking) :
    Passes setting [.template tag extent] marking
      (markTemplate setting tag extent marking) := by
  unfold markTemplate
  cases styled : styledTag? tag with
  | none =>
      constructor
      · rfl
      · simp [Marking.tally, Tally.behind, Tally.choose, styled]
      · simp [Tally.marks, Tally.choose, Marking.tally, styled]
      · exact List.prefix_rfl
      · exact List.prefix_rfl
      · simp [Tally.marks, Tally.choose, Marking.tally, styled]
  | some property =>
      by_cases split : setting.options.mode = .split
      · simp only [split, if_true]
        constructor
        · rfl
        · simp [Marking.tally, Tally.behind, Tally.choose, split]
        · simp [Tally.marks, Tally.choose, Marking.tally, split]
        · exact List.prefix_rfl
        · exact List.prefix_rfl
        · simp [Tally.marks, Tally.choose, Marking.tally, split]
      · have whole : (setting.options.mode != .split) = true := by
          simpa using split
        simp only [split, if_false]
        constructor
        · rfl
        · simp [Marking.tally, Tally.behind, Tally.choose, styled, whole, insert,
            FileTable.addStyled]
        · simp [Tally.marks, Tally.choose, Tally.entry, Marking.tally, styled,
            whole, insert, FileTable.addStyled, Site.insertion,
            FileTable.fullPath]
        · exact List.prefix_rfl
        · exact List.prefix_append _ _
        · simp [Tally.marks, Tally.choose, Tally.entry, Marking.tally, styled,
            whole, insert, FileTable.addStyled, Site.RecordedIn]

theorem passes_enter (setting : Setting) (name : String) (extent : Extent)
    (marking : Marking) :
    Passes setting [] marking (enter setting name extent marking) :=
  .of_same rfl rfl rfl rfl rfl

theorem passes_leave (setting : Setting) (marking : Marking) :
    Passes setting [] marking (leave marking) :=
  .of_same rfl rfl rfl rfl rfl

theorem passes_setName (setting : Setting) (name : Option String)
    (marking : Marking) :
    Passes setting [] marking { marking with styledName := name } :=
  .of_same rfl rfl rfl rfl rfl

mutual

/-- A traversal passes over the sites of a construct in order. -/
theorem passes_visit (setting : Setting) (node : Node) (marking : Marking) :
    Passes setting node.sites marking (visit setting node marking) := by
  match node with
  | .name _ _ => exact .of_same rfl rfl rfl rfl rfl
  | .member object _ _ => exact passes_visit setting object marking
  | .function .declaration (some name) extent parts =>
      have inside := (passes_enter setting name extent marking).trans
        (passes_visitAll setting parts _)
      simpa [Node.sites, visit] using inside.trans (passes_leave setting _)
  | .function .declaration none _ parts =>
      exact passes_visitAll setting parts marking
  | .function .defaultExport _ _ parts =>
      exact passes_visitAll setting parts marking
  | .function .expression _ _ parts =>
      exact passes_visitAll setting parts marking
  | .arrow _ parts => exact passes_visitAll setting parts marking
  | .declarator binding extent target value =>
      have named := passes_setName setting (initializedName binding value)
        marking
      simp only [Node.sites, visit]
      cases component : componentName? binding value with
      | none =>
          have inside := (named.trans (passes_visitAll setting target _)).trans
            (passes_visitValue setting value _)
          simpa using inside.trans (passes_setName setting marking.styledName _)
      | some name =>
          have entered := named.trans (passes_enter setting name extent _)
          have inside :=
            (entered.trans (passes_visitAll setting target _)).trans
              (passes_visitValue setting value _)
          have left := inside.trans (passes_leave setting _)
          simpa using left.trans (passes_setName setting marking.styledName _)
  | .taggedTemplate tag extent parts =>
      have marked := (passes_markTemplate setting tag extent marking).trans
        (passes_visit setting tag _)
      exact marked.trans (passes_visitAll setting parts _)
  | .element opening parts =>
      exact (passes_markElement setting opening marking).trans
        (passes_visitAll setting parts _)
  | .group _ parts => exact passes_visitAll setting parts marking

/-- List counterpart of `passes_visit`. -/
theorem passes_visitAll (setting : Setting) (nodes : List Node)
    (marking : Marking) :
    Passes setting (Node.sitesAll nodes) marking
      (visitAll setting nodes marking) := by
  match nodes with
  | [] => exact .of_same rfl rfl rfl rfl rfl
  | node :: nodes =>
      exact (passes_visit setting node marking).trans
        (passes_visitAll setting nodes _)

/-- Counterpart of `passes_visit` for the value of a variable. -/
theorem passes_visitValue (setting : Setting) (value : Option Node)
    (marking : Marking) :
    Passes setting (Node.sitesOfValue value) marking
      (visitValue setting value marking) := by
  match value with
  | none => exact .of_same rfl rfl rfl rfl rfl
  | some node => exact passes_visit setting node marking

end

end Marking

end Script

end SourceMark
