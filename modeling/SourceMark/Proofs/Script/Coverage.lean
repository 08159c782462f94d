import SourceMark.Proofs.Evaluation
import SourceMark.Proofs.Script.Landing
import SourceMark.Proofs.Script.Traversals

/-!
# Which elements of a script are marked

The elements of a script come in the order of a traversal.  Of these, whole
locations and keys go to all that can carry a mark and have none.  Split marks
go to those that are admitted, up to the limit, and have none; elements that
have one count towards the limit as well.  Either way the numbers of the marked
elements are their positions among themselves.
-/

namespace SourceMark

namespace Script

section Choice

variable {α : Type}

/-- As many of some items as a limit allows, from the front. -/
def upTo (limit : Option Nat) (items : List α) : List α :=
  match limit with
  | some count => items.take count
  | none => items

/-- Whether a limit is reached by a count. -/
def isReached (limit : Option Nat) (count : Nat) : Bool :=
  limit.any (· ≤ count)

theorem upTo_concat (limit : Option Nat) (items : List α) (item : α) :
    upTo limit (items ++ [item]) = upTo limit items ++
      if isReached limit (upTo limit items).length then [] else [item] := by
  cases limit with
  | none => rfl
  | some count =>
      simp only [upTo, isReached, List.take_append, List.length_take,
        Option.any_some, decide_eq_true_eq]
      by_cases full : count ≤ items.length
      · have none_left : count - items.length = 0 := by omega
        have reached : count ≤ min count items.length := by omega
        rw [if_pos reached, none_left, List.take_zero]
      · have some_left : [item].length ≤ count - items.length := by
          rw [List.length_singleton]
          omega
        have below : ¬ count ≤ min count items.length := by omega
        rw [if_neg below, List.take_of_length_le some_left]

end Choice

/-- Whether an element is considered for a split mark. -/
def isConsidered (file : FileOptions) (options : Options)
    (opening : Opening) : Bool :=
  !file.ignores opening.name && options.filter.admits opening.name

/-- The elements that count towards the limit of split marks. -/
def admitted (file : FileOptions) (options : Options)
    (openings : List (Address × Opening)) : List (Address × Opening) :=
  upTo options.filter.limit
    (openings.filter fun item => isConsidered file options item.2)

/-- The elements that are marked, when all elements are given in order. -/
def chosen (file : FileOptions) (options : Options)
    (openings : List (Address × Opening)) : List (Address × Opening) :=
  match options.mode with
  | .path | .key => openings.filter fun item =>
      !file.ignores item.2.name && !isDisallowed item.2.name &&
        !hasAttribute item.2 [Marker.combined, Marker.expressionKey]
  | .split => (admitted file options openings).filter fun item =>
      !hasAttribute item.2 [Marker.splitFile]

/-- How many elements a traversal has counted behind these. -/
def countOf (file : FileOptions) (options : Options)
    (openings : List (Address × Opening)) : Nat :=
  match options.mode with
  | .path | .key => 0
  | .split => (admitted file options openings).length

theorem admitted_nil (file : FileOptions) (options : Options) :
    admitted file options [] = [] := by
  unfold admitted upTo
  cases options.filter.limit with
  | none => rfl
  | some count => exact List.take_nil

theorem chosen_nil (file : FileOptions) (options : Options) :
    chosen file options [] = [] := by
  unfold chosen
  rw [admitted_nil]
  cases options.mode with
  | path => rfl
  | key => rfl
  | split => rfl

theorem countOf_nil (file : FileOptions) (options : Options) :
    countOf file options [] = 0 := by
  unfold countOf
  rw [admitted_nil]
  cases options.mode with
  | path => rfl
  | key => rfl
  | split => rfl

/-- The marked elements are some of the given ones, in the same order. -/
theorem chosen_sublist (file : FileOptions) (options : Options)
    (openings : List (Address × Opening)) :
    (chosen file options openings).Sublist openings := by
  have admittedOnes : (admitted file options openings).Sublist openings := by
    unfold admitted upTo
    cases options.filter.limit with
    | none => exact List.filter_sublist
    | some count => exact (List.take_sublist _ _).trans List.filter_sublist
  unfold chosen
  cases options.mode with
  | path => exact List.filter_sublist
  | key => exact List.filter_sublist
  | split => exact List.filter_sublist.trans admittedOnes

theorem admitted_concat (file : FileOptions) (options : Options)
    (openings : List (Address × Opening)) (item : Address × Opening) :
    admitted file options (openings ++ [item]) =
      admitted file options openings ++
        if isConsidered file options item.2 &&
          !isReached options.filter.limit
            (admitted file options openings).length
        then [item] else [] := by
  unfold admitted
  rw [List.filter_append]
  cases considered : isConsidered file options item.2 with
  | false => simp [considered]
  | true =>
      rw [List.filter_cons_of_pos (by exact considered), List.filter_nil,
        upTo_concat]
      cases isReached options.filter.limit
          (upTo options.filter.limit (openings.filter fun item =>
            isConsidered file options item.2)).length with
      | true => rfl
      | false => rfl

namespace Marking

/-- An element that is considered is counted while the limit is not reached. -/
theorem counts_eq (setting : Setting) (opening : Opening) (counted : Nat) :
    setting.counts opening.name counted =
      (isConsidered setting.file setting.options opening &&
        !isReached setting.options.filter.limit counted) :=
  rfl

/-- One more element is chosen exactly when it is selected behind the others. -/
theorem chosen_concat (setting : Setting)
    (openings : List (Address × Opening)) (item : Address × Opening) :
    let selection := select setting item.2
      (countOf setting.file setting.options openings)
    chosen setting.file setting.options (openings ++ [item]) =
        chosen setting.file setting.options openings ++
          (if selection.1 then [item] else []) ∧
      countOf setting.file setting.options (openings ++ [item]) =
        selection.2 := by
  intro selection
  by_cases split : setting.options.mode = .split
  · have selected := select_of_split split item.2
      (countOf setting.file setting.options openings)
    rw [counts_eq] at selected
    simp only [selection, selected, chosen, countOf, split, admitted_concat,
      List.filter_append, List.length_append]
    split
    · simp only [List.filter_cons, List.filter_nil, List.length_singleton,
        and_self]
    · simp
  · have selected := select_of_whole split item.2
      (countOf setting.file setting.options openings)
    cases mode : setting.options.mode with
    | split => exact absurd mode split
    | path =>
        simp only [selection, selected, chosen, countOf, mode,
          List.filter_append, List.filter_cons, List.filter_nil,
          Site.isMarked, and_self]
    | key =>
        simp only [selection, selected, chosen, countOf, mode,
          List.filter_append, List.filter_cons, List.filter_nil,
          Site.isMarked, and_self]

/-! ## What a traversal has marked -/

/-- The marked elements among the constructs that were met. -/
def chosenIn (setting : Setting) (found : List (Address × Node)) :
    List (Address × Opening) :=
  chosen setting.file setting.options (Node.gather Node.opening? found)

/-- The marked templates among the constructs that were met. -/
def styledIn (setting : Setting) (found : List (Address × Node)) :
    List (Address × StyledTemplate) :=
  Node.gather (instrumented? setting) found

/-- The marks of elements, which are numbered in their order. -/
def elementMarks (setting : Setting) (items : List (Address × Opening)) :
    List (Address × Insertion) :=
  items.zipIdx.map fun numbered => (numbered.1.1,
    elementInsertion setting setting.file.filename numbered.1.2 numbered.2)

/-- The marks of templates, which are numbered in their order. -/
def styledMarks (setting : Setting)
    (items : List (Address × StyledTemplate)) : List (Address × Insertion) :=
  items.zipIdx.map fun numbered => (numbered.1.1,
    styledInsertion setting.file.filename numbered.1.2 numbered.2)

theorem elementMarks_concat (setting : Setting)
    (items : List (Address × Opening)) (address : Address)
    (more : Option Opening) :
    elementMarks setting (items ++ more.toList.map (address, ·)) =
      elementMarks setting items ++ more.toList.map fun opening =>
        (address, elementInsertion setting setting.file.filename opening
          items.length) := by
  cases more with
  | none => simp
  | some opening => simp [elementMarks, List.zipIdx_append]

theorem styledMarks_concat (setting : Setting)
    (items : List (Address × StyledTemplate)) (address : Address)
    (more : Option StyledTemplate) :
    styledMarks setting (items ++ more.toList.map (address, ·)) =
      styledMarks setting items ++ more.toList.map fun template =>
        (address, styledInsertion setting.file.filename template
          items.length) := by
  cases more with
  | none => simp
  | some template => simp [styledMarks, List.zipIdx_append]

/-- What the table and the insertions hold of the constructs met so far. -/
structure Covers (setting : Setting) (found : List (Address × Node))
    (marking : Marking) : Prop where
  fullPath : marking.table.fullPath = setting.file.filename
  counted : marking.counted = countOf setting.file setting.options
    (Node.gather Node.opening? found)
  expressions : marking.table.expressions.map
      (fun expression => (expression.name, expression.span)) =
    (chosenIn setting found).map fun item =>
      (item.2.name, setting.span item.2.extent)
  styled : marking.table.styled.map
      (fun definition => (definition.tag, definition.span)) =
    (styledIn setting found).map fun item =>
      (item.2.property, setting.span item.2.extent)
  /-- Every insertion belongs to one construct, and they come in the order of
  these. -/
  insertions : ∃ marks : List (Address × Insertion),
    marking.insertions = marks.map Prod.snd ∧
    (marks.map Prod.fst).Sublist (found.map Prod.fst) ∧
    marks.Perm (elementMarks setting (chosenIn setting found) ++
      styledMarks setting (styledIn setting found))

namespace Covers

variable {setting : Setting} {found : List (Address × Node)}
  {marking : Marking}

theorem length_chosenIn (covers : Covers setting found marking) :
    (chosenIn setting found).length = marking.table.expressions.length := by
  simpa using (congrArg List.length covers.expressions).symm

theorem length_styledIn (covers : Covers setting found marking) :
    (styledIn setting found).length = marking.table.styled.length := by
  simpa using (congrArg List.length covers.styled).symm

/-- A construct is chosen when it is selected with what was counted. -/
theorem chosenIn_concat (covers : Covers setting found marking)
    (address : Address) (node : Node) :
    chosenIn setting (found ++ [(address, node)]) =
        chosenIn setting found ++
          (selected? setting node marking.counted).toList.map (address, ·) ∧
      countOf setting.file setting.options
          (Node.gather Node.opening? (found ++ [(address, node)])) =
        node.opening?.elim marking.counted fun opening =>
          (select setting opening marking.counted).2 := by
  unfold chosenIn selected?
  rw [Node.gather_concat, covers.counted]
  cases node.opening? with
  | none => simp
  | some opening =>
      have chosen := chosen_concat setting (Node.gather Node.opening? found)
        (address, opening)
      rw [Option.toList_some, List.map_singleton, chosen.1, chosen.2,
        Option.filter_some]
      refine ⟨?_, rfl⟩
      split
      · rfl
      · rfl

/-- A construct is an element or a template or neither, but not both. -/
theorem selected?_or_instrumented? (setting : Setting) (node : Node)
    (counted : Nat) :
    selected? setting node counted = none ∨
      instrumented? setting node = none := by
  cases node with
  | element opening parts =>
      exact .inr (by simp [instrumented?, Node.styledTemplate?])
  | _ => exact .inl rfl

theorem step (covers : Covers setting found marking) {node : Node}
    {after : Marking} (opens : Opens setting node marking after)
    (address : Address) :
    Covers setting (found ++ [(address, node)]) after := by
  obtain ⟨choice, count⟩ := covers.chosenIn_concat address node
  have templates : styledIn setting (found ++ [(address, node)]) =
      styledIn setting found ++
        (instrumented? setting node).toList.map (address, ·) :=
    Node.gather_concat _ _ _ _
  constructor
  case fullPath =>
    rw [opens.fullPath, covers.fullPath]
  case counted =>
    rw [opens.counted, count]
  case expressions =>
    rw [opens.expressions, choice, List.map_append, List.map_append,
      covers.expressions]
    simp [expressionRecord, Function.comp_def]
  case styled =>
    rw [opens.styled, templates, List.map_append, List.map_append,
      covers.styled]
    simp [styledRecord, Function.comp_def]
  case insertions =>
    obtain ⟨marks, same, ordered, permuted⟩ := covers.insertions
    refine ⟨marks ++
      ((selected? setting node marking.counted).toList.map fun opening =>
        (address, elementInsertion setting setting.file.filename opening
          marking.table.expressions.length)) ++
      (instrumented? setting node).toList.map fun template =>
        (address, styledInsertion setting.file.filename template
          marking.table.styled.length), ?_, ?_, ?_⟩
    · rw [opens.insertions, covers.fullPath, same]
      simp [Function.comp_def]
    · rw [List.map_append, List.map_append, List.map_append, List.map_map,
        List.map_map, List.append_assoc]
      refine ordered.append ?_
      rcases selected?_or_instrumented? setting node marking.counted with
        none_selected | none_instrumented
      · rw [none_selected]
        cases instrumented? setting node with
        | none => exact List.nil_sublist _
        | some template => exact List.Sublist.refl _
      · rw [none_instrumented]
        cases selected? setting node marking.counted with
        | none => exact List.nil_sublist _
        | some opening => exact List.Sublist.refl _
    · rw [choice, templates, elementMarks_concat, styledMarks_concat,
        covers.length_chosenIn, covers.length_styledIn, List.append_assoc]
      apply (permuted.append_right _).trans
      rw [List.append_assoc, List.append_assoc]
      exact (List.perm_append_comm_assoc _ _ _).append_left _

theorem behind (covers : Covers setting found marking) {node : Node}
    {outer after : Marking} (closes : Closes node outer marking after) :
    Covers setting found after where
  fullPath := by rw [closes.table, covers.fullPath]
  counted := by rw [closes.counted, covers.counted]
  expressions := by rw [closes.table, covers.expressions]
  styled := by rw [closes.table, covers.styled]
  insertions := by
    rw [closes.insertions]
    exact covers.insertions

end Covers

theorem survives_covers (setting : Setting) (root : List Node) :
    Survives setting root fun found _ marking =>
      Covers setting found marking where
  opened _ covers := covers.step (opens setting _ _) _
  closed _ _ covers := covers.behind (closes _ _ _)

theorem covers_start (setting : Setting) (project : Option String) :
    Covers setting []
      (start (FileTable.forFile setting.file.filename project)) where
  fullPath := FileTable.fullPath_forFile setting.file.filename project
  counted := (countOf_nil setting.file setting.options).symm
  expressions :=
    (congrArg (List.map _) (chosen_nil setting.file setting.options)).symm
  styled := rfl
  insertions := by
    refine ⟨[], rfl, .refl _, ?_⟩
    have nothing : chosenIn setting [] = [] :=
      chosen_nil setting.file setting.options
    rw [nothing]
    exact .refl _

theorem covers_ofTree (source : List Char) (file : FileOptions)
    (options : Options) (nodes : List Node) :
    Covers (Setting.forText source file options) (Node.met nodes)
      (Marking.ofTree source file options nodes) :=
  (survives_covers _ nodes).of_start (covers_start _ options.project)

end Marking

/-! ## What a run marks -/

section Runs

variable {options : Options} {file : FileOptions} {nodes : List Node}

theorem annotateTree_eq_of_insertions (source : List Char) :
    annotateTree source file options nodes =
      let marking := Marking.ofTree source file options nodes
      if marking.insertions = [] then none
      else some (Insertion.applyAll source (marking.insertions ++
        registrations options source marking.table)) := by
  simp only [annotateTree_eq, insertions_eq_map_marks, List.map_eq_nil_iff]

/-- What a run over a script marks: `openings` are the opening tags of all its
elements, and `marks` what is put in, each with the address of its
construct. -/
structure MarksElements (options : Options) (text : String)
    (file : FileOptions) (nodes : List Node)
    (openings : List (Address × Opening))
    (marks : List (Address × Insertion)) (table : FileTable) : Prop where
  /-- Wherever an element stands, it is among these. -/
  everywhere : Node.Enumerates nodes Node.opening? openings
  /-- The entries of the table are the chosen elements in order. -/
  recorded : table.expressions.map
      (fun expression => (expression.name, expression.span)) =
    (chosen file options openings).map fun item =>
      (item.2.name, (Setting.forText text.toList file options).span
        item.2.extent)
  /-- Every construct is marked once at most, in the order of a traversal. -/
  once : (marks.map Prod.fst).Pairwise Address.Precedes
  /-- Marks are those of the chosen elements, with their positions among these
  for numbers, and those of styled templates. -/
  marked : marks.Perm
    (Marking.elementMarks (Setting.forText text.toList file options)
        (chosen file options openings) ++
      Marking.styledMarks (Setting.forText text.toList file options)
        (Marking.styledIn (Setting.forText text.toList file options)
          (Node.met nodes)))
  result : annotate options text file =
    .ok (if passesThrough file.filename options = true ∨ marks = [] then none
      else some (String.ofList (Insertion.applyAll text.toList
        (marks.map Prod.snd ++ registrations options text.toList table))))

/-- With whole locations and with keys, the marked elements of a script are all
those anywhere in it that have a name that is neither ignored nor disallowed and
no such mark yet.  With split marks they are those without a mark among as many
as the limit allows of the elements that the filters admit. -/
theorem marksElements_of_read {text : String} (named : file.filename ≠ "")
    (read : readScript file.filename text.toList = .ok nodes) :
    ∃ openings marks, MarksElements options text file nodes openings marks
      (Marking.ofTree text.toList file options nodes).table := by
  have covers := Marking.covers_ofTree text.toList file options nodes
  obtain ⟨marks, same, ordered, permuted⟩ := covers.insertions
  refine ⟨Node.gather Node.opening? (Node.met nodes), marks, ?_⟩
  constructor
  case everywhere =>
    exact Node.enumerates_gather_met nodes
  case recorded =>
    exact covers.expressions
  case once =>
    exact (Node.pairwise_met nodes).sublist ordered
  case marked =>
    exact permuted
  case result =>
    rw [annotate_of_tree named read, annotateTree_eq_of_insertions]
    simp only [same, List.map_eq_nil_iff]
    by_cases passes : passesThrough file.filename options = true
    · simp [passes]
    · by_cases unmarked : marks = []
      · simp [unmarked]
      · simp [passes, unmarked]

end Runs

/-- An element that is marked already counts towards the limit, wherever the
next ones stand: in an attribute, in a template literal or behind both. -/
theorem marksElements_of_read_limit :
    let options : Options := {
      mode := .split, environment := none, project := none
      current := "development"
      filter := { included := none, excluded := none, limit := some 3 } }
    let file : FileOptions := { filename := "/src/a.jsx", ignored := [] }
    let text := "class A \x7b m() \x7b return <><p data-source-file=\"b\" " ++
      "q=\x7b<b/>\x7d/>\x7b\x60$\x7b<i/>\x7d\x60\x7d<u/></> \x7d \x7d"
    ∃ nodes openings marks, file.filename ≠ "" ∧
      readScript file.filename text.toList = .ok nodes ∧
      MarksElements options text file nodes openings marks
        (Marking.ofTree text.toList file options nodes).table ∧
      (chosen file options openings).map (fun item => item.2.name) =
        ["b", "i"] := by
  intro options file text
  have evaluated : ((readScript file.filename text.toList).map fun nodes =>
      (Marking.ofTree text.toList file options nodes).table.expressions.map
        Expression.name).toOption = some ["b", "i"] := by
    decide +kernel
  obtain ⟨nodes, read, names⟩ := exists_ok_of_toOption_map evaluated
  have named : file.filename ≠ "" := by decide
  obtain ⟨openings, marks, marksElements⟩ : ∃ openings marks,
      MarksElements options text file nodes openings marks
        (Marking.ofTree text.toList file options nodes).table :=
    marksElements_of_read named read
  have recorded := congrArg (List.map Prod.fst) marksElements.recorded
  rw [List.map_map, List.map_map] at recorded
  exact ⟨nodes, openings, marks, named, read, marksElements,
    recorded.symm.trans names⟩

end Script

end SourceMark
