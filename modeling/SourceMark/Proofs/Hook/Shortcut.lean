import SourceMark.Hook
import SourceMark.Proofs.Markup.Components
import SourceMark.Proofs.Script.Landing
import SourceMark.Proofs.Template.SlicedFiles

/-!
# The shortcut of a hook

A hook leaves a file alone that lacks one of the angle brackets, before it asks
how the file would be marked.  Every tag and every element has both brackets,
so for templates and for elements the shortcut changes nothing.  A styled
template needs neither bracket: a script that has some, and lacks a bracket, is
marked without the shortcut and left alone with it.
-/

namespace SourceMark

/-- Both angle brackets occur in a text. -/
def Text.HasBrackets (text : List Char) : Prop :=
  '<' ∈ text ∧ '>' ∈ text

theorem Text.HasBrackets.mono {text part : List Char}
    (brackets : Text.HasBrackets part) (within : part ⊆ text) :
    Text.HasBrackets text :=
  ⟨within brackets.1, within brackets.2⟩

theorem Text.contains_singleton_iff {text : String} {character : Char} :
    Text.contains text (String.singleton character) = true ↔
      character ∈ text.toList := by
  rw [Text.contains, Text.occursIn_iff_isInfix, String.toList_singleton,
    List.mem_iff_append]
  constructor
  · rintro ⟨before, after, whole⟩
    exact ⟨before, after, by simp [← whole]⟩
  · rintro ⟨before, after, whole⟩
    exact ⟨before, after, by simp [whole]⟩

theorem Text.hasBrackets_iff {text : String} :
    Text.HasBrackets text.toList ↔
      Text.contains text "<" = true ∧ Text.contains text ">" = true :=
  and_congr Text.contains_singleton_iff.symm Text.contains_singleton_iff.symm

/-! ## Files with blocks -/

namespace Template

/-- A block stands behind its opening tag. -/
theorem hasBrackets_of_block {hasTemplate : Bool} {offset : Nat}
    {text : List Char} {blocks : List Block} {block : Block}
    (read : blocksFrom hasTemplate offset text = .ok blocks)
    (member : block ∈ blocks) : Text.HasBrackets text := by
  fun_induction blocksFrom hasTemplate offset text generalizing blocks with
  | case1 =>
      obtain rfl := by simpa using read
      simp at member
  | case2 hasTemplate offset character rest other induction =>
      exact (induction read member).mono (List.subset_cons_self _ _)
  | case3 hasTemplate offset character rest bracket opens behind comment
      induction =>
      obtain ⟨taken, passed⟩ := leads_behindComment? comment
      have whole : character :: rest = taken ++ behind.rest := passed.rest
      apply (induction read member).mono
      rw [whole]
      exact List.subset_append_right _ _
  | case4 => simp at read
  | case5 => simp at read
  | case6 hasTemplate offset character rest bracket other none induction =>
      exact (induction read member).mono (List.subset_cons_self _ _)
  | case7 => simp at read
  | case8 => simp at read
  | case9 hasTemplate offset character rest bracket other tag behind opening =>
      obtain rfl : character = '<' := by simpa using bracket
      obtain ⟨inside, closes, _, _, _, passed, _⟩ := readOpenTag_local opening
      have whole : '<' :: rest =
          '<' :: (tag.name.toList ++ inside) ++ behind.rest := passed.rest
      rw [whole]
      have bracket := List.mem_of_getLast? closes
      exact ⟨by simp, by simp [bracket]⟩
  | case10 => simp at read

variable {source : String} {options : FileOptions}

theorem annotate_of_unbracketed (named : options.filename ≠ "")
    (lacks : ¬ Text.HasBrackets source.toList) :
    annotate source options = .ok none := by
  have required := FileOptions.requireFilename_of_named named
  cases read : blocksFrom false 0 source.toList with
  | error fault =>
      have failed : annotateFile source.toList options = .error fault := by
        simp [annotateFile, splitBlocks, read, bind, Except.bind]
      simp [annotate, required, failed, isFinal_of_blocksFrom read, bind,
        Except.bind, pure, Except.pure]
  | ok blocks =>
      obtain rfl : blocks = [] := by
        apply List.eq_nil_iff_forall_not_mem.mpr
        intro block member
        exact lacks (hasBrackets_of_block read member)
      have passed : annotateFile source.toList options = .ok none := by
        simp [annotateFile, splitBlocks, read, Blocks.ofList, bind, Except.bind,
          pure, Except.pure]
      simp [annotate, required, passed, bind, Except.bind, pure, Except.pure]

end Template

/-! ## Files with plain markup -/

namespace Markup

variable {index : LineIndex} {options : FileOptions} {start : Nat}
  {region : List Char}

theorem markedTags_of_unbracketed (lacks : ¬ Text.HasBrackets region) :
    markedTags index options start region = [] := by
  rw [markedTags, List.map_eq_nil_iff, List.eq_nil_iff_forall_not_mem]
  intro tag member
  obtain ⟨before, after, whole, _, _⟩ :=
    OpeningTag.mem_scan (List.mem_filter.mp member).1
  apply lacks
  rw [whole]
  constructor
  · simp [OpeningTag.text]
  · simp [OpeningTag.text]

variable {source : String}

theorem annotateTemplate_of_unbracketed (named : options.filename ≠ "")
    (lacks : ¬ Text.HasBrackets source.toList) :
    annotateTemplate source options = .ok none := by
  have required := FileOptions.requireFilename_of_named named
  have nothing : templateInsertions source.toList options = [] := by
    rw [templateInsertions, markedTags_of_unbracketed lacks, List.map_nil]
  simp [annotateTemplate, required, nothing, insertAll, bind, Except.bind, pure,
    Except.pure]

theorem annotateComponent_of_unbracketed (named : options.filename ≠ "")
    (lacks : ¬ Text.HasBrackets source.toList) :
    annotateComponent source options = .ok none := by
  have required := FileOptions.requireFilename_of_named named
  have nothing : componentInsertions source.toList options = [] := by
    rw [componentInsertions, List.flatMap_eq_nil_iff]
    intro literal found
    obtain ⟨_, _, _, before, after, whole, _⟩ := Literal.mem_scan found
    have inside : ¬ Text.HasBrackets literal.body := by
      intro brackets
      apply lacks
      rw [whole]
      exact brackets.mono (List.subset_append_of_subset_right before
        (List.subset_append_left literal.body after))
    rw [literalInsertions, markedTags_of_unbracketed inside, List.map_nil]
  simp [annotateComponent, required, nothing, insertAll, bind, Except.bind,
    pure, Except.pure]

end Markup

/-! ## Scripts -/

namespace Script

/-- Whether a site is a styled template. -/
def Site.isStyled : Site → Bool
  | .element _ => false
  | .template tag _ => (Marking.styledTag? tag).isSome

/-- Where no element stands, styled templates are all that can be marked. -/
theorem Tally.marks_eq_nil_iff {setting : Setting} {sites : List Site}
    (bare : ∀ opening, .element opening ∉ sites) (tally : Tally) :
    tally.marks setting sites = [] ↔
      setting.options.mode = .split ∨ sites.any Site.isStyled = false := by
  induction sites generalizing tally with
  | nil => simp [marks]
  | cons site sites induction =>
      cases site with
      | element opening => exact absurd List.mem_cons_self (bare opening)
      | template tag extent =>
          have later := induction fun opening member =>
            bare opening (List.mem_cons_of_mem _ member)
          cases styled : (Marking.styledTag? tag).isSome with
          | false => simp [marks, choose, Site.isStyled, styled, later]
          | true =>
              by_cases split : setting.options.mode = .split
              · simp [marks, choose, styled, split, later]
              · simp [marks, choose, Site.isStyled, styled, split]

/-- An element of a script has both brackets; a byte order mark in front of
the script changes nothing about that. -/
theorem hasBrackets_of_element {filename : String} {source : List Char}
    {nodes : List Node} (read : readScript filename source = .ok nodes)
    {opening : Opening} (member : .element opening ∈ Node.sitesAll nodes) :
    Text.HasBrackets source := by
  have brackets : Text.HasBrackets (behindOrderMark source) :=
    brackets_of_element (readModule_of_readScript read) member
  rw [← orderMark_append source]
  exact brackets.mono (List.subset_append_right _ _)

/-- Only a reading that stops for good fails fatally. -/
theorem isFatal_of_readScript {filename : String} {source : List Char}
    {failure : Failure} (failed : readScript filename source = .error failure) :
    failure.isFatal = true ↔ failure = .aborted := by
  unfold readScript at failed
  extract_lets text at failed
  split at failed
  · simp at failed
  · obtain rfl := by simpa using failed
    exact ⟨fun _ => rfl, fun _ => rfl⟩
  · obtain rfl := by simpa using failed
    simp [Failure.isFatal]

section Runs

variable {options : Options} {source : String} {file : FileOptions}

theorem annotateTree_eq_none_iff {source : List Char} {nodes : List Node} :
    annotateTree source file options nodes = none ↔
      Tally.zero.marks (Setting.forText source file options)
        (Node.sitesAll nodes) = [] := by
  simp [annotateTree_eq]

theorem annotate_of_passed (named : file.filename ≠ "")
    (passes : passesThrough file.filename options = true) :
    annotate options source file = .ok none := by
  have required := FileOptions.requireFilename_of_named named
  simp [annotate, required, passes, bind, Except.bind, pure, Except.pure]

theorem recover_annotate_of_unread (named : file.filename ≠ "")
    (runs : passesThrough file.filename options = false) {failure : Failure}
    (failed : readScript file.filename source.toList = .error failure) :
    recover (annotate options source file) = .ok none ↔
      failure ≠ .aborted := by
  have required := FileOptions.requireFilename_of_named named
  have same : annotate options source file = .error failure := by
    simp [annotate, required, runs, failed, bind, Except.bind]
  rw [same, ne_eq, ← isFatal_of_readScript failed]
  simp [recover]

theorem recover_annotate_of_read (named : file.filename ≠ "")
    (runs : passesThrough file.filename options = false) {nodes : List Node}
    (read : readScript file.filename source.toList = .ok nodes) :
    recover (annotate options source file) = .ok none ↔
      annotateTree source.toList file options nodes = none := by
  simp [annotate_eq_annotateTree named runs read, recover]

/-- What is done about a script that is not left alone: reading it stops for
good, or something in it is marked. -/
structure MarksScript (options : Options) (source : String)
    (file : FileOptions) : Prop where
  runs : passesThrough file.filename options = false
  cause : readScript file.filename source.toList = .error .aborted ∨
    ∃ nodes, readScript file.filename source.toList = .ok nodes ∧
      Tally.zero.marks (Setting.forText source.toList file options)
        (Node.sitesAll nodes) ≠ []

theorem recover_annotate_eq_none_iff (named : file.filename ≠ "") :
    recover (annotate options source file) = .ok none ↔
      ¬ MarksScript options source file := by
  cases runs : passesThrough file.filename options with
  | true =>
      rw [annotate_of_passed named runs]
      constructor
      · intro _ marks
        simp [marks.runs] at runs
      · intro _
        rfl
  | false =>
      cases read : readScript file.filename source.toList with
      | error failure =>
          rw [recover_annotate_of_unread named runs read]
          constructor
          · rintro recovered ⟨_, aborted | ⟨found, same, _⟩⟩
            · exact recovered (by simpa [read] using aborted)
            · simp [read] at same
          · rintro unmarked rfl
            exact unmarked ⟨runs, .inl read⟩
      | ok nodes =>
          rw [recover_annotate_of_read named runs read,
            annotateTree_eq_none_iff]
          constructor
          · rintro unmarked ⟨_, aborted | ⟨found, same, marked⟩⟩
            · simp [read] at aborted
            · obtain rfl : nodes = found := by simpa [read] using same
              exact marked unmarked
          · intro unmarked
            by_contra marked
            exact unmarked ⟨runs, .inr ⟨nodes, read, marked⟩⟩

/-- What is done about a script for which no angle bracket is needed: reading
it stops for good, or it has a styled template. -/
structure MarksUnbracketed (options : Options) (source : String)
    (filename : String) : Prop where
  runs : passesThrough filename options = false
  cause : readScript filename source.toList = .error .aborted ∨
    ∃ nodes, readScript filename source.toList = .ok nodes ∧
      options.mode ≠ .split ∧
      (Node.sitesAll nodes).any Site.isStyled = true

theorem recover_annotate_iff (named : file.filename ≠ "")
    (lacks : ¬ Text.HasBrackets source.toList) :
    recover (annotate options source file) = .ok none ↔
      ¬ MarksUnbracketed options source file.filename := by
  have marks {nodes : List Node}
      (read : readScript file.filename source.toList = .ok nodes) :
      Tally.zero.marks (Setting.forText source.toList file options)
          (Node.sitesAll nodes) ≠ [] ↔
        options.mode ≠ .split ∧
          (Node.sitesAll nodes).any Site.isStyled = true := by
    have bare : ∀ opening, .element opening ∉ Node.sitesAll nodes :=
      fun opening member => lacks (hasBrackets_of_element read member)
    rw [ne_eq, Tally.marks_eq_nil_iff bare, not_or, Bool.not_eq_false]
    rfl
  rw [recover_annotate_eq_none_iff named, not_iff_not]
  constructor
  · rintro ⟨runs, aborted | ⟨nodes, read, marked⟩⟩
    · exact ⟨runs, .inl aborted⟩
    · exact ⟨runs, .inr ⟨nodes, read, (marks read).mp marked⟩⟩
  · rintro ⟨runs, aborted | ⟨nodes, read, styled⟩⟩
    · exact ⟨runs, .inl aborted⟩
    · exact ⟨runs, .inr ⟨nodes, read, (marks read).mpr styled⟩⟩

end Runs

end Script

/-! ## The hook -/

namespace Hook

/-- Whether the hook takes a file for a script. -/
def takesForScript (hook : Hook) (source filename : String) : Bool :=
  !Text.endsWith filename ".vue" &&
    !(hook.angular && Text.endsWith filename ".component.html") &&
    !(hook.angular && Text.endsWith filename ".component.ts" &&
      Text.contains source Markup.componentMarker)

/-- The shortcut makes a difference for a file: it lacks a bracket, is taken
for a script, and would not be left alone as one. -/
structure LosesMarks (hook : Hook) (source filename : String) : Prop where
  lacks : ¬ Text.HasBrackets source.toList
  isScript : hook.takesForScript source filename = true
  marks : Script.MarksUnbracketed hook.script source filename

section Shortcut

variable {hook : Hook} {source filename : String}

theorem annotate_of_bracketed (enabled : hook.isEnabled = true)
    (wanted : hook.wants filename = true)
    (brackets : Text.HasBrackets source.toList) :
    hook.annotate source filename = hook.dispatch source filename := by
  obtain ⟨opens, closes⟩ := Text.hasBrackets_iff.mp brackets
  simp [annotate, enabled, wanted, opens, closes]

theorem annotate_of_unbracketed (enabled : hook.isEnabled = true)
    (wanted : hook.wants filename = true)
    (lacks : ¬ Text.HasBrackets source.toList) :
    hook.annotate source filename = .ok none := by
  have missing : (!Text.contains source "<" || !Text.contains source ">") =
      true := by
    rw [Text.hasBrackets_iff, not_and_or] at lacks
    simpa using lacks
  simp [annotate, enabled, wanted, missing]

theorem dispatch_of_markup (named : filename ≠ "")
    (lacks : ¬ Text.HasBrackets source.toList)
    (other : hook.takesForScript source filename = false) :
    hook.dispatch source filename = .ok none := by
  unfold dispatch
  extract_lets file
  have given : file.filename ≠ "" := named
  rw [Template.annotate_of_unbracketed given lacks,
    Markup.annotateTemplate_of_unbracketed given lacks,
    Markup.annotateComponent_of_unbracketed given lacks]
  split
  · split
    · rfl
    · rfl
  · next blocks =>
      split
      · rfl
      · next template =>
          split
          · rfl
          · next component =>
              simp [takesForScript, blocks, template, component] at other

theorem dispatch_of_script
    (isScript : hook.takesForScript source filename = true) :
    hook.dispatch source filename = recover (Script.annotate hook.script source
      { filename, ignored := hook.ignored }) := by
  simp only [takesForScript, Bool.and_eq_true, Bool.not_eq_true'] at isScript
  obtain ⟨⟨blocks, template⟩, component⟩ := isScript
  simp only [dispatch, blocks, template, component]
  rfl

/-- The shortcut gives what the annotator of the file gives, except for a script
without brackets that has a styled template, or the reading of which stops for
good. -/
theorem annotate_eq_dispatch_iff (named : filename ≠ "")
    (enabled : hook.isEnabled = true) (wanted : hook.wants filename = true) :
    hook.annotate source filename = hook.dispatch source filename ↔
      ¬ hook.LosesMarks source filename := by
  by_cases brackets : Text.HasBrackets source.toList
  · constructor
    · intro _ loses
      exact loses.lacks brackets
    · intro _
      exact annotate_of_bracketed enabled wanted brackets
  · rw [annotate_of_unbracketed enabled wanted brackets, eq_comm]
    cases isScript : hook.takesForScript source filename with
    | false =>
        constructor
        · intro _ loses
          simp [loses.isScript] at isScript
        · intro _
          exact dispatch_of_markup named brackets isScript
    | true =>
        rw [dispatch_of_script isScript,
          Script.recover_annotate_iff named brackets]
        constructor
        · intro unmarked loses
          exact unmarked loses.marks
        · intro keeps marks
          exact keeps ⟨brackets, isScript, marks⟩

end Shortcut

/-- A script without brackets, elements and styled templates. -/
theorem annotate_eq_dispatch_iff_constant :
    let source := "export const x = 1;\n"
    let filename := "/src/x.ts"
    ∃ hook, ofConfiguration .standard "development" = .ok hook ∧
      filename ≠ "" ∧ hook.isEnabled = true ∧ hook.wants filename = true ∧
      ¬ Text.HasBrackets source.toList ∧
      hook.annotate source filename = hook.dispatch source filename := by
  intro source filename
  obtain ⟨hook, built, gates⟩ : ∃ hook,
      ofConfiguration .standard "development" = .ok hook ∧
        (hook.isEnabled, hook.wants filename) = (true, true) :=
    exists_ok_of_toOption_map (by decide +kernel)
  obtain ⟨nodes, read, plain⟩ : ∃ nodes,
      Script.readScript filename source.toList = .ok nodes ∧
        (Script.Node.sitesAll nodes).any Script.Site.isStyled = false :=
    exists_ok_of_toOption_map (by decide +kernel)
  obtain ⟨enabled, wanted⟩ := Prod.mk.inj gates
  have named : filename ≠ "" := by decide
  have lacks : ¬ Text.HasBrackets source.toList := by
    rintro ⟨opens, _⟩
    exact absurd opens (by decide)
  refine ⟨hook, built, named, enabled, wanted, lacks, ?_⟩
  apply (annotate_eq_dispatch_iff named enabled wanted).mpr
  rintro ⟨_, _, _, aborted | ⟨found, same, _, styled⟩⟩
  · simp [read] at aborted
  · obtain rfl : nodes = found := by simpa [read] using same
    simp [plain] at styled

/-- A file of styled templates is marked by its annotator, and not through the
hook of the standard configuration. -/
theorem not_annotate_eq_dispatch :
    ¬ ∀ configuration current hook,
      ofConfiguration configuration current = .ok hook →
        ∀ source filename, filename ≠ "" → hook.isEnabled = true →
          hook.wants filename = true →
            hook.annotate source filename = hook.dispatch source filename := by
  intro agrees
  let source := "const Box = styled.div\x60color: red\x60;\n"
  let filename := "/src/styles.ts"
  obtain ⟨hook, built, answers⟩ : ∃ hook,
      ofConfiguration .standard "development" = .ok hook ∧
        (hook.isEnabled, hook.wants filename,
          (hook.annotate source filename).toOption.join.isSome,
          (hook.dispatch source filename).toOption.join.isSome) =
            (true, true, false, true) :=
    exists_ok_of_toOption_map (by decide +kernel)
  simp only [Prod.mk.injEq] at answers
  obtain ⟨enabled, wanted, left, marked⟩ := answers
  have same := agrees _ _ hook built source filename (by decide) enabled wanted
  rw [same, marked] at left
  exact absurd left (by decide)

end Hook

end SourceMark
