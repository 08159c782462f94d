import SourceMark.Proofs.Hook.Shortcut

/-!
# Kinds of files that are switched off

A hook can be told to leave component files or plain templates alone.  With
component files switched off, all of them stay as they are.  A plain template
that is switched off falls through to the annotator of scripts instead, so it
stays as it is only when nothing in it is marked as a script; short markup such
as a single element is a script as well.
-/

namespace SourceMark

namespace Hook

/-- The name of a plain template is not that of a component file. -/
theorem not_endsWith_vue_of_template {filename : String}
    (ending : Text.endsWith filename ".component.html" = true) :
    Text.endsWith filename ".vue" = false := by
  rw [Bool.eq_false_iff]
  intro other
  obtain ⟨before, first⟩ := List.isSuffixOf_iff_suffix.mp ending
  obtain ⟨start, second⟩ := List.isSuffixOf_iff_suffix.mp other
  have last := congrArg List.getLast? (first.trans second.symm)
  simp at last

theorem named_of_template {filename : String}
    (ending : Text.endsWith filename ".component.html" = true) :
    filename ≠ "" := by
  rintro rfl
  exact absurd ending (by decide)

/-- A file with both brackets, not to be left alone as a whole, is marked as a
script. -/
structure MarksAsScript (hook : Hook) (source filename : String) : Prop where
  enabled : hook.isEnabled = true
  wanted : hook.wants filename = true
  brackets : Text.HasBrackets source.toList
  marks : Script.MarksScript hook.script source
    { filename, ignored := hook.ignored }

section SwitchedOff

variable {hook : Hook} {source filename : String}

/-- A gate in front of the dispatch leaves the file alone. -/
theorem annotate_of_gated
    (gated : ¬ (hook.isEnabled = true ∧ hook.wants filename = true ∧
      Text.HasBrackets source.toList)) :
    hook.annotate source filename = .ok none := by
  rw [Text.hasBrackets_iff] at gated
  unfold annotate
  split
  · rfl
  · next passed =>
      obtain ⟨enabled, wanted⟩ : hook.isEnabled = true ∧
          hook.wants filename = true := by simpa using passed
      split
      · rfl
      · next bracketed =>
          exact absurd ⟨enabled, wanted, by simpa using bracketed⟩ gated

theorem annotate_of_vue_off (off : hook.vue = false)
    (ending : Text.endsWith filename ".vue" = true) :
    hook.annotate source filename = .ok none := by
  by_cases gates : hook.isEnabled = true ∧ hook.wants filename = true ∧
      Text.HasBrackets source.toList
  · obtain ⟨enabled, wanted, brackets⟩ := gates
    rw [annotate_of_bracketed enabled wanted brackets]
    simp [dispatch, ending, off]
  · exact annotate_of_gated gates

theorem takesForScript_of_angular_off (off : hook.angular = false)
    (ending : Text.endsWith filename ".component.html" = true) :
    hook.takesForScript source filename = true := by
  simp [takesForScript, off, not_endsWith_vue_of_template ending]

theorem annotate_of_angular_off_iff (off : hook.angular = false)
    (ending : Text.endsWith filename ".component.html" = true) :
    hook.annotate source filename = .ok none ↔
      ¬ hook.MarksAsScript source filename := by
  by_cases gates : hook.isEnabled = true ∧ hook.wants filename = true ∧
      Text.HasBrackets source.toList
  · obtain ⟨enabled, wanted, brackets⟩ := gates
    rw [annotate_of_bracketed enabled wanted brackets,
      dispatch_of_script (takesForScript_of_angular_off off ending),
      Script.recover_annotate_eq_none_iff (named_of_template ending),
      not_iff_not]
    exact ⟨fun marks => ⟨enabled, wanted, brackets, marks⟩,
      MarksAsScript.marks⟩
  · constructor
    · intro _ marks
      exact gates ⟨marks.enabled, marks.wanted, marks.brackets⟩
    · intro _
      exact annotate_of_gated gates

end SwitchedOff

/-- Component files that are switched off are left alone.  A plain template that
is switched off is left alone exactly when it is not marked as a script. -/
theorem leavesAlone_of_switchedOff (hook : Hook) (source filename : String) :
    (hook.vue = false → Text.endsWith filename ".vue" = true →
      hook.annotate source filename = .ok none) ∧
    (hook.angular = false →
      Text.endsWith filename ".component.html" = true →
        (hook.annotate source filename = .ok none ↔
          ¬ hook.MarksAsScript source filename)) :=
  ⟨annotate_of_vue_off, annotate_of_angular_off_iff⟩

/-- A template with a structural directive is no script and stays as it is. -/
theorem leavesAlone_of_switchedOff_directive :
    let configuration : Configuration :=
      { Configuration.standard with vue := false, angular := false }
    let source := "<p *ngIf=\"open\">text</p>"
    let component := "/src/App.vue"
    let template := "/src/app.component.html"
    ∃ hook, ofConfiguration configuration "development" = .ok hook ∧
      hook.vue = false ∧ hook.angular = false ∧
      Text.endsWith component ".vue" = true ∧
      Text.endsWith template ".component.html" = true ∧
      hook.isEnabled = true ∧ hook.wants template = true ∧
      hook.annotate source component = .ok none ∧
      hook.annotate source template = .ok none := by
  intro configuration source component template
  obtain ⟨hook, built, gates⟩ : ∃ hook,
      ofConfiguration configuration "development" = .ok hook ∧
        (hook.vue, hook.angular, hook.isEnabled, hook.wants template) =
          (false, false, true, true) :=
    exists_ok_of_toOption_map (by decide +kernel)
  simp only [Prod.mk.injEq] at gates
  obtain ⟨vue, angular, enabled, wanted⟩ := gates
  have isComponent : Text.endsWith component ".vue" = true := by decide
  have isTemplate : Text.endsWith template ".component.html" = true := by decide
  have unread : Script.readScript template source.toList =
      .error (.script template "unexpected token at 8") :=
    eq_error_of_failure? (by decide +kernel)
  refine ⟨hook, built, vue, angular, isComponent, isTemplate, enabled, wanted,
    (leavesAlone_of_switchedOff hook source component).1 vue isComponent,
    ((leavesAlone_of_switchedOff hook source template).2 angular
      isTemplate).mpr ?_⟩
  rintro ⟨_, _, _, _, aborted | ⟨nodes, read, _⟩⟩
  · simp [unread] at aborted
  · simp [unread] at read

/-- A template of one element is marked although templates are switched off. -/
theorem not_leavesAlone_of_switchedOff :
    ¬ ∀ configuration current hook,
      ofConfiguration configuration current = .ok hook →
        configuration.angular = false → ∀ source filename,
          Text.endsWith filename ".component.html" = true →
            hook.annotate source filename = .ok none := by
  intro leaves
  let configuration : Configuration :=
    { Configuration.standard with angular := false }
  let source := "<div></div>"
  let filename := "/src/app.component.html"
  obtain ⟨hook, built, marked⟩ : ∃ hook,
      ofConfiguration configuration "development" = .ok hook ∧
        (hook.annotate source filename).toOption.join.isSome = true :=
    exists_ok_of_toOption_map (by decide +kernel)
  have same := leaves _ _ hook built rfl source filename (by decide)
  rw [same] at marked
  exact absurd marked (by decide)

end Hook

end SourceMark
