import SourceMark.Proofs.Hook.Switches

/-!
# Failures that leave a hook

Every annotator asks for the name of its file before anything else, and fails
fatally for no other reason as long as it comes to an end.  All other failures
are recovered from, whatever the file contains.  So a failure that leaves a hook
says that the hook was asked about a file without a name, and nothing else.
-/

namespace SourceMark

theorem Failure.isFatal_iff {failure : Failure} :
    failure.isFatal = true ↔
      failure = .missingFilename ∨ failure = .aborted := by
  cases failure with
  | missingFilename => simp [isFatal]
  | script file message => simp [isFatal]
  | template file message => simp [isFatal]
  | configuration message => simp [isFatal]
  | aborted => simp [isFatal]

/-- What is not failed fatally is answered, with a text just where the
annotation gives it. -/
theorem recover_eq_ok {answer : Annotation}
    (named : answer ≠ .error .missingFilename)
    (finishes : answer ≠ .error .aborted) :
    ∃ outcome, recover answer = .ok outcome ∧
      ∀ code, outcome = some code ↔ answer = .ok (some code) := by
  cases answer with
  | ok outcome => exact ⟨outcome, rfl, fun code => by simp⟩
  | error failure =>
      have minor : failure.isFatal = false := by
        rw [Bool.eq_false_iff, ne_eq, Failure.isFatal_iff, not_or]
        exact ⟨fun same => named (same ▸ rfl),
          fun same => finishes (same ▸ rfl)⟩
      exact ⟨none, by simp [recover, minor], fun code => by simp⟩

/-! ## Annotators -/

/-- An annotator misses the name of a file just where there is none. -/
def MissesName (annotate : String → FileOptions → Annotation) : Prop :=
  ∀ source file, annotate source file = .error .missingFilename ↔
    file.filename = ""

/-- What asks for the name first and does not miss it later on misses it just
where there is none. -/
theorem FileOptions.missing_iff {file : FileOptions}
    {run : String → Annotation}
    (later : ∀ name, run name ≠ .error .missingFilename) :
    (file.requireFilename >>= run) = .error .missingFilename ↔
      file.filename = "" := by
  by_cases unnamed : file.filename = ""
  · have missing : file.requireFilename = .error .missingFilename := by
      simp [requireFilename, unnamed]
    simp [missing, unnamed, bind, Except.bind]
  · rw [requireFilename_of_named unnamed]
    exact iff_of_false (later file.filename) unnamed

theorem Template.missesName_annotate : MissesName annotate := by
  intro source file
  unfold annotate
  apply FileOptions.missing_iff
  intro name
  split
  · simp [pure, Except.pure]
  · split
    · simp [throw, throwThe, MonadExceptOf.throw]
    · simp [pure, Except.pure]

theorem Markup.missesName_annotateTemplate : MissesName annotateTemplate := by
  intro source file
  unfold annotateTemplate
  apply FileOptions.missing_iff
  simp [pure, Except.pure]

theorem Markup.missesName_annotateComponent :
    MissesName annotateComponent := by
  intro source file
  unfold annotateComponent
  apply FileOptions.missing_iff
  simp [pure, Except.pure]

theorem Script.failure_of_readScript {filename : String}
    {source : List Char} {failure : Failure}
    (failed : readScript filename source = .error failure) :
    failure ≠ .missingFilename := by
  unfold readScript at failed
  extract_lets text at failed
  split at failed
  · simp at failed
  · obtain rfl := by simpa using failed
    simp
  · obtain rfl := by simpa using failed
    simp

theorem Script.missesName_annotate (options : Options) :
    MissesName (annotate options) := by
  intro source file
  unfold annotate
  apply FileOptions.missing_iff
  intro name
  split
  · simp [pure, Except.pure]
  · cases read : readScript name source.toList with
    | ok nodes => simp [bind, Except.bind, pure, Except.pure]
    | error failure =>
        simpa [bind, Except.bind] using failure_of_readScript read

/-! ## The hook for all kinds of markup -/

namespace Hook

/-- The annotator that a hook asks about a file. -/
def asked? (hook : Hook) (source filename : String) :
    Option (String → FileOptions → Annotation) :=
  if Text.endsWith filename ".vue" then
    if hook.vue then some Template.annotate else none
  else if hook.angular && Text.endsWith filename ".component.html" then
    some Markup.annotateTemplate
  else if hook.angular && Text.endsWith filename ".component.ts" &&
      Text.contains source Markup.componentMarker then
    some Markup.annotateComponent
  else
    some (Script.annotate hook.script)

/-- What a hook tells an annotator about a file. -/
def told (hook : Hook) (filename : String) : FileOptions where
  filename
  ignored := hook.ignored

/-- The annotator that is asked about a file does not stop for good on it. -/
def Finishes (hook : Hook) (source filename : String) : Prop :=
  ∀ annotate ∈ hook.asked? source filename,
    annotate source (hook.told filename) ≠ .error .aborted

/-- The hook passes a file on to an annotator. -/
structure PassesOn (hook : Hook) (source filename : String) : Prop where
  enabled : hook.isEnabled = true
  wanted : hook.wants filename = true
  brackets : Text.HasBrackets source.toList

section Failures

variable {hook : Hook} {source filename : String}

theorem dispatch_eq_asked :
    hook.dispatch source filename =
      ((hook.asked? source filename).map fun annotate =>
        recover (annotate source (hook.told filename))).getD (.ok none) := by
  unfold dispatch asked?
  extract_lets file
  split
  · split
    · rfl
    · rfl
  · split
    · rfl
    · split
      · rfl
      · rfl

theorem missesName_of_asked {annotate : String → FileOptions → Annotation}
    (asked : annotate ∈ hook.asked? source filename) :
    MissesName annotate := by
  unfold asked? at asked
  split at asked
  · obtain ⟨_, result⟩ := Option.ite_none_right_eq_some.mp asked
    obtain rfl := Option.some.inj result
    exact Template.missesName_annotate
  · split at asked
    · obtain rfl := Option.some.inj asked
      exact Markup.missesName_annotateTemplate
    · split at asked
      · obtain rfl := Option.some.inj asked
        exact Markup.missesName_annotateComponent
      · obtain rfl := Option.some.inj asked
        exact Script.missesName_annotate hook.script

theorem asked_of_script
    (isScript : hook.takesForScript source filename = true) :
    hook.asked? source filename = some (Script.annotate hook.script) := by
  simp only [takesForScript, Bool.and_eq_true, Bool.not_eq_true'] at isScript
  obtain ⟨⟨blocks, template⟩, component⟩ := isScript
  simp [asked?, blocks, template, component]

/-- A file without a name is taken for a script. -/
theorem asked_of_unnamed :
    hook.asked? source "" = some (Script.annotate hook.script) := by
  have blocks : Text.endsWith "" ".vue" = false := by decide
  have template : Text.endsWith "" ".component.html" = false := by decide
  have component : Text.endsWith "" ".component.ts" = false := by decide
  apply asked_of_script
  simp [takesForScript, blocks, template, component]

theorem annotate_of_passesOn (passes : hook.PassesOn source filename) :
    hook.annotate source filename = hook.dispatch source filename :=
  annotate_of_bracketed passes.enabled passes.wanted passes.brackets

theorem annotate_of_not_passesOn
    (stays : ¬ hook.PassesOn source filename) :
    hook.annotate source filename = .ok none := by
  apply annotate_of_gated
  rintro ⟨enabled, wanted, brackets⟩
  exact stays ⟨enabled, wanted, brackets⟩

theorem annotate_of_unnamed (passes : hook.PassesOn source "") :
    hook.annotate source "" = .error .missingFilename := by
  have missing : Script.annotate hook.script source (hook.told "") =
      .error .missingFilename :=
    (Script.missesName_annotate hook.script source _).mpr rfl
  rw [annotate_of_passesOn passes, dispatch_eq_asked, asked_of_unnamed,
    Option.map_some, Option.getD_some, missing]
  rfl

/-- In every case but that of a file without a name a hook answers, with a text
just where it passes the file on and the annotator gives that text. -/
theorem annotate_eq_ok (finishes : hook.Finishes source filename)
    (other : ¬ (filename = "" ∧ hook.PassesOn source "")) :
    ∃ outcome, hook.annotate source filename = .ok outcome ∧
      ∀ code, outcome = some code ↔
        hook.PassesOn source filename ∧
          ∃ annotate ∈ hook.asked? source filename,
            annotate source (hook.told filename) = .ok (some code) := by
  by_cases passes : hook.PassesOn source filename
  · have named : filename ≠ "" := by
      rintro rfl
      exact other ⟨rfl, passes⟩
    rw [annotate_of_passesOn passes, dispatch_eq_asked]
    cases asked : hook.asked? source filename with
    | none => exact ⟨none, rfl, fun code => by simp⟩
    | some annotate =>
        have known : annotate source (hook.told filename) ≠
            .error .missingFilename := by
          rw [ne_eq, missesName_of_asked asked]
          exact named
        obtain ⟨outcome, recovered, given⟩ :=
          recover_eq_ok known (finishes annotate asked)
        exact ⟨outcome, recovered, fun code => by simp [given, passes]⟩
  · exact ⟨none, annotate_of_not_passesOn passes, fun code => by simp [passes]⟩

theorem annotate_eq_error_iff (finishes : hook.Finishes source filename)
    {failure : Failure} :
    hook.annotate source filename = .error failure ↔
      failure = .missingFilename ∧ filename = "" ∧
        hook.PassesOn source "" := by
  by_cases unnamed : filename = "" ∧ hook.PassesOn source ""
  · obtain ⟨rfl, passes⟩ := unnamed
    rw [annotate_of_unnamed passes, Except.error.injEq]
    exact ⟨fun same => ⟨same.symm, rfl, passes⟩, fun cause => cause.1.symm⟩
  · obtain ⟨outcome, answered, _⟩ := annotate_eq_ok finishes unnamed
    rw [answered]
    constructor
    · simp
    · rintro ⟨_, cause⟩
      exact absurd cause unnamed

end Failures

end Hook

/-! ## The hook for scripts -/

namespace Loader

variable {script : Script.Options} {ignored : List String}
  {source filename : String}

/-- Files of the project that are not run in front of all others are marked. -/
theorem load_of_own (own : isVendored filename = false)
    (behind : Text.contains filename middlewareMarker = false) :
    (ofOptions script ignored).load source filename =
      (recover (Script.annotate { script with mode := .path } source
        { filename, ignored })).map fun outcome => outcome.getD source := by
  simp [load, own, behind, ofOptions]

theorem load_of_unnamed :
    (ofOptions script ignored).load source "" = .error .missingFilename := by
  have missing : Script.annotate { script with mode := .path } source
      { filename := "", ignored } = .error .missingFilename :=
    (Script.missesName_annotate _ source _).mpr rfl
  rw [load_of_own (by decide) (by decide), missing]
  rfl

/-- A file with a name is loaded: as its marked text where there is one and the
file is not one of those that run in front of all others, and as it is
otherwise. -/
theorem load_eq_ok (named : filename ≠ "")
    (finishes : Script.annotate { script with mode := .path } source
      { filename, ignored } ≠ .error .aborted) :
    ∃ outcome : Option String,
      (ofOptions script ignored).load source filename =
          .ok (outcome.getD source) ∧
        ∀ code, outcome = some code ↔
          Text.contains filename middlewareMarker = false ∧
            Script.annotate { script with mode := .path } source
              { filename, ignored } = .ok (some code) := by
  have known : Script.annotate { script with mode := .path } source
      { filename, ignored } ≠ .error .missingFilename := by
    rw [ne_eq, Script.missesName_annotate]
    exact named
  cases own : isVendored filename with
  | true =>
      have passed : Script.annotate { script with mode := .path } source
          { filename, ignored } = .ok none := by
        apply Script.annotate_of_passed named
        simp [Script.passesThrough, own]
      exact ⟨none, by simp [load, own], fun code => by simp [passed]⟩
  | false =>
      cases behind : Text.contains filename middlewareMarker with
      | true => exact ⟨none, by simp [load, behind], fun code => by simp⟩
      | false =>
          obtain ⟨outcome, recovered, given⟩ := recover_eq_ok known finishes
          refine ⟨outcome, ?_, fun code => by simp [given]⟩
          rw [load_of_own own behind, recovered]
          rfl

theorem load_eq_error_iff
    (finishes : Script.annotate { script with mode := .path } source
      { filename, ignored } ≠ .error .aborted) {failure : Failure} :
    (ofOptions script ignored).load source filename = .error failure ↔
      failure = .missingFilename ∧ filename = "" := by
  by_cases unnamed : filename = ""
  · subst unnamed
    rw [load_of_unnamed, Except.error.injEq]
    exact ⟨fun same => ⟨same.symm, rfl⟩, fun cause => cause.1.symm⟩
  · obtain ⟨outcome, answered, _⟩ := load_eq_ok unnamed finishes
    rw [answered]
    simp [unnamed]

end Loader

/-- As long as no annotator stops for good, a failure leaves a hook just when the
hook passes on a file without a name, and it says so.  In every other case, be
the file readable or not, the hook answers, with a text just where it passes the
file on and the annotator it asks gives that text.  The hook for scripts fails
just when the file has no name, and gives the script as it is unless there is a
marked text with whole locations. -/
theorem fails_iff_unnamed :
    (∀ (hook : Hook) (source filename : String),
      hook.Finishes source filename →
        (∀ failure, hook.annotate source filename = .error failure ↔
          failure = .missingFilename ∧ filename = "" ∧
            hook.PassesOn source "") ∧
        (¬ (filename = "" ∧ hook.PassesOn source "") →
          ∃ outcome, hook.annotate source filename = .ok outcome ∧
            ∀ code, outcome = some code ↔
              hook.PassesOn source filename ∧
                ∃ annotate ∈ hook.asked? source filename,
                  annotate source (hook.told filename) =
                    .ok (some code))) ∧
    (∀ (script : Script.Options) (ignored : List String)
      (source filename : String),
      let loader := Loader.ofOptions script ignored
      let annotated := Script.annotate { script with mode := .path } source
        { filename, ignored }
      annotated ≠ .error .aborted →
        (∀ failure, loader.load source filename = .error failure ↔
          failure = .missingFilename ∧ filename = "") ∧
        (filename ≠ "" →
          ∃ outcome : Option String,
            loader.load source filename = .ok (outcome.getD source) ∧
              ∀ code, outcome = some code ↔
                Text.contains filename Loader.middlewareMarker = false ∧
                  annotated = .ok (some code))) := by
  constructor
  · intro hook source filename finishes
    exact ⟨fun failure => Hook.annotate_eq_error_iff finishes,
      Hook.annotate_eq_ok finishes⟩
  · intro script ignored source filename loader annotated finishes
    exact ⟨fun failure => Loader.load_eq_error_iff finishes,
      fun named => Loader.load_eq_ok named finishes⟩

/-- A hook that is asked about every file: it fails for markup without a name,
and leaves alone a script that cannot be read, as the hook for scripts does. -/
theorem fails_iff_unnamed_broken :
    let configuration : Configuration :=
      { Configuration.standard with
        included := [.part ""]
        excluded := [.part "node_modules"] }
    let markup := "<div />"
    let broken := "const = <div>;"
    let filename := "/src/Broken.tsx"
    ∃ hook, Hook.ofConfiguration configuration "development" = .ok hook ∧
      hook.Finishes markup "" ∧ hook.PassesOn markup "" ∧
      hook.annotate markup "" = .error .missingFilename ∧
      hook.Finishes broken filename ∧ hook.PassesOn broken filename ∧
      hook.annotate broken filename = .ok none ∧
      (Loader.ofOptions hook.script []).load broken filename =
        .ok broken := by
  intro configuration markup broken filename
  let script : Script.Options :=
    { mode := .path
      environment := none
      project := none
      current := Environment.fallback
      filter := .all }
  let hook : Hook :=
    { environments := ["development"]
      current := "development"
      ignored := []
      included := [.part ""]
      excluded := [.part "node_modules"]
      vue := true
      angular := true
      script }
  have named : filename ≠ "" := by decide
  have passesUnnamed : hook.PassesOn markup "" :=
    ⟨by decide, by decide, by decide, by decide⟩
  have passes : hook.PassesOn broken filename :=
    ⟨by decide, by decide, by decide, by decide⟩
  have missing : Script.annotate script markup (hook.told "") =
      .error .missingFilename :=
    (Script.missesName_annotate script markup _).mpr rfl
  have unread : Script.annotate script broken (hook.told filename) =
      .error (.script filename "unexpected token at 6") :=
    eq_error_of_failure? (by decide +kernel)
  have finishesUnnamed : hook.Finishes markup "" := by
    intro annotate asked
    obtain rfl := Option.some.inj (Hook.asked_of_unnamed.symm.trans asked)
    rw [missing]
    simp
  have asks : hook.asked? broken filename = some (Script.annotate script) :=
    Hook.asked_of_script (by decide)
  have finishes : hook.Finishes broken filename := by
    intro annotate asked
    obtain rfl := Option.some.inj (asks.symm.trans asked)
    rw [unread]
    simp
  obtain ⟨hooks, loaders⟩ := fails_iff_unnamed
  refine ⟨hook, rfl, finishesUnnamed, passesUnnamed, ?_, finishes, passes, ?_,
    ?_⟩
  · exact ((hooks hook markup "" finishesUnnamed).1 _).mpr
      ⟨rfl, rfl, passesUnnamed⟩
  · obtain ⟨outcome, answered, given⟩ :=
      (hooks hook broken filename finishes).2 fun unnamed => named unnamed.1
    cases outcome with
    | none => exact answered
    | some code =>
        obtain ⟨_, annotate, asked, text⟩ := (given code).mp rfl
        obtain rfl := Option.some.inj (asks.symm.trans asked)
        simp [unread] at text
  · obtain ⟨outcome, answered, given⟩ :=
      (loaders script [] broken filename (by
        change Script.annotate script broken (hook.told filename) ≠ _
        rw [unread]
        simp)).2 named
    cases outcome with
    | none => exact answered
    | some code =>
        obtain ⟨_, text⟩ := (given code).mp rfl
        change Script.annotate script broken (hook.told filename) = _ at text
        simp [unread] at text

end SourceMark
