import SourceMark.Proofs.Command.Builds

/-!
# Building into the source directory

The output directory may lie below the source directory.  Whether a build then
takes what it wrote is a matter of spelling: what lies in the output directory
is passed over exactly if the parts of the output path are those of the source
path with names behind them.  Spelled so, building again changes nothing but
the time in the manifest; spelled otherwise, the next build takes the manifest.
-/

namespace SourceMark

namespace Command

open Files

variable {disk later : Disk} {source output : String} {place : Place}
  {names inner : List String}

/-- An output path spells a directory below the source directory; it need not
be there yet. -/
structure IsWithin (disk : Disk) (source output : String) (place : Place)
    (inner : List String) : Prop where
  tree : disk.IsTree
  source : disk.locate source = .ok place
  directory : disk.isDirectory place = true
  output : Path.place disk.current output = place ++ inner
  deeper : inner ≠ []

/-- The output path is the source path with names behind it, part by part. -/
def IsSpelledBelow (source output : String) (inner : List String) : Prop :=
  Path.parts output = Path.parts source ++ inner

instance (source output : String) (inner : List String) :
    Decidable (IsSpelledBelow source output inner) :=
  inferInstanceAs (Decidable (_ = _))

namespace IsWithin

variable (within : IsWithin disk source output place inner)
include within

theorem isSetUp : IsSetUp disk source output place (place ++ inner) where
  tree := within.tree
  source := within.source
  output := within.output
  apart := by simpa using within.deeper

theorem after {places : List Place}
    (writes : Disk.Writes places disk later) :
    IsWithin later source output place inner where
  tree := writes.tree within.tree
  source := writes.extension.locate within.source
  directory := writes.extension.directories place within.directory
  output := by
    rw [writes.extension.current]
    exact within.output
  deeper := within.deeper

theorem find_source : disk.find source = .ok place :=
  find_of_isDirectory within.source within.directory

/-! ## What is passed over -/

theorem isOutput_iff (named : ∀ name ∈ names, IsName name) :
    isOutput source output names = true ↔
      IsSpelledBelow source output inner ∧ inner <+: names := by
  constructor
  -- That the names are those to the output directory is seen by going where
  -- both paths lead.
  · intro passed
    obtain ⟨taken, leading, spelled, below⟩ :=
      exists_of_isOutput within.source named passed
    rw [within.output, List.append_right_inj] at below
    rw [below]
    exact ⟨spelled, leading⟩
  · rintro ⟨spelled, rest, rfl⟩
    rw [isOutput, List.any_eq_true]
    refine ⟨inner.length, ?_, ?_⟩
    · rw [List.mem_range, List.length_append]
      omega
    · rw [List.take_left, spelled]
      exact beq_self_eq_true _

/-- What a build takes. -/
theorem mem_sourceFiles_iff :
    names ∈ sourceFiles disk source output ↔
      names ≠ [] ∧ place ++ names ∈ disk.places ∧
        (IsSpelledBelow source output inner → ¬ inner <+: names) := by
  rw [Command.mem_sourceFiles_iff within.find_source, and_assoc]
  apply and_congr_right
  rintro -
  apply and_congr_right
  intro listed
  rw [← Bool.not_eq_true,
    within.isOutput_iff (within.isSetUp.isName listed), not_and]

/-- What is written into the output directory is not taken. -/
theorem sourceFiles_of_writes {places : List Place}
    (spelled : IsSpelledBelow source output inner)
    (inside : ∀ other ∈ places, place ++ inner <+: other)
    (writes : Disk.Writes places disk later) :
    sourceFiles later source output = sourceFiles disk source output := by
  have taken {disk : Disk}
      (within : IsWithin disk source output place inner) :
      (disk.places.filterMap (namesBelow place)).filter
          (fun names => !isOutput source output names) =
        (disk.places.filter fun other =>
          !(place ++ inner).isPrefixOf other).filterMap (namesBelow place) := by
    rw [List.filter_filterMap, List.filterMap_filter]
    apply List.filterMap_congr
    intro other listed
    cases below : namesBelow place other with
    | none => simp
    | some names =>
        obtain ⟨_, rfl⟩ := namesBelow_eq_some_iff.mp below
        have same : isOutput source output names =
            (place ++ inner).isPrefixOf (place ++ names) := by
          rw [Bool.eq_iff_iff, List.isPrefixOf_iff_prefix,
            List.prefix_append_right_inj,
            within.isOutput_iff (within.isSetUp.isName listed),
            and_iff_right spelled]
        rw [Option.filter_some, same]
  have kept := writes.kept (fun other => !(place ++ inner).isPrefixOf other)
    fun other member => by
      rw [List.isPrefixOf_iff_prefix.mpr (inside other member)]
      rfl
  have places : later.places.filter
      (fun other => !(place ++ inner).isPrefixOf other) =
      disk.places.filter fun other => !(place ++ inner).isPrefixOf other := by
    rw [Disk.places, Disk.places, List.filter_map, List.filter_map]
    exact congrArg (List.map Prod.fst) kept
  have next := within.after writes
  rw [sourceFiles_eq next.find_source, sourceFiles_eq within.find_source,
    taken next, taken within, places]

end IsWithin

/-! ## Building again -/

section Again

variable {hook : Hook} {root manifest : Place} {path : String}
  {files : List BuiltFile}

/-- Where files have been taken, taking them again writes what is there, save
at a place that is written for another reason. -/
theorem run_mapM_again (setUp : IsSetUp disk source output place root)
    (replaceable : disk.IsReplaceable path manifest)
    (done : ∀ file ∈ files, place ++ file.names ≠ manifest ∧
      IsReady disk output root file.names ∧
      ∃ written, IsOutcome hook disk place file written ∧
        (root ++ file.names ≠ manifest →
          disk.file? (root ++ file.names) = some written))
    (content : ByteArray) :
    ∃ last, ((files.map BuiltFile.names).mapM
        (buildNamed hook source output)).run (disk.put manifest content) =
      .ok files (disk.put manifest last) := by
  induction files generalizing content with
  | nil => exact ⟨content, rfl⟩
  | cons file files induction =>
      obtain ⟨apart, ready, written, became, stands⟩ :=
        done file List.mem_cons_self
      have writes := replaceable.writes_put setUp.tree content
      have next := setUp.after writes
      have kept (other : Place) (elsewhere : other ≠ manifest) :
          (disk.put manifest content).file? other = disk.file? other :=
        writes.file?_eq setUp.tree (by simpa using elsewhere)
      have ran := run_buildNamed_of_isReady next
        ((isOutcome_congr (kept _ apart)).mpr became) (ready.after writes)
      obtain ⟨rest, onwards⟩ := induction (fun other member =>
        done other (List.mem_cons_of_mem file member))
        (if root ++ file.names = manifest then written else content)
      refine ⟨rest, run_mapM_cons_eq_ok_iff.mpr
        ⟨file, _, files, ran, ?_, rfl⟩⟩
      -- A file may be copied to the place of the manifest; until that is
      -- written again, its copy stands there.
      split at onwards
      · next here =>
          rw [here, Disk.put_put]
          exact onwards
      · next elsewhere =>
          rw [next.tree.put_eq_self
            ((kept _ elsewhere).trans (stands elsewhere))]
          exact onwards

end Again

namespace IsWithin

variable {hook : Hook} {time : String} {mode : Script.Mode}
  {files : List BuiltFile} {built : Disk}
  (within : IsWithin disk source output place inner)
include within

theorem canonical_source :
    disk.canonical source = Disk.absolutePath place := by
  rw [Disk.canonical, within.find_source]

/-- The place of the manifest and those of the copies lie in the output
directory; what is taken does not. -/
theorem not_mem_of_mem_sourceFiles
    (spelled : IsSpelledBelow source output inner)
    (member : names ∈ sourceFiles disk source output) {places : List Place}
    (inside : ∀ other ∈ places, place ++ inner <+: other) :
    place ++ names ∉ places := by
  intro overwritten
  have below := inside _ overwritten
  rw [List.prefix_append_right_inj] at below
  exact (within.mem_sourceFiles_iff.mp member).2.2 spelled below

/-- A build into the source directory that is spelled so ends with everything
in place that a second build writes. -/
theorem done_of_builds (spelled : IsSpelledBelow source output inner)
    (builds : Builds hook time source output mode disk files built later) :
    ∀ file ∈ files,
      place ++ file.names ≠ place ++ inner ++ [Manifest.fileName] ∧
        IsReady later output (place ++ inner) file.names ∧
        ∃ written, IsOutcome hook later place file written ∧
          (place ++ inner ++ file.names ≠
              place ++ inner ++ [Manifest.fileName] →
            later.file? (place ++ inner ++ file.names) = some written) := by
  have setUp := within.isSetUp
  obtain ⟨whole, writes, _⟩ := builds.writes setUp
  obtain ⟨rest, _, _, _⟩ := builds.of_written setUp
  have listed := builds.listed setUp.source
  have outside (names : List String)
      (member : names ∈ sourceFiles disk source output) :
      ¬ place ++ inner <+: place ++ names := by
    rw [List.prefix_append_right_inj]
    exact (within.mem_sourceFiles_iff.mp member).2.2 spelled
  have first := (writes_of_run_mapM setUp listed builds.taken).2.1
  have facts := of_run_mapM setUp listed outside
    (nodup_sourceFiles within.tree within.find_source) builds.taken
  intro file member
  obtain ⟨ready, written, became, stands⟩ := facts file member
  have taken : file.names ∈ sourceFiles disk source output := by
    rw [← whole]
    exact List.mem_map_of_mem member
  refine ⟨?_, ready.after rest, written, ?_, ?_⟩
  · intro same
    apply outside file.names taken
    rw [same]
    exact List.prefix_append _ _
  · refine (isOutcome_congr (writes.file?_eq within.tree ?_)).mpr became
    exact within.not_mem_of_mem_sourceFiles spelled taken
      prefix_of_mem_written
  · intro apart
    rw [rest.file?_eq (first.tree within.tree) (by simpa using apart)]
    exact stands

/-- A second build takes the same files, and what it leaves differs in the
manifest only. -/
theorem builds_again (spelled : IsSpelledBelow source output inner)
    (builds : Builds hook time source output mode disk files built later)
    (again : String) :
    ∃ rebuilt, manifestOf rebuilt again source mode files =
        { manifestOf built time source mode files with time := again } ∧
      Builds hook again source output mode later files rebuilt
        (later.put (place ++ inner ++ [Manifest.fileName])
          (manifestOf rebuilt again source mode files).toJson.pretty.toUTF8)
          := by
  have setUp := within.isSetUp
  obtain ⟨whole, writes, _⟩ := builds.writes setUp
  obtain ⟨rest, made, replaceable, known⟩ := builds.of_written setUp
  have next := within.after writes
  obtain ⟨last, ran⟩ := run_mapM_again next.isSetUp replaceable
    (within.done_of_builds spelled builds)
    (manifestOf built time source mode files).toJson.pretty.toUTF8
  rw [next.tree.put_eq_self known, whole] at ran
  have second := replaceable.writes_put next.tree last
  have first := (writes_of_run_mapM setUp (builds.listed setUp.source)
    builds.taken).2.1
  refine ⟨later.put (place ++ inner ++ [Manifest.fileName]) last, ?_, ?_, ?_,
    later.put (place ++ inner ++ [Manifest.fileName]) last, ?_, ?_⟩
  · rw [manifestOf, manifestOf, (next.after second).canonical_source,
      (within.after first).canonical_source]
  · exact writes.extension.hasDirectory builds.there
  · rw [within.sourceFiles_of_writes spelled prefix_of_mem_written
      writes]
    exact ran
  · exact (made.extend second.extension).ensureDirectories
  · rw [Disk.writeText, (replaceable.after second).write
      (second.tree next.tree), Disk.put_put]

end IsWithin

/-- What builds do whose output directory lies below the source directory. -/
structure IsRepeatable (disk : Disk) (source output : String) (place : Place)
    (inner : List String) : Prop where
  /-- All files below the source directory are taken, save for those below the
  output directory if that is spelled so. -/
  taken : ∀ names, names ∈ sourceFiles disk source output ↔
    names ≠ [] ∧ place ++ names ∈ disk.places ∧
      (IsSpelledBelow source output inner → ¬ inner <+: names)
  /-- If it is, the same build with the same configuration succeeds again,
  says the same, and changes nothing but the time in the manifest. -/
  steady : IsSpelledBelow source output inner →
    ∀ environment time chosen setup report later,
      outputPath disk chosen setup = some output →
      (buildTree environment time source chosen setup).run disk =
        .ok report later →
      Configuration.loadOrStandard later setup.configuration =
        Configuration.loadOrStandard disk setup.configuration →
      ∃ manifest : Manifest, manifest.time = time ∧
        later.file? (place ++ inner ++ [Manifest.fileName]) =
          some manifest.toJson.pretty.toUTF8 ∧
        ∀ again, (buildTree environment again source chosen setup).run later =
          .ok report (later.put (place ++ inner ++ [Manifest.fileName])
            { manifest with time := again }.toJson.pretty.toUTF8)
  /-- If it is not, the next build takes the manifest and copies it deeper. -/
  creeping : ¬ IsSpelledBelow source output inner →
    ∀ environment time chosen setup report later,
      outputPath disk chosen setup = some output →
      (buildTree environment time source chosen setup).run disk =
        .ok report later →
      inner ++ [Manifest.fileName] ∈ sourceFiles later source output ∧
        ∀ again next last, outputPath later chosen setup = some output →
          (buildTree environment again source chosen setup).run later =
            .ok next last →
          place ++ inner ++ (inner ++ [Manifest.fileName]) ∈ last.places

/-- Where the output directory lies below the source directory, its spelling
decides. -/
theorem IsWithin.isRepeatable
    (within : IsWithin disk source output place inner) :
    IsRepeatable disk source output place inner where
  taken names := within.mem_sourceFiles_iff
  steady := by
    intro spelled environment time chosen setup report later resolved ran same
    obtain ⟨loaded, hook, files, built, known, given, builds, rfl⟩ :=
      (run_buildTree_eq_ok_iff resolved).mp ran
    obtain ⟨_, _, _, manifest⟩ := builds.of_written within.isSetUp
    refine ⟨_, rfl, manifest, fun again => ?_⟩
    obtain ⟨rebuilt, differs, second⟩ :=
      within.builds_again spelled builds again
    have resolvedAgain : outputPath later chosen setup = some output := by
      rw [outputPath, same]
      exact resolved
    refine (run_buildTree_eq_ok_iff resolvedAgain).mpr ⟨loaded, hook, files,
      rebuilt, same.trans known, given, ?_, ?_⟩
    · rw [← differs]
      exact second
    · rw [differs]
      rfl
  creeping := by
    intro other environment time chosen setup report later resolved ran
    obtain ⟨_, _, _, _, _, _, builds, _⟩ :=
      (run_buildTree_eq_ok_iff resolved).mp ran
    obtain ⟨_, writes, _⟩ := builds.writes within.isSetUp
    obtain ⟨_, _, manifest, _⟩ := builds.of_written within.isSetUp
    have next := within.after writes
    have taken : inner ++ [Manifest.fileName] ∈
        sourceFiles later source output := by
      refine next.mem_sourceFiles_iff.mpr ⟨by simp, ?_, fun spelled =>
        absurd spelled other⟩
      rw [← List.append_assoc]
      exact manifest.listed
    refine ⟨taken, ?_⟩
    intro again said last resolvedAgain ranAgain
    obtain ⟨_, _, _, _, _, _, second, _⟩ :=
      (run_buildTree_eq_ok_iff resolvedAgain).mp ranAgain
    exact (second.writes next.isSetUp).2.2 _ taken

/-- A directory with a file of its own and an earlier output below it. -/
def workspace : Disk where
  files := [(["w", "a.css"], "x".toUTF8), (["w", "out", "b.css"], "y".toUTF8)]
  directories := []
  current := ["w"]

theorem isRepeatable_dotted :
    IsWithin workspace "." "./out" ["w"] ["out"] ∧
      IsRepeatable workspace "." "./out" ["w"] ["out"] ∧
      IsSpelledBelow "." "./out" ["out"] ∧
      ∃ report later,
        (buildTree ⟨none, none⟩ "now" "." (some "./out")
          ⟨"locator.toml", none, none⟩).run workspace = .ok report later ∧
        Configuration.loadOrStandard later "locator.toml" =
          Configuration.loadOrStandard workspace "locator.toml" := by
  have within : IsWithin workspace "." "./out" ["w"] ["out"] := {
    tree := by decide
    source := by decide
    directory := by decide
    output := by decide
    deeper := by decide }
  refine ⟨within, IsWithin.isRepeatable within, by decide, ?_⟩
  have ran : (do
      let _ ← buildTree ⟨none, none⟩ "now" "." (some "./out")
        ⟨"locator.toml", none, none⟩
      return (← get).hasPath "locator.toml" : Work Bool).run' workspace =
        some false := by
    decide +kernel
  obtain ⟨_, ran⟩ := exists_of_run' ran
  obtain ⟨report, later, built, onwards⟩ := run_bind_eq_ok_iff.mp ran
  obtain ⟨absent, _⟩ := run_pure_eq_ok_iff.mp onwards
  refine ⟨report, later, built, ?_⟩
  rw [Configuration.loadOrStandard, Configuration.loadOrStandard, absent]
  rfl

/-- Without the dot, the earlier output is taken. -/
theorem not_forall_outside :
    ¬ ∀ (disk : Disk) (source output : String) (place : Place)
        (inner : List String), IsWithin disk source output place inner →
      ∀ names ∈ sourceFiles disk source output, ¬ inner <+: names := by
  intro claim
  have within : IsWithin workspace "." "out" ["w"] ["out"] := {
    tree := by decide
    source := by decide
    directory := by decide
    output := by decide
    deeper := by decide }
  have taken : ["out", "b.css"] ∈ sourceFiles workspace "." "out" := by
    refine within.mem_sourceFiles_iff.mpr ⟨by decide, by decide, ?_⟩
    intro spelled
    exact absurd spelled (by decide)
  exact claim workspace "." "out" ["w"] ["out"] within _ taken (by decide)

end Command

end SourceMark
