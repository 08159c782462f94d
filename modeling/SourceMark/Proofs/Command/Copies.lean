import SourceMark.Proofs.Command.Builds

/-!
# Building beside the source directory

An output directory may lie neither in the source directory nor above it.  Then
a build takes each file of the source directory once and leaves it as it is, and
every file stands in the output directory as its status says, save for one: the
manifest is written last, over a file that has its name.
-/

namespace SourceMark

namespace Command

open Files

variable {disk later : Disk} {source output : String} {place root : Place}
  {names : List String}

/-- An output path spells a directory that lies neither in the source directory
nor above it; it need not be there yet. -/
structure IsBeside (disk : Disk) (source output : String) (place root : Place) :
    Prop where
  tree : disk.IsTree
  source : disk.locate source = .ok place
  output : Path.place disk.current output = root
  outside : ¬ place <+: root
  notAbove : ¬ root <+: place

namespace IsBeside

variable (beside : IsBeside disk source output place root)
include beside

theorem isSetUp : IsSetUp disk source output place root where
  tree := beside.tree
  source := beside.source
  output := beside.output
  apart := by
    rintro rfl
    exact beside.outside List.prefix_rfl

/-- Nothing lies below both directories. -/
theorem not_prefix_of_prefix {other : Place} (inside : place <+: other) :
    ¬ root <+: other := by
  intro written
  rcases List.prefix_or_prefix_of_prefix inside written with outer | inner
  · exact beside.outside outer
  · exact beside.notAbove inner

/-! ## What is taken -/

theorem isOutput_eq_false (named : ∀ name ∈ names, IsName name) :
    isOutput source output names = false := by
  rw [Bool.eq_false_iff]
  intro passed
  obtain ⟨inner, _, _, below⟩ := exists_of_isOutput beside.source named passed
  apply beside.outside
  rw [← beside.output, below]
  exact List.prefix_append place inner

/-- A build takes all files below the source directory. -/
theorem perm_sourceFiles (found : disk.find source = .ok place) :
    (sourceFiles disk source output).Perm
      ((disk.filesBelow place).map Prod.fst) := by
  have taken : (disk.places.filterMap (namesBelow place)).filter
      (fun names => !isOutput source output names) =
        disk.places.filterMap (namesBelow place) := by
    rw [List.filter_eq_self]
    intro names member
    obtain ⟨other, listed, below⟩ := List.mem_filterMap.mp member
    obtain ⟨_, rfl⟩ := namesBelow_eq_some_iff.mp below
    rw [beside.isOutput_eq_false (beside.isSetUp.isName listed), Bool.not_false]
  rw [sourceFiles_eq found, taken, filesBelow_names]
  exact List.mergeSort_perm _ _

end IsBeside

/-! ## What is delivered -/

/-- What stands in the output directory for a file of the source directory, by
the status of the file. -/
inductive IsDelivered (hook : Hook) (disk later : Disk) (taken target : Place) :
    FileStatus → Prop where
  /-- The hook does not want the file, or its bytes are no text. -/
  | copied {bytes : ByteArray}
      (reason : hook.wants (Disk.absolutePath taken) = false ∨
        String.fromUTF8? bytes = none)
      (known : disk.file? taken = some bytes)
      (stands : later.file? target = some bytes) :
      IsDelivered hook disk later taken target .copied
  /-- The hook leaves the text as it is. -/
  | unchanged {text : String}
      (wanted : hook.wants (Disk.absolutePath taken) = true)
      (kept : hook.annotate text (Disk.absolutePath taken) = .ok none)
      (known : disk.file? taken = some text.toUTF8)
      (stands : later.file? target = some text.toUTF8) :
      IsDelivered hook disk later taken target .unchanged
  /-- The hook marks the text. -/
  | annotated {text code : String}
      (wanted : hook.wants (Disk.absolutePath taken) = true)
      (marked : hook.annotate text (Disk.absolutePath taken) = .ok (some code))
      (known : disk.file? taken = some text.toUTF8)
      (stands : later.file? target = some code.toUTF8) :
      IsDelivered hook disk later taken target .annotated

theorem isDelivered_of_isOutcome {hook : Hook} {file : BuiltFile}
    {target : Place} {written : ByteArray}
    (became : IsOutcome hook disk place file written)
    (stands : later.file? target = some written) :
    IsDelivered hook disk later (place ++ file.names) target file.status := by
  obtain ⟨bytes, known, became⟩ := became
  unfold outcome at became
  split at became
  · next wanted =>
      split at became
      · next unreadable =>
          obtain ⟨status, rfl⟩ := Prod.mk.inj (Except.ok.inj became)
          rw [← status]
          exact .copied (.inr unreadable) known stands
      · next text decoded =>
          obtain rfl := toUTF8_of_fromUTF8? decoded
          split at became
          · simp at became
          · next code marked =>
              obtain ⟨status, rfl⟩ := Prod.mk.inj (Except.ok.inj became)
              rw [← status]
              exact .annotated wanted marked known stands
          · next kept =>
              obtain ⟨status, rfl⟩ := Prod.mk.inj (Except.ok.inj became)
              rw [← status]
              exact .unchanged wanted kept known stands
  · next unwanted =>
      obtain ⟨status, rfl⟩ := Prod.mk.inj (Except.ok.inj became)
      rw [← status]
      exact .copied (.inl (Bool.eq_false_iff.mpr unwanted)) known stands

/-- What a build does that is told in a manifest. -/
structure Delivers (hook : Hook) (disk later : Disk) (place root : Place)
    (manifest : Manifest) : Prop where
  /-- Each file below the source directory is listed once, in ascending
  order. -/
  listed : (manifest.files.map BuiltFile.names).Perm
    ((disk.filesBelow place).map Prod.fst)
  ascending : (manifest.files.map BuiltFile.names).Pairwise (List.Lex (· < ·))
  /-- The paths that are written down are distinct as well.  This needs names
  that are texts: of other names two could be written down alike, as what is no
  text in them is replaced. -/
  distinct : (manifest.files.map fun file =>
    Path.ofNames file.names).Nodup
  /-- A file stands in the output directory as its status says, unless it has
  the name of the manifest. -/
  delivered : ∀ file ∈ manifest.files, file.names ≠ [Manifest.fileName] →
    IsDelivered hook disk later (place ++ file.names) (root ++ file.names)
      file.status
  /-- There the manifest stands, whatever the source directory has. -/
  recorded : later.file? (root ++ [Manifest.fileName]) =
    some manifest.toJson.pretty.toUTF8
  /-- The source directory is as it was. -/
  untouched : later.filesBelow place = disk.filesBelow place

namespace Builds

variable {hook : Hook} {time : String} {mode : Script.Mode}
  {files : List BuiltFile} {built : Disk}
  (builds : Builds hook time source output mode disk files built later)
  (beside : IsBeside disk source output place root)
include builds beside

theorem perm_files : (files.map BuiltFile.names).Perm
    ((disk.filesBelow place).map Prod.fst) := by
  rw [(builds.writes beside.isSetUp).1]
  exact beside.perm_sourceFiles (builds.find_source beside.source)

theorem ascending_files :
    (files.map BuiltFile.names).Pairwise (List.Lex (· < ·)) := by
  rw [(builds.writes beside.isSetUp).1]
  exact ascending_sourceFiles beside.tree (builds.find_source beside.source)

theorem distinct_paths :
    (files.map fun file => Path.ofNames file.names).Nodup := by
  have proper : ∀ names ∈ files.map BuiltFile.names,
      names ≠ [] ∧ ∀ name ∈ names, IsName name := by
    intro names member
    rw [(builds.writes beside.isSetUp).1] at member
    have found := builds.find_source beside.source
    exact ⟨((mem_sourceFiles_iff found).mp member).1.1,
      beside.isSetUp.isName (builds.listed beside.source names member)⟩
  have distinct : (files.map BuiltFile.names).Nodup := by
    refine (builds.ascending_files beside).imp ?_
    rintro names _ before rfl
    exact List.lex_irrefl String.lt_irrefl names before
  have texts : (files.map BuiltFile.names).map Path.ofNames =
      files.map fun file => Path.ofNames file.names := List.map_map
  rw [← texts]
  refine distinct.map_on ?_
  intro names member others otherMember same
  obtain ⟨filled, named⟩ := proper names member
  obtain ⟨othersFilled, othersNamed⟩ := proper others otherMember
  exact Path.eq_of_ofNames_eq filled named othersFilled othersNamed same

/-- The manifest comes last, so what has another name is left as it was
written. -/
theorem isDelivered_of_ne {file : BuiltFile} (member : file ∈ files)
    (apart : file.names ≠ [Manifest.fileName]) :
    IsDelivered hook disk later (place ++ file.names) (root ++ file.names)
      file.status := by
  have setUp := beside.isSetUp
  have listed := builds.listed beside.source
  have first := (writes_of_run_mapM setUp listed builds.taken).2.1
  obtain ⟨_, written, became, stands⟩ := of_run_mapM setUp listed
    (fun names _ => beside.not_prefix_of_prefix (List.prefix_append _ names))
    (nodup_sourceFiles beside.tree (builds.find_source beside.source))
    builds.taken file member
  refine isDelivered_of_isOutcome became ?_
  rw [(builds.of_written setUp).1.file?_eq (first.tree beside.tree)
    (by simpa using apart)]
  exact stands

theorem filesBelow_source : later.filesBelow place = disk.filesBelow place := by
  have writes := (builds.writes beside.isSetUp).2.1
  refine writes.filesBelow_eq fun other member inside => ?_
  exact beside.not_prefix_of_prefix inside (prefix_of_mem_written other member)

end Builds

/-- A successful build beside the source directory delivers all files but one
with the name of the manifest. -/
theorem IsBeside.delivers (beside : IsBeside disk source output place root)
    {environment : Environment} {time : String} {chosen : Option String}
    {setup : Setup} {report : Report}
    (resolved : outputPath disk chosen setup = some output)
    (ran : (buildTree environment time source chosen setup).run disk =
      .ok report later) :
    ∃ loaded hook manifest,
      Configuration.loadOrStandard disk setup.configuration = .ok loaded ∧
        Hook.ofConfiguration (configured setup loaded)
          (setup.environment.getD environment.forHooks) = .ok hook ∧
        report = manifest.report output ∧
        Delivers hook disk later place root manifest := by
  obtain ⟨loaded, hook, files, built, known, given, builds, said⟩ :=
    (run_buildTree_eq_ok_iff resolved).mp ran
  refine ⟨loaded, hook, _, known, given, said, ?_⟩
  exact {
    listed := builds.perm_files beside
    ascending := builds.ascending_files beside
    distinct := builds.distinct_paths beside
    delivered := fun file member => builds.isDelivered_of_ne beside member
    recorded := (builds.of_written beside.isSetUp).2.2.2
    untouched := builds.filesBelow_source beside }

/-! ## A file in the place of the manifest -/

/-- A source directory with a file of each status, and one with the name of the
manifest. -/
def occupied : Disk where
  files := [
    (["w", "src", "A.vue"], "<template><p>&</p></template>".toUTF8),
    (["w", "src", "b.ts"], "f(1)".toUTF8),
    (["w", "src", "i", "c.css"], "a{}".toUTF8),
    (["w", "src", Manifest.fileName], "x".toUTF8)]
  directories := []
  current := ["w"]

theorem isBeside_occupied :
    IsBeside occupied "src" "out" ["w", "src"] ["w", "out"] where
  tree := by decide
  source := by decide
  output := by decide
  outside := by decide
  notAbove := by decide

theorem sourceFiles_occupied :
    sourceFiles occupied "src" "out" =
      [["A.vue"], ["b.ts"], ["i", "c.css"], [Manifest.fileName]] := by
  have found : occupied.find "src" = .ok ["w", "src"] := by decide
  rw [sourceFiles_eq found, List.mergeSort_of_pairwise (by decide)]
  rfl

/-- The settings of a build without a configuration file. -/
def plainSetup : Setup := ⟨"locator.toml", none, none⟩

theorem exists_run_occupied :
    ∃ report later,
      (buildTree .unset "now" "src" (some "out") plainSetup).run occupied =
        .ok report later ∧
      later.file? ["w", "out", Manifest.fileName] ≠ some "x".toUTF8 := by
  -- The order of the files is known, so the rest of the build can be run.
  have ran : (do
      let prepared ← prepare plainSetup .unset
      let files ← [["A.vue"], ["b.ts"], ["i", "c.css"],
        [Manifest.fileName]].mapM (buildNamed prepared.2 "src" "out")
      let manifest :=
        manifestOf (← get) "now" "src" prepared.1.script.mode files
      change none fun disk => disk.ensureDirectories "out"
      change none fun disk => disk.writeText
        (Path.join "out" Manifest.fileName) manifest.toJson.pretty
      return decide ((← get).file? ["w", "out", Manifest.fileName] =
        some "x".toUTF8) : Work Bool).run' occupied = some false := by
    decide +kernel
  obtain ⟨_, ran⟩ := exists_of_run' ran
  obtain ⟨⟨configuration, hook⟩, _, prepared, ran⟩ := run_bind_eq_ok_iff.mp ran
  obtain ⟨rfl, loaded, known, rfl, given⟩ := run_prepare_eq_ok_iff.mp prepared
  obtain ⟨files, built, taken, ran⟩ := run_bind_eq_ok_iff.mp ran
  rw [run_get_bind] at ran
  obtain ⟨_, made, ensured, ran⟩ := run_bind_eq_ok_iff.mp ran
  obtain ⟨_, later, wrote, ran⟩ := run_bind_eq_ok_iff.mp ran
  rw [run_get_bind, run_pure_eq_ok_iff] at ran
  rw [run_change_eq_ok_iff] at ensured wrote
  have resolved : outputPath occupied (some "out") plainSetup = some "out" :=
    rfl
  rw [← sourceFiles_occupied] at taken
  refine ⟨_, later, (run_buildTree_eq_ok_iff resolved).mpr ⟨loaded, hook,
    files, built, known, given, ⟨by decide, taken, made, ensured, wrote⟩, rfl⟩,
    ?_⟩
  exact of_decide_eq_false ran.1

theorem delivers_occupied :
    IsBeside occupied "src" "out" ["w", "src"] ["w", "out"] ∧
      outputPath occupied (some "out") plainSetup = some "out" ∧
      ∃ report later,
        (buildTree .unset "now" "src" (some "out") plainSetup).run occupied =
          .ok report later ∧
        ∃ loaded hook manifest,
          Configuration.loadOrStandard occupied "locator.toml" = .ok loaded ∧
            Hook.ofConfiguration (configured plainSetup loaded)
              "development" = .ok hook ∧
            report = manifest.report "out" ∧
            Delivers hook occupied later ["w", "src"] ["w", "out"]
              manifest := by
  obtain ⟨report, later, ran, _⟩ := exists_run_occupied
  exact ⟨isBeside_occupied, rfl, report, later, ran,
    IsBeside.delivers isBeside_occupied rfl ran⟩

/-- A file with the name of the manifest is listed as a copy, but the manifest
is there instead of it. -/
theorem not_forall_delivered :
    ¬ ∀ (disk : Disk) (source output : String) (place root : Place),
      IsBeside disk source output place root →
      ∀ environment time chosen setup report later,
        outputPath disk chosen setup = some output →
        (buildTree environment time source chosen setup).run disk =
          .ok report later →
        ∃ hook manifest, report = Manifest.report manifest output ∧
          (manifest.files.map BuiltFile.names).Perm
            ((disk.filesBelow place).map Prod.fst) ∧
          ∀ file ∈ manifest.files,
            IsDelivered hook disk later (place ++ file.names)
              (root ++ file.names) file.status := by
  intro claim
  obtain ⟨report, later, ran, lost⟩ := exists_run_occupied
  obtain ⟨hook, manifest, _, listed, delivered⟩ :=
    claim _ _ _ _ _ isBeside_occupied _ _ _ _ _ _ rfl ran
  have member : [Manifest.fileName] ∈ manifest.files.map BuiltFile.names :=
    listed.mem_iff.mpr (by decide)
  obtain ⟨file, member, named⟩ := List.mem_map.mp member
  have stands := delivered file member
  rw [named] at stands
  have known : occupied.file? (["w", "src"] ++ [Manifest.fileName]) =
      some "x".toUTF8 := by decide
  apply lost
  -- No status helps: a text without brackets is not marked, and with any other
  -- status the bytes would be those of the source.
  generalize file.status = status at stands
  cases stands with
  | copied _ same copy => exact copy.trans (same.symm.trans known)
  | unchanged _ _ same copy => exact copy.trans (same.symm.trans known)
  | annotated _ marked same _ =>
      have plain := String.toByteArray_inj.mp
        (Option.some.inj (same.symm.trans known))
      have bare : Text.contains "x" "<" = false := by decide
      simp [plain, Hook.annotate, bare] at marked

end Command

end SourceMark
