import SourceMark.Command.Build
import SourceMark.Proofs.Files.Trees

/-!
# Builds, step by step

What becomes of a file depends on its place and its bytes only.  A build writes
that at the place with the same names below the output directory, and writes
nowhere else; and where it has been written, writing it again changes nothing.
-/

namespace SourceMark

namespace Command

open Files

section Runs

variable {First Second ε : Type} {disk later : Disk}

theorem run_bind_eq_ok_iff {first : Work First} {onwards : First → Work Second}
    {result : Second} :
    (first >>= onwards).run disk = .ok result later ↔
      ∃ found middle, first.run disk = .ok found middle ∧
        (onwards found).run middle = .ok result later := by
  rw [EStateM.run_bind]
  cases first.run disk with
  | ok found middle => simp
  | error fault middle => simp

theorem run_pure_eq_ok_iff {given result : First} :
    (pure given : Work First).run disk = .ok result later ↔
      given = result ∧ disk = later := by
  rw [EStateM.run_pure, EStateM.Result.ok.injEq]

theorem exists_of_run' {work : Work First} {result : First}
    (ran : work.run' disk = some result) :
    ∃ later, work.run disk = .ok result later := by
  have same : work.run' disk = EStateM.run' (fun _ => work.run disk) disk := rfl
  rw [same] at ran
  cases outcome : work.run disk with
  | ok found later =>
      rw [outcome] at ran
      obtain rfl : found = result := Option.some.inj ran
      exact ⟨later, rfl⟩
  | error fault later =>
      rw [outcome] at ran
      have impossible : (none : Option First) = some result := ran
      simp at impossible

theorem run_throw_ne_ok {fault : Fault} {result : First} :
    (throw fault : Work First).run disk ≠ .ok result later :=
  nofun

theorem run_get_bind {onwards : Disk → Work First} :
    (get >>= onwards).run disk = (onwards disk).run disk :=
  rfl

theorem run_change_eq_ok_iff {purpose : Option String}
    {step : Disk → Except Files.Fault Disk} {result : Unit} :
    (change purpose step).run disk = .ok result later ↔
      step disk = .ok later := by
  unfold change
  rw [run_get_bind]
  cases taken : step disk with
  | ok reached =>
      simp only [EStateM.run_set, EStateM.Result.ok.injEq, Except.ok.injEq,
        true_and]
  | error fault => simp

theorem run_change_then_eq_ok_iff {purpose : Option String}
    {step : Disk → Except Files.Fault Disk} {given result : First} :
    (do change purpose step; return given : Work First).run disk =
        .ok result later ↔
      given = result ∧ step disk = .ok later := by
  simp only [run_bind_eq_ok_iff, run_change_eq_ok_iff, run_pure_eq_ok_iff]
  constructor
  · rintro ⟨_, _, taken, rfl, rfl⟩
    exact ⟨rfl, taken⟩
  · rintro ⟨rfl, taken⟩
    exact ⟨(), later, taken, rfl, rfl⟩

theorem run_require_eq_ok_iff {fault : ε → Fault} {check : Except ε First}
    {result : First} :
    (require fault check).run disk = .ok result later ↔
      check = .ok result ∧ disk = later := by
  cases check with
  | ok value => simp [require]
  | error error => exact ⟨nofun, nofun⟩

theorem require_ok_bind {fault : ε → Fault} {value : First}
    {onwards : First → Work Second} :
    (require fault (.ok value) >>= onwards) = onwards value :=
  rfl

theorem run_mapM_nil_eq_ok_iff {step : First → Work Second}
    {results : List Second} :
    (([] : List First).mapM step).run disk = .ok results later ↔
      results = [] ∧ disk = later := by
  rw [List.mapM_nil, run_pure_eq_ok_iff, eq_comm]

theorem run_mapM_cons_eq_ok_iff {step : First → Work Second} {first : First}
    {rest : List First} {results : List Second} :
    ((first :: rest).mapM step).run disk = .ok results later ↔
      ∃ result middle others, (step first).run disk = .ok result middle ∧
        (rest.mapM step).run middle = .ok others later ∧
        results = result :: others := by
  simp only [List.mapM_cons, run_bind_eq_ok_iff, run_pure_eq_ok_iff]
  constructor
  · rintro ⟨result, middle, ran, others, _, onwards, rfl, rfl⟩
    exact ⟨result, middle, others, ran, onwards, rfl⟩
  · rintro ⟨result, middle, others, ran, onwards, rfl⟩
    exact ⟨result, middle, ran, others, later, onwards, rfl, rfl⟩

end Runs

/-! ## One file -/

/-- What becomes of the bytes of a file with an absolute path. -/
def outcome (hook : Hook) (identity : String) (bytes : ByteArray) :
    Except Failure (FileStatus × ByteArray) :=
  if hook.wants identity then
    match String.fromUTF8? bytes with
    | none => .ok (.copied, bytes)
    | some source =>
        match hook.annotate source identity with
        | .error failure => .error failure
        | .ok (some code) => .ok (.annotated, code.toUTF8)
        | .ok none => .ok (.unchanged, bytes)
  else
    .ok (.copied, bytes)

theorem toUTF8_of_fromUTF8? {bytes : ByteArray} {text : String}
    (read : String.fromUTF8? bytes = some text) : text.toUTF8 = bytes := by
  unfold String.fromUTF8? at read
  split at read
  · obtain rfl := Option.some.inj read
    rfl
  · simp at read

section Files

variable {hook : Hook} {source output target : String} {disk later : Disk}
  {place root : Place} {names : List String} {bytes written : ByteArray}
  {status : FileStatus} {file : BuiltFile}

/-- Writing what becomes of a file, elsewhere than at its own place. -/
theorem run_buildFile_eq_ok_iff (tree : disk.IsTree)
    (leads : disk.locate source = .ok place)
    (known : disk.file? place = some bytes)
    (apart : Path.place disk.current target ≠ place) :
    (buildFile hook source target).run disk = .ok status later ↔
      ∃ written,
        outcome hook (Disk.absolutePath place) bytes = .ok (status, written) ∧
          disk.write target written = .ok later := by
  -- Both ways of copying, with a purpose and without one, do the same.
  have copied (purpose : Option String) :
      (copyFile purpose source target).run disk = .ok status later ↔
        .copied = status ∧ disk.write target bytes = .ok later := by
    rw [copyFile, run_change_then_eq_ok_iff,
      Disk.copy_eq_write tree leads known apart]
  have identity := Disk.canonical_of_file? leads known
  rw [buildFile, run_get_bind]
  dsimp only
  rw [identity, outcome]
  cases wanted : hook.wants (Disk.absolutePath place) with
  | false => simp [copied]
  | true =>
      cases decoded : String.fromUTF8? bytes with
      | none =>
          have unread : disk.readText source = .error .notAText := by
            rw [Disk.readText, Disk.read_of_file? leads known]
            simp [decoded, bind, Except.bind, throw, throwThe,
              MonadExceptOf.throw]
          simp [unread, copied]
      | some text =>
          have read : disk.readText source = .ok text := by
            refine bind_eq_ok_iff.mpr
              ⟨bytes, Disk.read_of_file? leads known, ?_⟩
            rw [decoded]
            rfl
          simp only [read, Bool.not_true, Bool.false_eq_true, if_false,
            if_true]
          cases marked : hook.annotate text (Disk.absolutePath place) with
          | error failure =>
              rw [run_bind_eq_ok_iff]
              constructor
              · rintro ⟨_, _, checked, _⟩
                have passed := (run_require_eq_ok_iff.mp checked).1
                simp at passed
              · rintro ⟨_, refused, _⟩
                simp at refused
          | ok code =>
              rw [require_ok_bind]
              cases code with
              | none =>
                  rw [← toUTF8_of_fromUTF8? decoded,
                    run_change_then_eq_ok_iff]
                  simp [Disk.writeText]
              | some code =>
                  rw [run_change_then_eq_ok_iff]
                  simp [Disk.writeText]

/-! ## What is taken -/

/-- The names that lead from a place to another one below it. -/
def namesBelow (place other : Place) : Option (List String) :=
  if place.isPrefixOf other && other != place then
    some (other.drop place.length)
  else
    none

theorem namesBelow_eq_some_iff {other : Place} :
    namesBelow place other = some names ↔
      names ≠ [] ∧ place ++ names = other := by
  unfold namesBelow
  split
  · next below =>
      rw [Bool.and_eq_true, List.isPrefixOf_iff_prefix] at below
      obtain ⟨⟨rest, rfl⟩, apart⟩ := below
      rw [List.drop_left, Option.some.injEq, List.append_right_inj,
        eq_comm (a := rest)]
      refine ⟨fun same => ⟨?_, same⟩, And.right⟩
      rintro rfl
      simp [← same] at apart
  · next outside =>
      refine ⟨nofun, ?_⟩
      rintro ⟨filled, rfl⟩
      simp [filled] at outside

theorem filesBelow_names (disk : Disk) (place : Place) :
    (disk.filesBelow place).map Prod.fst =
      disk.places.filterMap (namesBelow place) := by
  rw [Disk.filesBelow, Disk.places, List.map_filterMap, List.filterMap_map]
  apply List.filterMap_congr
  intro file _
  simp only [Function.comp_apply, namesBelow]
  split
  · rfl
  · rfl

theorem find_of_isDirectory (leads : disk.locate source = .ok place)
    (directory : disk.isDirectory place = true) :
    disk.find source = .ok place := by
  refine Disk.find_eq_ok_iff.mpr ⟨leads, ?_⟩
  rw [Disk.holds, directory, Bool.or_true]

/-- The files that a build takes, in the order of the disk. -/
theorem sourceFiles_eq (found : disk.find source = .ok place) :
    sourceFiles disk source output =
      ((disk.places.filterMap (namesBelow place)).filter fun names =>
        !isOutput source output names).mergeSort Path.precedes := by
  rw [sourceFiles, found, ← filesBelow_names]

theorem mem_sourceFiles_iff (found : disk.find source = .ok place) :
    names ∈ sourceFiles disk source output ↔
      (names ≠ [] ∧ place ++ names ∈ disk.places) ∧
        isOutput source output names = false := by
  rw [sourceFiles_eq found, List.mem_mergeSort, List.mem_filter,
    List.mem_filterMap, Bool.not_eq_true']
  simp only [namesBelow_eq_some_iff]
  apply and_congr_left
  rintro -
  constructor
  · rintro ⟨_, listed, filled, rfl⟩
    exact ⟨filled, listed⟩
  · rintro ⟨filled, listed⟩
    exact ⟨_, listed, filled, rfl⟩

/-- Where the output path spells a place that is passed over: the parts of the
two paths agree for some number of names, which lead to the output directory. -/
theorem exists_of_isOutput (leads : disk.locate source = .ok place)
    (named : ∀ name ∈ names, IsName name)
    (passed : isOutput source output names = true) :
    ∃ inner, inner <+: names ∧
      Path.parts output = Path.parts source ++ inner ∧
      Path.place disk.current output = place ++ inner := by
  rw [isOutput, List.any_eq_true] at passed
  obtain ⟨count, _, same⟩ := passed
  have spelled := eq_of_beq same
  refine ⟨names.take count, List.take_prefix count names, spelled.symm, ?_⟩
  rw [Disk.place_of_locate leads]
  exact Path.place_eq_append_of_parts spelled.symm fun name member =>
    named name (List.mem_of_mem_take member)

theorem nodup_sourceFiles (tree : disk.IsTree)
    (found : disk.find source = .ok place) :
    (sourceFiles disk source output).Nodup := by
  rw [sourceFiles_eq found, (List.mergeSort_perm _ _).nodup_iff]
  apply List.Nodup.filter
  apply tree.unique.filterMap
  intro first second names here there
  rw [Option.mem_def, namesBelow_eq_some_iff] at here there
  exact here.2.symm.trans there.2

/-- The files are taken in ascending order, none of them twice. -/
theorem ascending_sourceFiles (tree : disk.IsTree)
    (found : disk.find source = .ok place) :
    (sourceFiles disk source output).Pairwise (List.Lex (· < ·)) := by
  have ordered : (sourceFiles disk source output).Pairwise fun first second =>
      Path.precedes first second = true := by
    rw [sourceFiles_eq found]
    exact Path.pairwise_mergeSort_precedes _
  have distinct : (sourceFiles disk source output).Nodup :=
    nodup_sourceFiles tree found
  exact (ordered.and distinct).imp fun ⟨before, apart⟩ =>
    (Path.precedes_iff.mp before).resolve_left apart

/-! ## A file below the source directory -/

/-- The disk has the source directory at one place, and the output path spells
another one. -/
structure IsSetUp (disk : Disk) (source output : String) (place root : Place) :
    Prop where
  tree : disk.IsTree
  source : disk.locate source = .ok place
  output : Path.place disk.current output = root
  apart : root ≠ place

namespace IsSetUp

variable (setUp : IsSetUp disk source output place root)
include setUp

theorem after {places : List Place}
    (writes : Disk.Writes places disk later) :
    IsSetUp later source output place root where
  tree := writes.tree setUp.tree
  source := writes.extension.locate setUp.source
  output := by
    rw [writes.extension.current]
    exact setUp.output
  apart := setUp.apart

theorem isName (listed : place ++ names ∈ disk.places) :
    ∀ name ∈ names, IsName name := fun name member =>
  setUp.tree.named (place ++ names) listed name
    (List.mem_append_right place member)

theorem place_target (named : ∀ name ∈ names, IsName name) :
    Path.place disk.current (Path.join output (Path.ofNames names)) =
      root ++ names := by
  rw [Path.place_join named, setUp.output]

end IsSetUp

/-- What makes the directory in which a file is written. -/
def ensureParent (target : String) (disk : Disk) : Except Files.Fault Disk :=
  match Path.parent? target with
  | some directory => disk.ensureDirectories directory
  | none => .ok disk

theorem writes_ensureParent (made : ensureParent target disk = .ok later) :
    Disk.Writes [] disk later := by
  unfold ensureParent at made
  split at made
  · exact Disk.writes_ensureDirectories made
  · obtain rfl := Except.ok.inj made
    exact .refl disk

/-- First the directory is made, then the file is written. -/
theorem run_buildNamed_iff_exists :
    (buildNamed hook source output names).run disk = .ok file later ↔
      file.names = names ∧ ∃ middle,
        ensureParent (Path.join output (Path.ofNames names)) disk =
            .ok middle ∧
          (buildFile hook (pathBelow source names)
            (Path.join output (Path.ofNames names))).run middle =
              .ok file.status later := by
  have onwards (work : Work FileStatus) (middle : Disk) :
      (do let status ← work; return ({ names, status } : BuiltFile)).run
          middle = .ok file later ↔
        file.names = names ∧ work.run middle = .ok file.status later := by
    simp only [run_bind_eq_ok_iff, run_pure_eq_ok_iff]
    constructor
    · rintro ⟨_, _, ran, rfl, rfl⟩
      exact ⟨rfl, ran⟩
    · rintro ⟨rfl, ran⟩
      exact ⟨file.status, later, ran, rfl, rfl⟩
  unfold buildNamed ensureParent
  dsimp only
  cases Path.parent? (Path.join output (Path.ofNames names)) with
  | none =>
      dsimp only
      rw [onwards]
      simp only [Except.ok.injEq, exists_eq_left']
  | some directory =>
      dsimp only
      rw [run_bind_eq_ok_iff]
      simp only [run_change_eq_ok_iff, onwards]
      constructor
      · rintro ⟨_, middle, made, same, ran⟩
        exact ⟨same, middle, made, ran⟩
      · rintro ⟨same, middle, made, ran⟩
        exact ⟨(), middle, made, same, ran⟩

theorem run_buildNamed_eq_ok_iff
    (setUp : IsSetUp disk source output place root)
    (known : disk.file? (place ++ names) = some bytes) :
    (buildNamed hook source output names).run disk = .ok file later ↔
      file.names = names ∧ ∃ written middle,
        outcome hook (Disk.absolutePath (place ++ names)) bytes =
            .ok (file.status, written) ∧
          ensureParent (Path.join output (Path.ofNames names)) disk =
            .ok middle ∧
          middle.write (Path.join output (Path.ofNames names)) written =
            .ok later := by
  have listed := Disk.mem_places_of_file? known
  have named := setUp.isName listed
  have built {middle : Disk} {status : FileStatus}
      (writes : Disk.Writes [] disk middle) :
      (buildFile hook (pathBelow source names)
          (Path.join output (Path.ofNames names))).run middle =
          .ok status later ↔
        ∃ written,
          outcome hook (Disk.absolutePath (place ++ names)) bytes =
              .ok (status, written) ∧
            middle.write (Path.join output (Path.ofNames names)) written =
              .ok later := by
    have next := setUp.after writes
    apply run_buildFile_eq_ok_iff next.tree
    · exact Disk.locate_names next.source (writes.stays _ listed) named
    · rw [writes.file?_eq setUp.tree List.not_mem_nil]
      exact known
    · rw [next.place_target named, Ne, List.append_left_inj]
      exact setUp.apart
  rw [run_buildNamed_iff_exists]
  apply and_congr_right
  rintro -
  constructor
  · rintro ⟨middle, made, ran⟩
    obtain ⟨written, became, wrote⟩ :=
      (built (writes_ensureParent made)).mp ran
    exact ⟨written, middle, became, made, wrote⟩
  · rintro ⟨written, middle, became, made, wrote⟩
    exact ⟨middle, made, (built (writes_ensureParent made)).mpr
      ⟨written, became, wrote⟩⟩

/-- What becomes of a file, by the bytes that a disk has for it. -/
def IsOutcome (hook : Hook) (disk : Disk) (place : Place) (file : BuiltFile)
    (written : ByteArray) : Prop :=
  ∃ bytes, disk.file? (place ++ file.names) = some bytes ∧
    outcome hook (Disk.absolutePath (place ++ file.names)) bytes =
      .ok (file.status, written)

theorem isOutcome_congr
    (same : later.file? (place ++ file.names) =
      disk.file? (place ++ file.names)) :
    IsOutcome hook later place file written ↔
      IsOutcome hook disk place file written := by
  rw [IsOutcome, IsOutcome, same]

/-- A file has been written into the output directory, so that it can be
written there again. -/
structure IsReady (disk : Disk) (output : String) (root : Place)
    (names : List String) : Prop where
  above : ∀ directory,
    Path.parent? (Path.join output (Path.ofNames names)) = some directory →
      disk.IsMade directory
  target : disk.IsReplaceable (Path.join output (Path.ofNames names))
    (root ++ names)

theorem IsReady.after (ready : IsReady disk output root names)
    {places : List Place} (writes : Disk.Writes places disk later) :
    IsReady later output root names where
  above directory parent :=
    (ready.above directory parent).extend writes.extension
  target := ready.target.after writes

theorem IsReady.ensureParent (ready : IsReady disk output root names) :
    ensureParent (Path.join output (Path.ofNames names)) disk = .ok disk := by
  unfold Command.ensureParent
  split
  · next directory parent =>
      exact (ready.above directory parent).ensureDirectories
  · rfl

/-- What taking one file does. -/
theorem of_run_buildNamed
    (setUp : IsSetUp disk source output place root)
    (listed : place ++ names ∈ disk.places)
    (ran : (buildNamed hook source output names).run disk = .ok file later) :
    file.names = names ∧ Disk.Writes [root ++ names] disk later ∧
      IsReady later output root names ∧
      ∃ written, IsOutcome hook disk place file written ∧
        later.file? (root ++ names) = some written := by
  obtain ⟨bytes, known⟩ := Disk.exists_file? listed
  obtain ⟨rfl, written, middle, became, made, wrote⟩ :=
    (run_buildNamed_eq_ok_iff setUp known).mp ran
  have first := writes_ensureParent made
  have next := setUp.after first
  have target := next.place_target (setUp.isName listed)
  have second := Disk.writes_write next.tree wrote
  obtain ⟨replaceable, put⟩ := Disk.isReplaceable_of_write wrote
  rw [target] at second replaceable put
  refine ⟨rfl, first.trans second, ⟨?_, replaceable⟩, written,
    ⟨bytes, known, became⟩, ?_⟩
  · intro directory parent
    rw [ensureParent, parent] at made
    exact (Disk.isMade_of_ensureDirectories made).extend second.extension
  · rw [put, Disk.file?_put]

/-- Taking a file again puts what is there already. -/
theorem run_buildNamed_of_isReady
    (setUp : IsSetUp disk source output place root)
    (became : IsOutcome hook disk place file written)
    (ready : IsReady disk output root file.names) :
    (buildNamed hook source output file.names).run disk =
      .ok file (disk.put (root ++ file.names) written) := by
  obtain ⟨bytes, known, became⟩ := became
  exact (run_buildNamed_eq_ok_iff setUp known).mpr ⟨rfl, written, disk, became,
    ready.ensureParent, ready.target.write setUp.tree written⟩

/-! ## All files -/

variable {list : List (List String)} {files : List BuiltFile}

/-- A build writes at the places of what it takes, and nowhere else. -/
theorem writes_of_run_mapM (setUp : IsSetUp disk source output place root)
    (listed : ∀ names ∈ list, place ++ names ∈ disk.places)
    (ran : (list.mapM (buildNamed hook source output)).run disk =
      .ok files later) :
    files.map BuiltFile.names = list ∧
      Disk.Writes (list.map (root ++ ·)) disk later ∧
      ∀ names ∈ list, root ++ names ∈ later.places := by
  induction list generalizing disk files with
  | nil =>
      obtain ⟨rfl, rfl⟩ := run_mapM_nil_eq_ok_iff.mp ran
      exact ⟨rfl, .refl disk, by simp⟩
  | cons names list induction =>
      obtain ⟨file, middle, others, first, rest, rfl⟩ :=
        run_mapM_cons_eq_ok_iff.mp ran
      obtain ⟨rfl, writes, ready, _⟩ :=
        of_run_buildNamed setUp (listed _ List.mem_cons_self) first
      obtain ⟨rfl, onwards, written⟩ := induction (setUp.after writes)
        (fun names member =>
          writes.stays _ (listed names (List.mem_cons_of_mem _ member))) rest
      refine ⟨rfl, writes.trans onwards, ?_⟩
      intro names member
      rcases List.mem_cons.mp member with rfl | member
      · exact onwards.stays _ ready.target.listed
      · exact written names member

/-- The sources lie outside the output directory, so a build ends with what
becomes of them as they were, each in its place. -/
theorem of_run_mapM (setUp : IsSetUp disk source output place root)
    (listed : ∀ names ∈ list, place ++ names ∈ disk.places)
    (outside : ∀ names ∈ list, ¬ root <+: place ++ names)
    (distinct : list.Nodup)
    (ran : (list.mapM (buildNamed hook source output)).run disk =
      .ok files later) :
    ∀ file ∈ files, IsReady later output root file.names ∧
      ∃ written, IsOutcome hook disk place file written ∧
        later.file? (root ++ file.names) = some written := by
  induction list generalizing disk files with
  | nil =>
      obtain ⟨rfl, rfl⟩ := run_mapM_nil_eq_ok_iff.mp ran
      simp
  | cons names list induction =>
      obtain ⟨file, middle, others, first, rest, rfl⟩ :=
        run_mapM_cons_eq_ok_iff.mp ran
      obtain ⟨rfl, writes, ready, written, became, put⟩ :=
        of_run_buildNamed setUp (listed _ List.mem_cons_self) first
      have next := setUp.after writes
      have stays : ∀ names ∈ list, place ++ names ∈ middle.places :=
        fun names member =>
          writes.stays _ (listed names (List.mem_cons_of_mem _ member))
      obtain ⟨unchanged, distinct⟩ := List.nodup_cons.mp distinct
      obtain ⟨whole, onwards, _⟩ := writes_of_run_mapM next stays rest
      intro other member
      rcases List.mem_cons.mp member with rfl | member
      -- The files behind this one have other names, and their sources are not
      -- where it was written.
      · refine ⟨ready.after onwards, written, became, ?_⟩
        rw [onwards.file?_eq next.tree]
        · exact put
        · simpa using unchanged
      · obtain ⟨ready, written, became, put⟩ := induction next stays
          (fun names member =>
            outside names (List.mem_cons_of_mem _ member)) distinct rest
          other member
        refine ⟨ready, written, (isOutcome_congr ?_).mp became, put⟩
        apply writes.file?_eq setUp.tree
        intro overwritten
        have inside := outside other.names (List.mem_cons_of_mem _ (by
          rw [← whole]
          exact List.mem_map_of_mem member))
        rw [List.mem_singleton.mp overwritten] at inside
        exact inside (List.prefix_append root _)

/-! ## A whole build -/

/-- A configuration with the mode that a command asks for. -/
def configured (setup : Setup) (loaded : Configuration) : Configuration :=
  { loaded with
    script := { loaded.script with
      mode := setup.mode.getD loaded.script.mode } }

theorem run_prepare_eq_ok_iff {setup : Setup} {environment : Environment}
    {configuration : Configuration} :
    (prepare setup environment).run disk = .ok (configuration, hook) later ↔
      disk = later ∧ ∃ loaded,
        Configuration.loadOrStandard disk setup.configuration = .ok loaded ∧
          configuration = configured setup loaded ∧
          Hook.ofConfiguration configuration
            (setup.environment.getD environment.forHooks) = .ok hook := by
  unfold prepare
  rw [run_get_bind]
  simp only [run_bind_eq_ok_iff, run_require_eq_ok_iff, run_pure_eq_ok_iff]
  constructor
  · rintro ⟨loaded, _, ⟨known, rfl⟩, _, _, ⟨given, rfl⟩, same, rfl⟩
    obtain ⟨rfl, rfl⟩ := Prod.mk.inj same
    exact ⟨rfl, loaded, known, rfl, given⟩
  · rintro ⟨rfl, loaded, known, rfl, given⟩
    exact ⟨loaded, disk, ⟨known, rfl⟩, hook, disk, ⟨given, rfl⟩, rfl, rfl⟩

/-- The path of the directory into which a build writes. -/
def outputPath (disk : Disk) (chosen : Option String) (setup : Setup) :
    Option String :=
  chosen.orElse fun _ =>
    match Configuration.loadOrStandard disk setup.configuration with
    | .ok loaded => loaded.output
    | .error _ => none

theorem isName_fileName : IsName Manifest.fileName := by decide

/-- The manifest of a build that left a disk. -/
def manifestOf (disk : Disk) (time source : String) (mode : Script.Mode)
    (files : List BuiltFile) : Manifest :=
  { time, source := disk.canonical source, mode, files }

/-- What a build says of its manifest. -/
def Manifest.report (manifest : Manifest) (output : String) : Report :=
  let counted := fun status => Text.numeral (manifest.count status)
  { output := "Build completed: " ++ counted .annotated ++ " annotated, " ++
      counted .unchanged ++ " unchanged, " ++ counted .copied ++
      " copied -> " ++ output ++ "\n"
    errors := "" }

/-- What a build with a hook does to a disk: from `disk` it takes files, which
gives `built`, and with the manifest it is `later`. -/
structure Builds (hook : Hook) (time source output : String)
    (mode : Script.Mode) (disk : Disk) (files : List BuiltFile)
    (built later : Disk) : Prop where
  there : disk.hasDirectory source = true
  taken : ((sourceFiles disk source output).mapM
    (buildNamed hook source output)).run disk = .ok files built
  written : ∃ made, built.ensureDirectories output = .ok made ∧
    made.writeText (Path.join output Manifest.fileName)
      (manifestOf built time source mode files).toJson.pretty = .ok later

theorem run_buildTree_eq_ok_iff {environment : Environment} {time : String}
    {chosen : Option String} {setup : Setup} {report : Report}
    (resolved : outputPath disk chosen setup = some output) :
    (buildTree environment time source chosen setup).run disk =
        .ok report later ↔
      ∃ loaded hook files built,
        Configuration.loadOrStandard disk setup.configuration = .ok loaded ∧
          Hook.ofConfiguration (configured setup loaded)
            (setup.environment.getD environment.forHooks) = .ok hook ∧
          Builds hook time source output (configured setup loaded).script.mode
            disk files built later ∧
          report = (manifestOf built time source
            (configured setup loaded).script.mode files).report output := by
  have settled {loaded : Configuration} (known :
      Configuration.loadOrStandard disk setup.configuration = .ok loaded) :
      (chosen.orElse fun _ => (configured setup loaded).output) =
        some output := by
    rw [outputPath, known] at resolved
    exact resolved
  unfold buildTree
  rw [run_bind_eq_ok_iff]
  constructor
  · rintro ⟨⟨configuration, hook⟩, middle, prepared, onwards⟩
    obtain ⟨rfl, loaded, known, rfl, given⟩ :=
      run_prepare_eq_ok_iff.mp prepared
    dsimp only at onwards
    rw [settled known] at onwards
    dsimp only at onwards
    rw [run_get_bind] at onwards
    split at onwards
    · obtain ⟨_, _, stopped, _⟩ := run_bind_eq_ok_iff.mp onwards
      exact absurd stopped run_throw_ne_ok
    · next there =>
        rw [run_get_bind] at onwards
        obtain ⟨files, built, taken, onwards⟩ := run_bind_eq_ok_iff.mp onwards
        rw [run_get_bind] at onwards
        obtain ⟨_, made, ensured, onwards⟩ := run_bind_eq_ok_iff.mp onwards
        obtain ⟨said, wrote⟩ := run_change_then_eq_ok_iff.mp onwards
        refine ⟨loaded, hook, files, built, known, given, ?_, said.symm⟩
        exact {
          there := by simpa using there
          taken := taken
          written := ⟨made, run_change_eq_ok_iff.mp ensured, wrote⟩ }
  · rintro ⟨loaded, hook, files, built, known, given, builds, rfl⟩
    obtain ⟨made, ensured, wrote⟩ := builds.written
    refine ⟨(configured setup loaded, hook), disk,
      run_prepare_eq_ok_iff.mpr ⟨rfl, loaded, known, rfl, given⟩, ?_⟩
    dsimp only
    rw [settled known]
    dsimp only
    rw [run_get_bind, builds.there, if_neg (by decide), run_get_bind]
    refine run_bind_eq_ok_iff.mpr ⟨files, built, builds.taken, ?_⟩
    rw [run_get_bind]
    exact run_bind_eq_ok_iff.mpr ⟨(), made, run_change_eq_ok_iff.mpr ensured,
      run_change_then_eq_ok_iff.mpr ⟨rfl, wrote⟩⟩

/-- Where a build writes lies in the output directory. -/
theorem prefix_of_mem_written {list : List (List String)} :
    ∀ other ∈ list.map (root ++ ·) ++ [root ++ [Manifest.fileName]],
      root <+: other := by
  intro other member
  rcases List.mem_append.mp member with copy | manifest
  · obtain ⟨names, _, rfl⟩ := List.mem_map.mp copy
    exact List.prefix_append root names
  · obtain rfl := List.mem_singleton.mp manifest
    exact List.prefix_append root _

namespace Builds

variable {time : String} {mode : Script.Mode} {built : Disk}
  (builds : Builds hook time source output mode disk files built later)
include builds

theorem find_source (found : disk.locate source = .ok place) :
    disk.find source = .ok place := by
  obtain ⟨other, leads, directory⟩ := Disk.hasDirectory_iff.mp builds.there
  obtain rfl := Except.ok.inj (found.symm.trans leads)
  exact find_of_isDirectory leads directory

theorem listed (found : disk.locate source = .ok place) :
    ∀ names ∈ sourceFiles disk source output, place ++ names ∈ disk.places :=
  fun _ member =>
    ((mem_sourceFiles_iff (builds.find_source found)).mp member).1.2

/-- The manifest comes last, and nothing else is written with it. -/
theorem of_written (setUp : IsSetUp disk source output place root) :
    Disk.Writes [root ++ [Manifest.fileName]] built later ∧
      later.IsMade output ∧
      later.IsReplaceable (Path.join output Manifest.fileName)
        (root ++ [Manifest.fileName]) ∧
      later.file? (root ++ [Manifest.fileName]) = some
        (manifestOf built time source mode files).toJson.pretty.toUTF8 := by
  obtain ⟨made, ensured, wrote⟩ := builds.written
  obtain ⟨_, first, _⟩ :=
    writes_of_run_mapM setUp (builds.listed setUp.source) builds.taken
  have second := Disk.writes_ensureDirectories ensured
  have next := (setUp.after first).after second
  have target : Path.place made.current (Path.join output Manifest.fileName) =
      root ++ [Manifest.fileName] := by
    have named : ∀ name ∈ [Manifest.fileName], IsName name := by
      simpa using isName_fileName
    have spelled := next.place_target named
    rw [Path.ofNames_singleton] at spelled
    exact spelled
  have third := Disk.writes_write next.tree wrote
  obtain ⟨replaceable, put⟩ := Disk.isReplaceable_of_write wrote
  rw [target] at third replaceable put
  refine ⟨second.trans third, ?_, replaceable, ?_⟩
  · exact (Disk.isMade_of_ensureDirectories ensured).extend third.extension
  · rw [put, Disk.file?_put]

/-- A build writes what it takes and the manifest, and nothing else. -/
theorem writes (setUp : IsSetUp disk source output place root) :
    files.map BuiltFile.names = sourceFiles disk source output ∧
      Disk.Writes ((sourceFiles disk source output).map (root ++ ·) ++
        [root ++ [Manifest.fileName]]) disk later ∧
      ∀ names ∈ sourceFiles disk source output,
        root ++ names ∈ later.places := by
  obtain ⟨whole, first, written⟩ :=
    writes_of_run_mapM setUp (builds.listed setUp.source) builds.taken
  have second := (builds.of_written setUp).1
  exact ⟨whole, first.trans second, fun names member =>
    second.stays _ (written names member)⟩

end Builds

end Files

end Command

end SourceMark
