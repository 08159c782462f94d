import SourceMark.Files.Disk

/-!
# Laws of disks

A disk keeps the directories that it has when a file is written or a directory
made.  A path leads on through directories only, so it goes on leading where it
led; and a file that could be written once can be read, and be written again.
-/

namespace SourceMark

namespace Text

theorem splitOn_ne_nil (separator : Char) (text : List Char) :
    splitOn separator text ≠ [] := by
  cases text with
  | nil => simp [splitOn]
  | cons character rest =>
      rw [splitOn]
      split
      · simp
      · split
        · simp
        · simp

/-- Only an empty text, or one that ends with the separator, has an empty last
piece. -/
theorem getLast?_of_getLast?_splitOn {separator : Char} {text : List Char}
    (last : (splitOn separator text).getLast? = some []) :
    text = [] ∨ text.getLast? = some separator := by
  induction text with
  | nil => exact .inl rfl
  | cons character rest induction =>
      right
      obtain ⟨piece, pieces, split⟩ :=
        List.exists_cons_of_ne_nil (splitOn_ne_nil separator rest)
      rw [split] at induction
      have ended : rest.getLast? = some separator →
          (character :: rest).getLast? = some separator := by
        intro ended
        rw [List.getLast?_cons, ended]
        rfl
      by_cases separates : character = separator
      · rw [splitOn, if_pos separates, split, List.getLast?_cons_cons] at last
        rcases induction last with rfl | found
        · rw [separates]
          rfl
        · exact ended found
      · rw [splitOn, if_neg separates, split] at last
        cases pieces with
        | nil => simp at last
        | cons second pieces =>
            rcases induction last with rfl | found
            · simp [splitOn] at split
            · exact ended found

end Text

namespace Files

section Runs

variable {First Second : Type}

theorem bind_eq_ok_iff {run : Except Fault First}
    {onwards : First → Except Fault Second} {result : Second} :
    (run >>= onwards) = .ok result ↔
      ∃ found, run = .ok found ∧ onwards found = .ok result := by
  cases run with
  | error fault => simp [bind, Except.bind]
  | ok found => simp [bind, Except.bind]

theorem throw_ne_ok {fault : Fault} {result : Second} :
    (throw fault : Except Fault Second) ≠ .ok result := by
  simp [throw, throwThe, MonadExceptOf.throw]

theorem pure_eq_ok_iff {given result : Second} :
    (pure given : Except Fault Second) = .ok result ↔ given = result := by
  simp [pure, Except.pure]

end Runs

namespace Disk

variable {disk later : Disk} {path : String} {place found : Place}

/-! ## Following a path -/

/-- Where a segment leads from a directory. -/
def next (place : Place) (segment : String) : Except Fault Place :=
  if Path.isIdle segment then
    .ok place
  else if segment = ".." then
    .ok place.dropLast
  else if nameLimit < segment.utf8ByteSize then
    .error .nameTooLong
  else
    .ok (place ++ [segment])

section Follow

variable {segment : String} {segments : List String}

theorem follow_cons (directory : disk.isDirectory place = true) :
    disk.follow place (segment :: segments) =
      (next place segment).bind fun reached => disk.follow reached segments := by
  rw [follow, directory, next]
  split
  · next absent => simp at absent
  · split
    · rfl
    · split
      · rfl
      · split
        · rfl
        · rfl

theorem isDirectory_of_follow
    (leads : disk.follow place (segment :: segments) = .ok found) :
    disk.isDirectory place = true := by
  cases directory : disk.isDirectory place with
  | true => rfl
  | false => simp [follow, directory] at leads

theorem exists_next_of_follow
    (leads : disk.follow place (segment :: segments) = .ok found) :
    ∃ reached, next place segment = .ok reached ∧
      disk.follow reached segments = .ok found := by
  rw [follow_cons (isDirectory_of_follow leads)] at leads
  exact bind_eq_ok_iff.mp leads

theorem follow_append_iff {first second : List String} :
    disk.follow place (first ++ second) = .ok found ↔
      ∃ reached, disk.follow place first = .ok reached ∧
        disk.follow reached second = .ok found := by
  induction first generalizing place with
  | nil => simp [follow]
  | cons segment segments induction =>
      rw [List.cons_append]
      constructor
      · intro leads
        have directory := isDirectory_of_follow leads
        obtain ⟨reached, stepped, onwards⟩ := exists_next_of_follow leads
        obtain ⟨middle, start, rest⟩ := induction.mp onwards
        refine ⟨middle, ?_, rest⟩
        rw [follow_cons directory, stepped]
        exact start
      · rintro ⟨middle, start, rest⟩
        have directory := isDirectory_of_follow start
        obtain ⟨reached, stepped, onwards⟩ := exists_next_of_follow start
        rw [follow_cons directory, stepped]
        exact induction.mpr ⟨middle, onwards, rest⟩

/-- Slashes lead from a directory to itself, and from nowhere else. -/
theorem follow_empty_iff {ends : List String}
    (empty : ∀ segment ∈ ends, segment.isEmpty = true) :
    disk.follow place ends = .ok found ↔
      found = place ∧ (ends = [] ∨ disk.isDirectory place = true) := by
  induction ends with
  | nil => simp [follow, eq_comm (a := found)]
  | cons segment segments induction =>
      have stays : next place segment = .ok place := by
        simp [next, Path.isIdle, empty segment List.mem_cons_self]
      have onwards := induction fun other member =>
        empty other (List.mem_cons_of_mem segment member)
      constructor
      · intro leads
        have directory := isDirectory_of_follow leads
        rw [follow_cons directory, stays] at leads
        exact ⟨(onwards.mp leads).1, .inr directory⟩
      · rintro ⟨same, reason⟩
        have directory := reason.resolve_left (List.cons_ne_nil _ _)
        rw [follow_cons directory, stays]
        exact onwards.mpr ⟨same, .inr directory⟩

end Follow

/-! ## Locating -/

theorem endsWith_of_getLast?_segments
    (last : (Path.segments path).getLast? = some "") :
    path = "" ∨ Text.endsWith path "/" = true := by
  rw [Path.segments, List.getLast?_map, Option.map_eq_some_iff] at last
  obtain ⟨piece, last, empty⟩ := last
  obtain rfl : piece = [] := by
    rw [← String.toList_ofList (l := piece), empty, String.toList_empty]
  rcases Text.getLast?_of_getLast?_splitOn last with nothing | slash
  · left
    exact String.toList_eq_nil_iff.mp nothing
  · right
    obtain ⟨before, whole⟩ := List.getLast?_eq_some_iff.mp slash
    rw [Text.endsWith, List.isSuffixOf_iff_suffix]
    exact ⟨before, whole.symm⟩

/-- The segments of a path are those that count where something new is put, and
empty ones behind them if the path ends with slashes. -/
theorem exists_segments (path : String) :
    ∃ ends, Path.segments path =
        ((Path.segments path).reverse.dropWhile String.isEmpty).reverse ++ ends ∧
      (∀ segment ∈ ends, segment.isEmpty = true) ∧
      (path ≠ "" → Text.endsWith path "/" = false → ends = []) := by
  generalize backwards : (Path.segments path).reverse = reversed
  have forwards : Path.segments path = reversed.reverse := by
    rw [← backwards, List.reverse_reverse]
  refine ⟨(reversed.takeWhile String.isEmpty).reverse, ?_, ?_, ?_⟩
  · rw [← List.reverse_append, List.takeWhile_append_dropWhile, forwards]
  · intro segment member
    exact List.all_eq_true.mp List.all_takeWhile segment
      (List.mem_reverse.mp member)
  · intro named unfinished
    cases reversed with
    | nil => rfl
    | cons last before =>
        cases empty : last.isEmpty with
        | false => simp [empty]
        | true =>
            have ends : (Path.segments path).getLast? = some "" := by
              rw [forwards, List.reverse_cons, List.getLast?_concat,
                String.isEmpty_iff.mp empty]
            rcases endsWith_of_getLast?_segments ends with nothing | slash
            · exact absurd nothing named
            · exact absurd (unfinished.symm.trans slash) (by decide)

theorem locate_of_locateNew (leads : disk.locateNew path = .ok place)
    (reason : disk.isDirectory place = true ∨
      Text.endsWith path "/" = false) :
    disk.locate path = .ok place := by
  obtain ⟨ends, whole, empty, unfinished⟩ := exists_segments path
  unfold locateNew at leads
  unfold locate
  split at leads
  · simp at leads
  · next named =>
      rw [if_neg named, whole, follow_append_iff]
      refine ⟨place, leads, (follow_empty_iff empty).mpr ⟨rfl, ?_⟩⟩
      rcases reason with directory | open_
      · exact .inr directory
      · exact .inl (unfinished (by simpa using named) open_)

theorem locateNew_of_locate (leads : disk.locate path = .ok place) :
    disk.locateNew path = .ok place := by
  obtain ⟨ends, whole, empty, _⟩ := exists_segments path
  unfold locate at leads
  unfold locateNew
  split at leads
  · simp at leads
  · next named =>
      rw [whole, follow_append_iff] at leads
      obtain ⟨reached, start, rest⟩ := leads
      obtain ⟨rfl, _⟩ := (follow_empty_iff empty).mp rest
      rw [if_neg named]
      exact start

theorem find_eq_ok_iff :
    disk.find path = .ok place ↔
      disk.locate path = .ok place ∧ disk.holds place = true := by
  simp only [find, bind_eq_ok_iff]
  constructor
  · rintro ⟨reached, leads, found⟩
    split at found
    · next there =>
        obtain rfl := pure_eq_ok_iff.mp found
        exact ⟨leads, there⟩
    · exact absurd found throw_ne_ok
  · rintro ⟨leads, there⟩
    exact ⟨place, leads, if_pos there⟩

theorem hasDirectory_iff :
    disk.hasDirectory path = true ↔
      ∃ place, disk.locate path = .ok place ∧
        disk.isDirectory place = true := by
  constructor
  · intro there
    unfold hasDirectory at there
    split at there
    · next place found => exact ⟨place, (find_eq_ok_iff.mp found).1, there⟩
    · simp at there
  · rintro ⟨place, leads, directory⟩
    have there : disk.holds place = true := by simp [holds, directory]
    rw [hasDirectory, find_eq_ok_iff.mpr ⟨leads, there⟩]
    exact directory

theorem hasPath_of_readText {text : String}
    (read : disk.readText path = .ok text) : disk.hasPath path = true := by
  obtain ⟨bytes, known, _⟩ := bind_eq_ok_iff.mp read
  obtain ⟨place, found, _⟩ := bind_eq_ok_iff.mp known
  rw [hasPath, found]
  rfl

/-! ## More directories -/

/-- The other disk has the same current directory and at least the same
directories. -/
structure Extends (later disk : Disk) : Prop where
  current : later.current = disk.current
  directories : ∀ place, disk.isDirectory place = true →
    later.isDirectory place = true

namespace Extends

theorem refl (disk : Disk) : Extends disk disk :=
  ⟨rfl, fun _ directory => directory⟩

theorem trans {last : Disk} (second : Extends last later)
    (first : Extends later disk) : Extends last disk :=
  ⟨second.current.trans first.current, fun place directory =>
    second.directories place (first.directories place directory)⟩

variable (extension : Extends later disk)
include extension

theorem follow {segments : List String}
    (leads : disk.follow place segments = .ok found) :
    later.follow place segments = .ok found := by
  induction segments generalizing place with
  | nil => exact leads
  | cons segment segments induction =>
      have directory := isDirectory_of_follow leads
      obtain ⟨reached, stepped, onwards⟩ := exists_next_of_follow leads
      rw [follow_cons (extension.directories place directory), stepped]
      exact induction onwards

theorem origin (path : String) : later.origin path = disk.origin path := by
  simp only [Disk.origin, extension.current]

theorem locate (leads : disk.locate path = .ok place) :
    later.locate path = .ok place := by
  unfold Disk.locate at leads ⊢
  rw [extension.origin path]
  split at leads
  · simp at leads
  · next named =>
      rw [if_neg named]
      exact extension.follow leads

theorem locateNew (leads : disk.locateNew path = .ok place) :
    later.locateNew path = .ok place := by
  unfold Disk.locateNew at leads ⊢
  rw [extension.origin path]
  split at leads
  · simp at leads
  · next named =>
      rw [if_neg named]
      exact extension.follow leads

theorem hasDirectory (there : disk.hasDirectory path = true) :
    later.hasDirectory path = true := by
  obtain ⟨place, leads, directory⟩ := hasDirectory_iff.mp there
  exact hasDirectory_iff.mpr
    ⟨place, extension.locate leads, extension.directories place directory⟩

end Extends

/-! ## Making directories -/

theorem makeDirectory_eq_ok_iff :
    disk.makeDirectory path = .ok later ↔
      ∃ place, disk.locateNew path = .ok place ∧ disk.holds place = false ∧
        later = { disk with directories := disk.directories ++ [place] } := by
  simp only [makeDirectory, bind_eq_ok_iff]
  constructor
  · rintro ⟨place, leads, made⟩
    split at made
    · exact absurd made throw_ne_ok
    · next free =>
        exact ⟨place, leads, Bool.eq_false_iff.mpr free,
          (pure_eq_ok_iff.mp made).symm⟩
  · rintro ⟨place, leads, free, rfl⟩
    exact ⟨place, leads, if_neg (Bool.eq_false_iff.mp free)⟩

theorem extends_makeDirectory (made : disk.makeDirectory path = .ok later) :
    Extends later disk ∧ later.hasDirectory path = true := by
  obtain ⟨place, leads, _, added⟩ := makeDirectory_eq_ok_iff.mp made
  have extension : Extends later disk := by
    subst added
    refine ⟨rfl, fun other directory => ?_⟩
    simp only [isDirectory, List.any_append, Bool.or_eq_true] at directory ⊢
    rcases directory with (root | listed) | above
    · exact .inl (.inl root)
    · exact .inl (.inr (.inl listed))
    · exact .inr above
  have directory : later.isDirectory place = true := by
    simp [added, isDirectory]
  refine ⟨extension, hasDirectory_iff.mpr ⟨place, ?_, directory⟩⟩
  exact locate_of_locateNew (extension.locateNew leads) (.inl directory)

theorem extends_ensureDirectory (made : disk.ensureDirectory path = .ok later) :
    Extends later disk ∧ later.hasDirectory path = true := by
  unfold ensureDirectory at made
  split at made
  · next new =>
      obtain rfl := Except.ok.inj made
      exact extends_makeDirectory new
  · split at made
    · next there =>
        obtain rfl := Except.ok.inj made
        exact ⟨.refl disk, there⟩
    · simp at made

/-- The empty path, which leads nowhere, is passed over on the way up. -/
theorem extends_ensureDirectoriesWithin {steps : Nat}
    (made : disk.ensureDirectoriesWithin steps path = .ok later) :
    Extends later disk ∧ (path ≠ "" → later.hasDirectory path = true) := by
  induction steps generalizing path later with
  | zero =>
      obtain ⟨extension, there⟩ := extends_ensureDirectory made
      exact ⟨extension, fun _ => there⟩
  | succ steps induction =>
      rw [ensureDirectoriesWithin] at made
      split at made
      · next unnamed =>
          obtain rfl := Except.ok.inj made
          exact ⟨.refl disk, fun named =>
            absurd (String.isEmpty_iff.mp unnamed) named⟩
      · split at made
        · split at made
          · next parent above =>
              obtain ⟨middle, outer, inner⟩ := bind_eq_ok_iff.mp made
              obtain ⟨first, _⟩ := induction outer
              obtain ⟨second, there⟩ := extends_ensureDirectory inner
              exact ⟨second.trans first, fun _ => there⟩
          · exact absurd made throw_ne_ok
        · obtain ⟨extension, there⟩ := extends_ensureDirectory made
          exact ⟨extension, fun _ => there⟩

theorem hasDirectory_of_ensureDirectories (named : path ≠ "")
    (made : disk.ensureDirectories path = .ok later) :
    later.hasDirectory path = true :=
  (extends_ensureDirectoriesWithin made).2 named

/-- A directory that is there is left as it is. -/
theorem ensureDirectories_of_hasDirectory
    (there : disk.hasDirectory path = true) :
    disk.ensureDirectories path = .ok disk := by
  obtain ⟨place, leads, directory⟩ := hasDirectory_iff.mp there
  have ensured : disk.ensureDirectory path = .ok disk := by
    unfold ensureDirectory
    split
    · next later made =>
        obtain ⟨_, leadsNew, free, _⟩ := makeDirectory_eq_ok_iff.mp made
        rw [locateNew_of_locate leads] at leadsNew
        obtain rfl := Except.ok.inj leadsNew
        simp [holds, directory] at free
    · rw [if_pos there]
  have named : path.isEmpty = false := by
    cases empty : path.isEmpty with
    | false => rfl
    | true => simp [locate, empty] at leads
  simp [ensureDirectories, ensureDirectoriesWithin, named, ensured]

/-! ## Writing files -/

section Put

variable (disk : Disk) (place : Place) (bytes : ByteArray)

theorem file?_put : (disk.put place bytes).file? place = some bytes := by
  unfold put
  split
  · next known =>
      simp only [file?] at known ⊢
      generalize disk.files = files at known ⊢
      induction files with
      | nil => simp at known
      | cons file files induction =>
          obtain ⟨name, old⟩ := file
          by_cases here : name = place
          · simp [here]
          · have elsewhere : (place == name) = false :=
              beq_false_of_ne (Ne.symm here)
            simp only [List.lookup_cons, elsewhere] at known
            simp only [List.map_cons, if_neg here, List.lookup_cons, elsewhere]
            exact induction known
  · next unknown =>
      rw [Bool.not_eq_true, Option.isSome_eq_false_iff,
        Option.isNone_iff_eq_none] at unknown
      simp only [file?] at unknown ⊢
      simp [List.lookup_append, unknown]

theorem mem_keys_put (other : Place) :
    other ∈ (disk.put place bytes).files.map Prod.fst ↔
      other = place ∨ other ∈ disk.files.map Prod.fst := by
  unfold put
  split
  · next known =>
      have replaced : (disk.files.map fun file =>
          if file.1 = place then (place, bytes) else file).map Prod.fst =
          disk.files.map Prod.fst := by
        rw [List.map_map]
        apply List.map_congr_left
        intro file _
        simp only [Function.comp_apply]
        split
        · next here => exact here.symm
        · rfl
      have listed : place ∈ disk.files.map Prod.fst := by
        obtain ⟨found, known⟩ := Option.isSome_iff_exists.mp known
        obtain ⟨before, after, whole, _⟩ := List.lookup_eq_some_iff.mp known
        rw [whole]
        simp
      rw [replaced]
      constructor
      · exact .inr
      · rintro (rfl | member)
        · exact listed
        · exact member
  · rw [List.map_append, List.mem_append, or_comm]
    simp

theorem isDirectory_iff (other : Place) :
    disk.isDirectory other = true ↔
      other = [] ∨ (∃ directory ∈ disk.directories, other <+: directory) ∨
        ∃ file ∈ disk.files.map Prod.fst, file ≠ other ∧ other <+: file := by
  simp [isDirectory, or_assoc]

theorem isDirectory_put (other : Place) :
    (disk.put place bytes).isDirectory other = true ↔
      disk.isDirectory other = true ∨ place ≠ other ∧ other <+: place := by
  have directories : (disk.put place bytes).directories = disk.directories := by
    unfold put
    split
    · rfl
    · rfl
  rw [isDirectory_iff, isDirectory_iff, directories]
  simp only [mem_keys_put]
  constructor
  · rintro (root | listed | ⟨file, rfl | member, above⟩)
    · exact .inl (.inl root)
    · exact .inl (.inr (.inl listed))
    · exact .inr above
    · exact .inl (.inr (.inr ⟨file, member, above⟩))
  · rintro ((root | listed | ⟨file, member, above⟩) | above)
    · exact .inl root
    · exact .inr (.inl listed)
    · exact .inr (.inr ⟨file, .inr member, above⟩)
    · exact .inr (.inr ⟨place, .inl rfl, above⟩)

theorem extends_put : Extends (disk.put place bytes) disk := by
  refine ⟨?_, fun other directory => ?_⟩
  · unfold put
    split
    · rfl
    · rfl
  · exact (isDirectory_put disk place bytes other).mpr (.inl directory)

theorem isDirectory_put_self :
    (disk.put place bytes).isDirectory place = disk.isDirectory place := by
  rw [Bool.eq_iff_iff, isDirectory_put]
  simp

end Put

/-- A path leads to a place at which a file can be written. -/
def IsWritable (disk : Disk) (path : String) : Prop :=
  ∃ place, disk.locateNew path = .ok place ∧
    disk.isDirectory place = false ∧ Text.endsWith path "/" = false

theorem write_eq_ok_iff {bytes : ByteArray} :
    disk.write path bytes = .ok later ↔
      ∃ place, disk.locateNew path = .ok place ∧
        disk.isDirectory place = false ∧ Text.endsWith path "/" = false ∧
        later = disk.put place bytes := by
  simp only [write, bind_eq_ok_iff]
  constructor
  · rintro ⟨place, leads, written⟩
    split at written
    · exact absurd written throw_ne_ok
    · next free =>
        rw [Bool.not_eq_true, Bool.or_eq_false_iff] at free
        exact ⟨place, leads, free.1, free.2, (pure_eq_ok_iff.mp written).symm⟩
  · rintro ⟨place, leads, free, unfinished, rfl⟩
    refine ⟨place, leads, if_neg ?_⟩
    simp [free, unfinished]

theorem isWritable_of_write {bytes : ByteArray}
    (written : disk.write path bytes = .ok later) : disk.IsWritable path := by
  obtain ⟨place, leads, free, unfinished, _⟩ := write_eq_ok_iff.mp written
  exact ⟨place, leads, free, unfinished⟩

/-- What is written can be read, and be written over. -/
theorem exists_write (writable : disk.IsWritable path) (bytes : ByteArray) :
    ∃ later, disk.write path bytes = .ok later ∧ Extends later disk ∧
      later.IsWritable path ∧ later.read path = .ok bytes := by
  obtain ⟨place, leads, free, unfinished⟩ := writable
  have extension := extends_put disk place bytes
  have again := extension.locateNew leads
  have found : (disk.put place bytes).find path = .ok place := by
    apply find_eq_ok_iff.mpr
    refine ⟨locate_of_locateNew again (.inr unfinished), ?_⟩
    simp [holds, file?_put]
  refine ⟨disk.put place bytes, ?_, extension, ?_, ?_⟩
  · exact write_eq_ok_iff.mpr ⟨place, leads, free, unfinished, rfl⟩
  · exact ⟨place, again, (isDirectory_put_self disk place bytes).trans free,
      unfinished⟩
  · apply bind_eq_ok_iff.mpr
    refine ⟨place, found, ?_⟩
    rw [file?_put]
    rfl

/-- A text that is written is read back. -/
theorem exists_writeText (writable : disk.IsWritable path) (text : String) :
    ∃ later, disk.writeText path text = .ok later ∧ Extends later disk ∧
      later.IsWritable path ∧ later.readText path = .ok text := by
  obtain ⟨later, written, extension, again, read⟩ :=
    exists_write writable text.toUTF8
  refine ⟨later, written, extension, again, ?_⟩
  have decoded : String.fromUTF8? text.toUTF8 = some text :=
    dif_pos text.isValidUTF8
  apply bind_eq_ok_iff.mpr
  refine ⟨text.toUTF8, read, ?_⟩
  rw [decoded]
  rfl

end Disk

end Files

end SourceMark
