import Mathlib.Data.List.Nodup
import SourceMark.Proofs.Files.Places

/-!
# Trees on a disk

A disk holds a tree: its files have places of their own, named as files can be,
and nothing lies below a file.  Directories that are made and files that are
written keep it one, and change nothing but the files that are written.
-/

namespace SourceMark

namespace Files

namespace Disk

variable {disk later : Disk} {path source target : String}
  {place found other : Place} {bytes : ByteArray}

/-- The places of the files. -/
def places (disk : Disk) : List Place :=
  disk.files.map Prod.fst

/-- What a disk holds is a tree. -/
structure IsTree (disk : Disk) : Prop where
  unique : disk.places.Nodup
  named : ∀ place ∈ disk.places, ∀ name ∈ place, IsName name
  flat : ∀ place ∈ disk.places, disk.isDirectory place = false
  current : ∀ name ∈ disk.current, IsName name
  here : disk.isDirectory disk.current = true

instance (disk : Disk) : Decidable disk.IsTree :=
  decidable_of_iff (disk.places.Nodup ∧
      (∀ place ∈ disk.places, ∀ name ∈ place, IsName name) ∧
      (∀ place ∈ disk.places, disk.isDirectory place = false) ∧
      (∀ name ∈ disk.current, IsName name) ∧
      disk.isDirectory disk.current = true)
    ⟨fun ⟨unique, named, flat, current, here⟩ =>
        ⟨unique, named, flat, current, here⟩,
      fun ⟨unique, named, flat, current, here⟩ =>
        ⟨unique, named, flat, current, here⟩⟩

/-! ## Files and their places -/

theorem mem_places_iff :
    place ∈ disk.places ↔ ∃ bytes, (place, bytes) ∈ disk.files := by
  simp [places]

theorem exists_file? (listed : place ∈ disk.places) :
    ∃ bytes, disk.file? place = some bytes := by
  cases known : disk.file? place with
  | some bytes => exact ⟨bytes, rfl⟩
  | none =>
      obtain ⟨bytes, member⟩ := mem_places_iff.mp listed
      rw [file?, List.lookup_eq_none_iff] at known
      simpa using known _ member

theorem mem_of_file? (known : disk.file? place = some bytes) :
    (place, bytes) ∈ disk.files := by
  obtain ⟨before, after, whole, _⟩ := List.lookup_eq_some_iff.mp known
  rw [whole]
  exact List.mem_append_right before List.mem_cons_self

theorem mem_places_of_file? (known : disk.file? place = some bytes) :
    place ∈ disk.places :=
  mem_places_iff.mpr ⟨bytes, mem_of_file? known⟩

theorem file?_isSome_iff :
    (disk.file? place).isSome = true ↔ place ∈ disk.places := by
  rw [Option.isSome_iff_exists]
  exact ⟨fun ⟨_, known⟩ => mem_places_of_file? known, exists_file?⟩

theorem IsTree.file?_eq_some_iff (tree : disk.IsTree) :
    disk.file? place = some bytes ↔ (place, bytes) ∈ disk.files := by
  constructor
  · exact mem_of_file?
  · intro member
    obtain ⟨found, known⟩ := exists_file? (mem_places_iff.mpr ⟨bytes, member⟩)
    have same := List.inj_on_of_nodup_map tree.unique (mem_of_file? known)
      member rfl
    rw [known]
    exact congrArg (some ·.2) same

/-- Disks with the same files in some region have the same file at each place
of the region. -/
theorem IsTree.file?_eq_of_filter (tree : disk.IsTree) (last : later.IsTree)
    (keep : Place → Bool) (kept : keep place = true)
    (same : later.files.filter (fun file => keep file.1) =
      disk.files.filter fun file => keep file.1) :
    later.file? place = disk.file? place := by
  have inside (files : List (Place × ByteArray)) (bytes : ByteArray) :
      (place, bytes) ∈ files ↔
        (place, bytes) ∈ files.filter fun file => keep file.1 := by
    rw [List.mem_filter, and_iff_left kept]
  apply Option.ext
  intro bytes
  rw [last.file?_eq_some_iff, tree.file?_eq_some_iff, inside, same, ← inside]

/-! ## Directories -/

theorem isDirectory_above (above : other <+: place)
    (directory : disk.isDirectory place = true) :
    disk.isDirectory other = true := by
  rw [isDirectory_iff] at directory ⊢
  rcases directory with rfl | ⟨made, listed, below⟩ | ⟨file, listed, ne, below⟩
  · exact .inl (List.prefix_nil.mp above)
  · exact .inr (.inl ⟨made, listed, above.trans below⟩)
  · refine .inr (.inr ⟨file, listed, ?_, above.trans below⟩)
    rintro rfl
    exact ne (below.eq_of_length_le above.length_le).symm

/-- There is a directory at a place, or the place lies in one. -/
def IsInDirectory (disk : Disk) (place : Place) : Prop :=
  disk.isDirectory place = true ∨ disk.isDirectory place.dropLast = true

theorem isInDirectory_of_follow {segments : List String}
    (leads : disk.follow place segments = .ok found)
    (start : disk.IsInDirectory place) : disk.IsInDirectory found := by
  induction segments generalizing place with
  | nil =>
      obtain rfl := Except.ok.inj leads
      exact start
  | cons segment segments induction =>
      have directory := isDirectory_of_follow leads
      obtain ⟨reached, stepped, onwards⟩ := exists_next_of_follow leads
      apply induction onwards
      rw [step_of_next stepped, Path.step]
      split
      · exact .inl directory
      · split
        · exact .inl (isDirectory_above (List.dropLast_prefix place)
            directory)
        · right
          rw [List.dropLast_concat]
          exact directory

theorem isName_of_follow {segments : List String}
    (leads : disk.follow place segments = .ok found)
    (start : ∀ name ∈ place, IsName name)
    (whole : ∀ segment ∈ segments, '/' ∉ segment.toList) :
    ∀ name ∈ found, IsName name := by
  induction segments generalizing place with
  | nil =>
      obtain rfl := Except.ok.inj leads
      exact start
  | cons segment segments induction =>
      obtain ⟨reached, stepped, onwards⟩ := exists_next_of_follow leads
      apply induction onwards _ fun other member =>
        whole other (List.mem_cons_of_mem segment member)
      unfold next at stepped
      split at stepped
      · obtain rfl := Except.ok.inj stepped
        exact start
      · next busy =>
          split at stepped
          · obtain rfl := Except.ok.inj stepped
            intro name member
            exact start name (List.dropLast_subset place member)
          · next inside =>
              split at stepped
              · simp at stepped
              · next short =>
                  obtain rfl := Except.ok.inj stepped
                  intro name member
                  rcases List.mem_append.mp member with before | last
                  · exact start name before
                  · obtain rfl := List.mem_singleton.mp last
                    exact {
                      leads := Bool.eq_false_iff.mpr busy
                      below := inside
                      whole := whole name List.mem_cons_self
                      short := Nat.not_lt.mp short }

namespace IsTree

variable (tree : disk.IsTree)
include tree

theorem isDirectory_origin (path : String) :
    disk.isDirectory (disk.origin path) = true := by
  unfold origin
  split
  · rfl
  · exact tree.here

theorem isInDirectory_of_locateNew
    (leads : disk.locateNew path = .ok place) : disk.IsInDirectory place := by
  unfold locateNew at leads
  split at leads
  · simp at leads
  · exact isInDirectory_of_follow leads (.inl (tree.isDirectory_origin path))

/-- No new place lies below a file. -/
theorem not_prefix_of_locateNew (leads : disk.locateNew path = .ok place)
    (free : disk.isDirectory place = false) (listed : other ∈ disk.places)
    (apart : other ≠ place) : ¬ other <+: place := by
  intro above
  have inside : disk.isDirectory place.dropLast = true := by
    refine (tree.isInDirectory_of_locateNew leads).resolve_left ?_
    rw [free]
    exact Bool.false_ne_true
  have directory : disk.isDirectory other = true := by
    obtain rfl | ⟨front, last, rfl⟩ := List.eq_nil_or_concat' place
    · exact absurd (List.prefix_nil.mp above) apart
    · rw [List.dropLast_concat] at inside
      exact isDirectory_above
        ((List.prefix_concat_iff.mp above).resolve_left apart) inside
  rw [tree.flat other listed] at directory
  exact Bool.false_ne_true directory

theorem isName_of_locateNew (leads : disk.locateNew path = .ok place) :
    ∀ name ∈ place, IsName name := by
  obtain ⟨ends, whole, _, _⟩ := exists_segments path
  unfold locateNew at leads
  split at leads
  · simp at leads
  · apply isName_of_follow leads
    · unfold origin
      split
      · simp
      · exact tree.current
    · intro segment member
      have inside : segment ∈ Path.segments path := by
        rw [whole]
        exact List.mem_append_left ends member
      exact Path.whole_of_mem_segments inside

end IsTree

/-! ## Putting files -/

theorem mem_places_put :
    other ∈ (disk.put place bytes).places ↔
      other = place ∨ other ∈ disk.places :=
  mem_keys_put disk place bytes other

theorem places_put_of_mem (listed : place ∈ disk.places) :
    (disk.put place bytes).places = disk.places := by
  rw [put, if_pos (file?_isSome_iff.mpr listed), places, List.map_map]
  apply List.map_congr_left
  intro file _
  by_cases here : file.1 = place
  · simp [here]
  · simp [here]

theorem places_put_of_not_mem (fresh : place ∉ disk.places) :
    (disk.put place bytes).places = disk.places ++ [place] := by
  rw [put, if_neg (fresh ∘ file?_isSome_iff.mp), places, List.map_append]
  rfl

theorem put_put (disk : Disk) (place : Place) (first second : ByteArray) :
    (disk.put place first).put place second = disk.put place second := by
  have listed : place ∈ (disk.put place first).places :=
    mem_places_put.mpr (.inl rfl)
  rw [put, if_pos (file?_isSome_iff.mpr listed)]
  by_cases known : place ∈ disk.places
  · simp only [put, if_pos (file?_isSome_iff.mpr known), List.map_map]
    congr 1
    apply List.map_congr_left
    intro file _
    by_cases here : file.1 = place
    · simp [here]
    · simp [here]
  · simp only [put, if_neg (known ∘ file?_isSome_iff.mp), List.map_append]
    have kept (file : Place × ByteArray) (member : file ∈ disk.files) :
        (if file.1 = place then (place, second) else file) = file := by
      refine if_neg ?_
      rintro rfl
      exact known (mem_places_iff.mpr ⟨file.2, member⟩)
    rw [List.map_congr_left kept]
    simp

theorem IsTree.put_eq_self (tree : disk.IsTree)
    (known : disk.file? place = some bytes) : disk.put place bytes = disk := by
  have same (file : Place × ByteArray) (member : file ∈ disk.files) :
      (if file.1 = place then (place, bytes) else file) = file := by
    split
    · next here =>
        have found : disk.file? place = some file.2 := by
          rw [tree.file?_eq_some_iff, ← here]
          exact member
        rw [known] at found
        rw [← here, Option.some.inj found]
    · rfl
  rw [put, if_pos (by rw [known]; rfl), List.map_congr_left same]
  simp

theorem filter_put {keep : Place → Bool} (passed : keep place = false) :
    (disk.put place bytes).files.filter (fun file => keep file.1) =
      disk.files.filter fun file => keep file.1 := by
  unfold put
  split
  · simp only [List.filter_map]
    have stays (file : Place × ByteArray) :
        keep (if file.1 = place then (place, bytes) else file).1 =
          keep file.1 := by
      split
      · next here => rw [here]
      · rfl
    simp only [Function.comp_def, stays]
    conv_rhs => rw [← List.map_id (List.filter _ disk.files)]
    apply List.map_congr_left
    intro file member
    have kept : keep file.1 = true := (List.mem_filter.mp member).2
    refine if_neg ?_
    rintro rfl
    rw [passed] at kept
    exact Bool.false_ne_true kept
  · simp [passed]

/-- A file put where a directory has room for it leaves a tree. -/
theorem IsTree.put (tree : disk.IsTree)
    (leads : disk.locateNew path = .ok place)
    (free : disk.isDirectory place = false) :
    (disk.put place bytes).IsTree := by
  have extension := extends_put disk place bytes
  refine { unique := ?_, named := ?_, flat := ?_, current := ?_, here := ?_ }
  · by_cases listed : place ∈ disk.places
    · rw [places_put_of_mem listed]
      exact tree.unique
    · rw [places_put_of_not_mem listed]
      rw [← List.concat_eq_append]
      exact tree.unique.concat listed
  · intro other listed
    rcases mem_places_put.mp listed with rfl | listed
    · exact tree.isName_of_locateNew leads
    · exact tree.named other listed
  · intro other listed
    by_cases here : other = place
    · rw [here, isDirectory_put_self]
      exact free
    · have known := (mem_places_put.mp listed).resolve_left here
      rw [Bool.eq_false_iff]
      intro directory
      rcases (isDirectory_put disk place bytes other).mp directory with
        before | ⟨_, above⟩
      · rw [tree.flat other known] at before
        exact Bool.false_ne_true before
      · exact tree.not_prefix_of_locateNew leads free known here above
  · rw [extension.current]
    exact tree.current
  · rw [extension.current]
    exact extension.directories disk.current tree.here

/-! ## What writing changes -/

/-- A disk came from another one: directories were made, and files were written
at some places only. -/
structure Writes (written : List Place) (disk later : Disk) : Prop where
  extension : Extends later disk
  tree : disk.IsTree → later.IsTree
  stays : ∀ place ∈ disk.places, place ∈ later.places
  kept : ∀ keep : Place → Bool, (∀ place ∈ written, keep place = false) →
    later.files.filter (fun file => keep file.1) =
      disk.files.filter fun file => keep file.1

namespace Writes

variable {written more : List Place} {last : Disk}

theorem refl (disk : Disk) : Writes [] disk disk :=
  ⟨.refl disk, id, fun _ => id, fun _ _ => rfl⟩

theorem trans (first : Writes written disk later)
    (second : Writes more later last) : Writes (written ++ more) disk last where
  extension := second.extension.trans first.extension
  tree := second.tree ∘ first.tree
  stays place listed := second.stays place (first.stays place listed)
  kept keep passed := by
    rw [second.kept keep fun place member =>
      passed place (List.mem_append_right written member)]
    exact first.kept keep fun place member =>
      passed place (List.mem_append_left more member)

theorem file?_eq (writes : Writes written disk later) (tree : disk.IsTree)
    (apart : place ∉ written) : later.file? place = disk.file? place := by
  have same := writes.kept (fun other => other == place) fun other member => by
    apply beq_false_of_ne
    rintro rfl
    exact apart member
  exact tree.file?_eq_of_filter (writes.tree tree)
    (fun other => other == place) (beq_self_eq_true place) same

/-- What lies below a place stays, in the same order, if nothing is written
there. -/
theorem filesBelow_eq (writes : Writes written disk later)
    (outside : ∀ other ∈ written, ¬ place <+: other) :
    later.filesBelow place = disk.filesBelow place := by
  have same := writes.kept place.isPrefixOf fun other member =>
    Bool.eq_false_iff.mpr fun below =>
      outside other member (List.isPrefixOf_iff_prefix.mp below)
  have inside (disk : Disk) : disk.filesBelow place =
      (disk.files.filter fun file => place.isPrefixOf file.1).filterMap
        fun file =>
          if file.1 != place then some (file.1.drop place.length, file.2)
          else none := by
    rw [filesBelow, List.filterMap_filter]
    apply List.filterMap_congr
    intro file _
    cases place.isPrefixOf file.1 with
    | true => rfl
    | false => rfl
  rw [inside, inside, same]

end Writes

theorem writes_put (tree : disk.IsTree)
    (leads : disk.locateNew path = .ok place)
    (free : disk.isDirectory place = false) :
    Writes [place] disk (disk.put place bytes) where
  extension := extends_put disk place bytes
  tree _ := tree.put leads free
  stays _ listed := mem_places_put.mpr (.inr listed)
  kept _ passed := filter_put (passed place List.mem_cons_self)

theorem writes_write (tree : disk.IsTree)
    (wrote : disk.write path bytes = .ok later) :
    Writes [Path.place disk.current path] disk later := by
  obtain ⟨place, leads, free, _, rfl⟩ := write_eq_ok_iff.mp wrote
  rw [← place_of_locateNew leads]
  exact writes_put tree leads free

theorem writes_makeDirectory (made : disk.makeDirectory path = .ok later) :
    Writes [] disk later := by
  have extension := (extends_makeDirectory made).1
  obtain ⟨place, leads, free, rfl⟩ := makeDirectory_eq_ok_iff.mp made
  rw [holds, Bool.or_eq_false_iff] at free
  refine ⟨extension, fun tree => ?_, fun _ => id, fun _ _ => rfl⟩
  have outside : ∀ other ∈ disk.places, ¬ other <+: place := by
    intro other listed
    refine tree.not_prefix_of_locateNew leads free.2 listed ?_
    rintro rfl
    rw [file?_isSome_iff.mpr listed] at free
    exact Bool.false_ne_true free.1.symm
  refine {
    unique := tree.unique
    named := tree.named
    flat := ?_
    current := tree.current
    here := extension.directories disk.current tree.here }
  intro other listed
  have old := tree.flat other listed
  simp only [isDirectory, List.any_append, Bool.or_eq_false_iff] at old ⊢
  refine ⟨⟨old.1.1, old.1.2, ?_⟩, old.2⟩
  rw [List.any_cons, List.any_nil, Bool.or_false, Bool.eq_false_iff, Ne,
    List.isPrefixOf_iff_prefix]
  exact outside other listed

theorem writes_ensureDirectory
    (made : disk.ensureDirectory path = .ok later) : Writes [] disk later := by
  unfold ensureDirectory at made
  split at made
  · next new =>
      obtain rfl := Except.ok.inj made
      exact writes_makeDirectory new
  · split at made
    · obtain rfl := Except.ok.inj made
      exact .refl disk
    · simp at made

theorem writes_ensureDirectoriesWithin {steps : Nat}
    (made : disk.ensureDirectoriesWithin steps path = .ok later) :
    Writes [] disk later := by
  induction steps generalizing path later with
  | zero => exact writes_ensureDirectory made
  | succ steps induction =>
      rw [ensureDirectoriesWithin] at made
      split at made
      · obtain rfl := Except.ok.inj made
        exact .refl disk
      · split at made
        · split at made
          · obtain ⟨middle, outer, inner⟩ := bind_eq_ok_iff.mp made
            exact (induction outer).trans (writes_ensureDirectory inner)
          · exact absurd made throw_ne_ok
        · exact writes_ensureDirectory made

theorem writes_ensureDirectories
    (made : disk.ensureDirectories path = .ok later) : Writes [] disk later :=
  writes_ensureDirectoriesWithin made

/-! ## Writing again -/

/-- There is nothing to make for a path: it is empty, or leads to a
directory. -/
def IsMade (disk : Disk) (path : String) : Prop :=
  path = "" ∨ disk.hasDirectory path = true

theorem IsMade.ensureDirectories (made : disk.IsMade path) :
    disk.ensureDirectories path = .ok disk := by
  rcases made with rfl | there
  · rfl
  · exact ensureDirectories_of_hasDirectory there

theorem IsMade.extend (made : disk.IsMade path)
    (extension : Extends later disk) : later.IsMade path :=
  made.imp_right extension.hasDirectory

theorem isMade_of_ensureDirectories
    (made : disk.ensureDirectories path = .ok later) : later.IsMade path := by
  by_cases empty : path = ""
  · exact .inl empty
  · exact .inr (hasDirectory_of_ensureDirectories empty made)

/-- A path leads to a file that writing replaces. -/
structure IsReplaceable (disk : Disk) (path : String) (place : Place) :
    Prop where
  leads : disk.locateNew path = .ok place
  unfinished : Text.endsWith path "/" = false
  listed : place ∈ disk.places

namespace IsReplaceable

variable (replaceable : disk.IsReplaceable path place)
include replaceable

theorem write (tree : disk.IsTree) (bytes : ByteArray) :
    disk.write path bytes = .ok (disk.put place bytes) :=
  write_eq_ok_iff.mpr ⟨place, replaceable.leads,
    tree.flat place replaceable.listed, replaceable.unfinished, rfl⟩

theorem writes_put (tree : disk.IsTree) (bytes : ByteArray) :
    Writes [place] disk (disk.put place bytes) :=
  Disk.writes_put tree replaceable.leads
    (tree.flat place replaceable.listed)

theorem after {written : List Place} (writes : Writes written disk later) :
    later.IsReplaceable path place where
  leads := writes.extension.locateNew replaceable.leads
  unfinished := replaceable.unfinished
  listed := writes.stays place replaceable.listed

end IsReplaceable

theorem isReplaceable_of_write (wrote : disk.write path bytes = .ok later) :
    later.IsReplaceable path (Path.place disk.current path) ∧
      later = disk.put (Path.place disk.current path) bytes := by
  obtain ⟨place, leads, _, unfinished, rfl⟩ := write_eq_ok_iff.mp wrote
  rw [← place_of_locateNew leads]
  refine ⟨{
    leads := (extends_put disk place bytes).locateNew leads
    unfinished := unfinished
    listed := mem_places_put.mpr (.inl rfl) }, rfl⟩

/-! ## Reading and copying -/

theorem find_of_file? (leads : disk.locate path = .ok place)
    (known : disk.file? place = some bytes) : disk.find path = .ok place := by
  refine find_eq_ok_iff.mpr ⟨leads, ?_⟩
  rw [holds, known]
  rfl

theorem read_of_file? (leads : disk.locate path = .ok place)
    (known : disk.file? place = some bytes) : disk.read path = .ok bytes := by
  refine bind_eq_ok_iff.mpr ⟨place, find_of_file? leads known, ?_⟩
  rw [known]
  rfl

theorem canonical_of_file? (leads : disk.locate path = .ok place)
    (known : disk.file? place = some bytes) :
    disk.canonical path = absolutePath place := by
  rw [canonical, find_of_file? leads known]

/-- Copying a file elsewhere is writing its bytes there. -/
theorem copy_eq_write (tree : disk.IsTree)
    (leads : disk.locate source = .ok place)
    (known : disk.file? place = some bytes)
    (apart : Path.place disk.current target ≠ place) :
    disk.copy source target = disk.write target bytes := by
  cases located : disk.locateNew target with
  | error fault =>
      simp [copy, write, read_of_file? leads known, located, bind, Except.bind]
  | ok reached =>
      have elsewhere : place ∉ [reached] := by
        rw [place_of_locateNew located, List.mem_singleton]
        exact Ne.symm apart
      by_cases free : disk.isDirectory reached = false ∧
          Text.endsWith target "/" = false
      · have wrote (bytes : ByteArray) :
            disk.write target bytes = .ok (disk.put reached bytes) :=
          write_eq_ok_iff.mpr ⟨reached, located, free.1, free.2, rfl⟩
        have writes : Writes [reached] disk (disk.put reached .empty) :=
          writes_put tree located free.1
        have read : (disk.put reached .empty).read source = .ok bytes :=
          read_of_file? (writes.extension.locate leads)
            ((writes.file?_eq tree elsewhere).trans known)
        have again : (disk.put reached .empty).write target bytes =
            .ok (disk.put reached bytes) := by
          refine write_eq_ok_iff.mpr ⟨reached,
            writes.extension.locateNew located, ?_, free.2,
            (put_put disk reached .empty bytes).symm⟩
          rw [isDirectory_put_self]
          exact free.1
        rw [wrote, copy, bind_eq_ok_iff]
        refine ⟨bytes, read_of_file? leads known, ?_⟩
        rw [bind_eq_ok_iff]
        refine ⟨disk.put reached .empty, wrote .empty, ?_⟩
        rw [bind_eq_ok_iff]
        exact ⟨bytes, read, again⟩
      · have refused : (disk.isDirectory reached ||
            Text.endsWith target "/") = true := by
          rw [not_and_or, Bool.not_eq_false, Bool.not_eq_false] at free
          exact Bool.or_eq_true_iff.mpr free
        simp [copy, write, read_of_file? leads known, located, refused, bind,
          Except.bind, throw, throwThe, MonadExceptOf.throw]

end Disk

end Files

end SourceMark
