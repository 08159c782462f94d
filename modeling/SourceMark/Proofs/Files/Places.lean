import SourceMark.Proofs.Files.Disks
import SourceMark.Proofs.Text.Pieces

/-!
# The places that paths spell

Read without a disk, a path spells one place, seen from a current directory.  A
disk leads it there or nowhere.  Spellings with the same parts spell the same
place; the converse fails, since a relative path and an absolute one, or paths
with and without a dot in front, have different parts.
-/

namespace SourceMark

namespace Files

/-- A name that something on a disk can have. -/
structure IsName (name : String) : Prop where
  leads : Path.isIdle name = false
  below : name ≠ ".."
  whole : '/' ∉ name.toList
  short : name.utf8ByteSize ≤ Disk.nameLimit

instance (name : String) : Decidable (IsName name) :=
  decidable_of_iff (Path.isIdle name = false ∧ name ≠ ".." ∧
      '/' ∉ name.toList ∧ name.utf8ByteSize ≤ Disk.nameLimit)
    ⟨fun ⟨leads, below, whole, short⟩ => ⟨leads, below, whole, short⟩,
      fun ⟨leads, below, whole, short⟩ => ⟨leads, below, whole, short⟩⟩

theorem IsName.ne_empty {name : String} (named : IsName name) : name ≠ "" := by
  rintro rfl
  exact absurd named.leads (by decide)

namespace Path

/-- Where a segment leads, names of any length included. -/
def step (place : Place) (segment : String) : Place :=
  if isIdle segment then
    place
  else if segment = ".." then
    place.dropLast
  else
    place ++ [segment]

/-- Where segments lead. -/
def resolve (place : Place) (segments : List String) : Place :=
  segments.foldl step place

/-- The place that a path spells. -/
def place (current : Place) (path : String) : Place :=
  resolve (if isAbsolute path then [] else current) (segments path)

variable {base path : String} {names : List String} {current start : Place}

/-! ## Resolving segments -/

theorem resolve_append (start : Place) (first second : List String) :
    resolve start (first ++ second) = resolve (resolve start first) second :=
  List.foldl_append

theorem step_of_isIdle {segment : String} (idle : isIdle segment = true) :
    step start segment = start :=
  if_pos idle

theorem step_of_isName {name : String} (named : IsName name) :
    step start name = start ++ [name] := by
  rw [step, named.leads, if_neg Bool.false_ne_true, if_neg named.below]

theorem resolve_names (named : ∀ name ∈ names, IsName name) :
    resolve start names = start ++ names := by
  induction names generalizing start with
  | nil => exact (List.append_nil start).symm
  | cons name names induction =>
      have stepped : step start name = start ++ [name] :=
        step_of_isName (named name List.mem_cons_self)
      have rest : resolve (start ++ [name]) names = start ++ [name] ++ names :=
        induction fun other member =>
          named other (List.mem_cons_of_mem name member)
      rw [resolve] at rest
      rw [resolve, List.foldl_cons, stepped, rest, List.append_assoc,
        List.singleton_append]

theorem resolve_filter (start : Place) (segments : List String) :
    resolve start (segments.filter fun segment => !isIdle segment) =
      resolve start segments := by
  induction segments generalizing start with
  | nil => rfl
  | cons segment segments induction =>
      cases idle : isIdle segment with
      | true =>
          rw [List.filter_cons_of_neg (by simp [idle]), induction, resolve,
            resolve, List.foldl_cons, step_of_isIdle idle]
      | false =>
          rw [List.filter_cons_of_pos (by simp [idle]), resolve, resolve,
            List.foldl_cons, List.foldl_cons]
          exact induction (step start segment)

theorem resolve_idle {ends : List String}
    (idle : ∀ segment ∈ ends, segment.isEmpty = true) :
    resolve start ends = start := by
  induction ends with
  | nil => rfl
  | cons segment ends induction =>
      have stays : step start segment = start :=
        step_of_isIdle (by simp [isIdle, idle segment List.mem_cons_self])
      rw [resolve, List.foldl_cons, stays]
      exact induction fun other member =>
        idle other (List.mem_cons_of_mem segment member)

/-! ## Segments -/

theorem segments_ne_nil (path : String) : segments path ≠ [] := by
  rw [segments, Ne, List.map_eq_nil_iff]
  exact Text.splitOn_ne_nil '/' path.toList

theorem whole_of_mem_segments {segment : String}
    (member : segment ∈ segments path) : '/' ∉ segment.toList := by
  obtain ⟨piece, split, rfl⟩ := List.mem_map.mp member
  rw [String.toList_ofList]
  exact Text.not_mem_of_mem_splitOn split

theorem segments_append (first second : String) :
    segments (first ++ "/" ++ second) = segments first ++ segments second := by
  have slash : "/".toList = ['/'] := rfl
  rw [segments, segments, segments, String.toList_append,
    String.toList_append, slash, List.append_assoc, List.singleton_append,
    Text.splitOn_append, List.map_append]

theorem segments_of_whole (whole : '/' ∉ path.toList) :
    segments path = [path] := by
  have split := Text.splitOn_intercalate (List.cons_ne_nil path.toList [])
    (by simpa using whole)
  rw [List.intercalate_singleton] at split
  rw [segments, split, List.map_singleton, String.ofList_toList]

theorem ofNames_singleton (name : String) : ofNames [name] = name := by
  rw [ofNames, String.intercalate_singleton]

theorem segments_ofNames (filled : names ≠ [])
    (named : ∀ name ∈ names, IsName name) :
    segments (ofNames names) = names := by
  have slash : "/".toList = ['/'] := rfl
  rw [segments, ofNames, String.toList_intercalate, slash,
    Text.splitOn_intercalate]
  · rw [List.map_map]
    simp
  · simpa using filled
  · intro piece member
    obtain ⟨name, listed, rfl⟩ := List.mem_map.mp member
    exact (named name listed).whole

/-- Names are read back from the text that divides them by slashes. -/
theorem eq_of_ofNames_eq {others : List String} (filled : names ≠ [])
    (named : ∀ name ∈ names, IsName name) (othersFilled : others ≠ [])
    (othersNamed : ∀ name ∈ others, IsName name)
    (same : ofNames names = ofNames others) : names = others := by
  rw [← segments_ofNames filled named, same,
    segments_ofNames othersFilled othersNamed]

theorem isAbsolute_iff :
    isAbsolute path = true ↔ (segments path).head? = some "" ∧ path ≠ "" := by
  rw [isAbsolute, Text.startsWith, Ne, ← String.toList_eq_nil_iff, segments]
  have slash : "/".toList = ['/'] := rfl
  rw [slash]
  cases path.toList with
  | nil => simp
  | cons character rest =>
      rw [Text.splitOn]
      split
      · next separates => simp [separates]
      · next other =>
          have unequal : ('/' == character) = false :=
            beq_false_of_ne (Ne.symm other)
          split
          · simp [List.isPrefixOf, unequal]
          · simp [List.isPrefixOf, unequal]

theorem isAbsolute_of_head? {name : String}
    (first : (segments path).head? = some name) (named : name ≠ "") :
    isAbsolute path = false := by
  rw [Bool.eq_false_iff]
  intro absolute
  rw [isAbsolute_iff, first] at absolute
  exact named (Option.some.inj absolute.1)

/-! ## Order -/

/-- Names are ordered as texts, the first names that differ being decisive. -/
theorem precedes_iff {first second : List String} :
    precedes first second = true ↔
      first = second ∨ List.Lex (· < ·) first second := by
  induction first generalizing second with
  | nil =>
      cases second with
      | nil => simp [precedes]
      | cons other others => simp [precedes]
  | cons name names induction =>
      cases second with
      | nil => simp [precedes]
      | cons other others =>
          rw [precedes, Bool.or_eq_true, Bool.and_eq_true, induction,
            List.cons_lex_cons_iff, List.cons_eq_cons, decide_eq_true_eq,
            decide_eq_true_eq, and_or_left, or_left_comm]

theorem precedes_trans (first second third : List String)
    (before : precedes first second = true)
    (behind : precedes second third = true) :
    precedes first third = true := by
  rw [precedes_iff] at before behind ⊢
  rcases before with rfl | before
  · exact behind
  · rcases behind with rfl | behind
    · exact .inr before
    · exact .inr (List.lex_trans String.lt_trans before behind)

theorem precedes_total (first second : List String) :
    (precedes first second || precedes second first) = true := by
  have same (name other : String) (before : ¬ name < other)
      (behind : ¬ other < name) : name = other :=
    String.le_antisymm (String.not_lt.mp behind) (String.not_lt.mp before)
  rw [Bool.or_eq_true, precedes_iff, precedes_iff]
  by_contra neither
  simp only [not_or] at neither
  exact neither.1.1 (List.lex_trichotomous same neither.2.2 neither.1.2)

theorem pairwise_mergeSort_precedes (list : List (List String)) :
    (list.mergeSort precedes).Pairwise fun first second =>
      precedes first second = true :=
  List.pairwise_mergeSort precedes_trans precedes_total list

/-! ## Parts and places -/

/-- The place that the parts of a path spell. -/
def placeOfParts (current : Place) : List String → Place
  | "/" :: later => resolve [] later
  | parts => resolve current parts

theorem placeOfParts_of_ne {parts : List String}
    (relative : parts.head? ≠ some "/") :
    placeOfParts current parts = resolve current parts := by
  unfold placeOfParts
  split
  · simp at relative
  · rfl

theorem place_eq_placeOfParts (current : Place) (path : String) :
    place current path = placeOfParts current (parts path) := by
  have whole : ∀ segment ∈ segments path, segment ≠ "/" := by
    rintro segment member rfl
    exact whole_of_mem_segments member (by decide)
  rw [place, parts]
  cases split : segments path with
  | nil => exact absurd split (segments_ne_nil path)
  | cons first rest =>
      rw [split] at whole
      have idle (start : Place) (empty : first = "") :
          resolve start (first :: rest) = resolve start rest := by
        rw [empty]
        rfl
      cases absolute : isAbsolute path with
      | true =>
          have empty : first = "" := by
            have head := (isAbsolute_iff.mp absolute).1
            rw [split] at head
            exact Option.some.inj head
          exact (idle [] empty).trans (resolve_filter [] rest).symm
      | false =>
          have relative : ∀ parts ⊆ first :: rest,
              placeOfParts current parts = resolve current parts := by
            intro parts within
            apply placeOfParts_of_ne
            intro head
            exact whole "/" (within (List.mem_of_mem_head? head)) rfl
          simp only [Bool.false_eq_true, if_false]
          split
          · next empty =>
              rw [relative _ (List.subset_cons_of_subset first
                List.filter_sublist.subset), resolve_filter]
              exact idle current (String.isEmpty_iff.mp empty)
          · rw [relative _ (List.cons_subset_cons first
              List.filter_sublist.subset)]
            exact (resolve_filter (step current first) rest).symm

/-- Parts that go on with names spell a place below. -/
theorem place_eq_append_of_parts
    (spelled : parts path = parts base ++ names)
    (named : ∀ name ∈ names, IsName name) :
    place current path = place current base ++ names := by
  rw [place_eq_placeOfParts, place_eq_placeOfParts, spelled]
  cases found : parts base with
  | nil =>
      have relative : names.head? ≠ some "/" := by
        intro head
        exact (named "/" (List.mem_of_mem_head? head)).whole (by decide)
      rw [List.nil_append, placeOfParts_of_ne relative, resolve_names named]
      rfl
  | cons first later =>
      by_cases root : first = "/"
      · rw [root]
        exact (resolve_append [] later names).trans (resolve_names named)
      · rw [placeOfParts_of_ne (by simpa using root),
          placeOfParts_of_ne (by simpa using root), resolve_append,
          resolve_names named]

/-! ## Paths below a base -/

theorem isAbsolute_of_isName {name : String} (named : IsName name) :
    isAbsolute name = false := by
  have first : (segments name).head? = some name := by
    rw [segments_of_whole named.whole]
    rfl
  exact isAbsolute_of_head? first named.ne_empty

theorem isAbsolute_ofNames (named : ∀ name ∈ names, IsName name) :
    isAbsolute (ofNames names) = false := by
  cases names with
  | nil => rfl
  | cons name names =>
      have split := segments_ofNames (List.cons_ne_nil name names) named
      have first : (segments (ofNames (name :: names))).head? = some name := by
        rw [split]
        rfl
      exact isAbsolute_of_head? first (named name List.mem_cons_self).ne_empty

/-- The segments of a path below a base: those of the base, save for an empty
one at its end, and then those of the path. -/
theorem exists_segments_join (base : String)
    (relative : isAbsolute path = false) :
    ∃ front ends, segments base = front ++ ends ∧
      (∀ segment ∈ ends, segment.isEmpty = true) ∧
      segments (join base path) = front ++ segments path := by
  have nothing : ∀ segment ∈ segments "", segment.isEmpty = true := by decide
  rw [join, if_neg (by simp [relative])]
  split
  · next open_ =>
      cases empty : base.isEmpty with
      | true =>
          obtain rfl := String.isEmpty_iff.mp empty
          refine ⟨[], segments "", rfl, nothing, ?_⟩
          rw [String.empty_append, List.nil_append]
      | false =>
          have slash : Text.endsWith base "/" = true := by
            simpa [empty] using open_
          rw [Text.endsWith, List.isSuffixOf_iff_suffix] at slash
          obtain ⟨before, whole⟩ := slash
          obtain rfl : base = String.ofList before ++ "/" ++ "" := by
            rw [← String.toList_inj]
            simpa using whole.symm
          refine ⟨segments (String.ofList before), segments "",
            segments_append _ _, nothing, ?_⟩
          rw [String.append_empty, segments_append]
  · exact ⟨segments base, [], (List.append_nil _).symm, by simp,
      segments_append base path⟩

theorem isAbsolute_append (filled : base ≠ "") :
    isAbsolute (base ++ path) = isAbsolute base := by
  have slash : "/".toList = ['/'] := rfl
  rw [isAbsolute, isAbsolute, Text.startsWith, Text.startsWith, slash,
    String.toList_append]
  cases characters : base.toList with
  | nil => exact absurd (String.toList_eq_nil_iff.mp characters) filled
  | cons character rest => simp [List.isPrefixOf]

theorem isAbsolute_join (relative : isAbsolute path = false) :
    isAbsolute (join base path) = isAbsolute base := by
  rw [join, if_neg (by simp [relative])]
  by_cases empty : base = ""
  · simp [empty, relative]
    rfl
  · split
    · exact isAbsolute_append empty
    · rw [String.append_assoc]
      exact isAbsolute_append empty

/-- A path below a base spells a place below that of the base. -/
theorem place_join (named : ∀ name ∈ names, IsName name) :
    place current (join base (ofNames names)) =
      place current base ++ names := by
  have relative := isAbsolute_ofNames named
  obtain ⟨front, ends, whole, idle, joined⟩ :=
    exists_segments_join base relative
  have spelled (start : Place) :
      resolve (resolve start front) (segments (ofNames names)) =
        resolve start front ++ names := by
    cases names with
    | nil => exact (List.append_nil _).symm
    | cons name names =>
        rw [segments_ofNames (List.cons_ne_nil name names) named,
          resolve_names named]
  rw [place, place, isAbsolute_join relative, joined, whole, resolve_append,
    resolve_append, resolve_idle idle]
  exact spelled _

end Path

namespace Disk

variable {disk : Disk} {base path : String} {names : List String}
  {place found : Place}

/-! ## Where a disk leads paths -/

theorem step_of_next {segment : String}
    (stepped : next place segment = .ok found) :
    found = Path.step place segment := by
  unfold next at stepped
  unfold Path.step
  split at stepped
  · next idle =>
      rw [if_pos idle]
      exact (Except.ok.inj stepped).symm
  · next busy =>
      rw [if_neg busy]
      split at stepped
      · next above =>
          rw [if_pos above]
          exact (Except.ok.inj stepped).symm
      · next inside =>
          rw [if_neg inside]
          split at stepped
          · simp at stepped
          · exact (Except.ok.inj stepped).symm

theorem resolve_of_follow {segments : List String}
    (leads : disk.follow place segments = .ok found) :
    found = Path.resolve place segments := by
  induction segments generalizing place with
  | nil => exact (Except.ok.inj leads).symm
  | cons segment segments induction =>
      obtain ⟨reached, stepped, onwards⟩ := exists_next_of_follow leads
      obtain rfl := step_of_next stepped
      exact induction onwards

theorem place_of_locateNew (leads : disk.locateNew path = .ok place) :
    place = Path.place disk.current path := by
  obtain ⟨ends, whole, empty, _⟩ := exists_segments path
  unfold locateNew at leads
  split at leads
  · simp at leads
  · have spelled := resolve_of_follow leads
    rw [Path.place, whole, Path.resolve_append, Path.resolve_idle empty]
    exact spelled

theorem place_of_locate (leads : disk.locate path = .ok place) :
    place = Path.place disk.current path :=
  place_of_locateNew (locateNew_of_locate leads)

/-- From a directory a path goes on to what lies in it. -/
theorem locate_join {name : String} (leads : disk.locate base = .ok place)
    (directory : disk.isDirectory place = true) (named : IsName name) :
    disk.locate (Path.join base name) = .ok (place ++ [name]) := by
  have relative : Path.isAbsolute name = false :=
    Path.isAbsolute_of_isName named
  obtain ⟨front, ends, whole, empty, joined⟩ :=
    Path.exists_segments_join base relative
  unfold locate at leads ⊢
  split at leads
  · simp at leads
  · next filled =>
      rw [whole, follow_append_iff] at leads
      obtain ⟨reached, start, rest⟩ := leads
      obtain ⟨rfl, _⟩ := (follow_empty_iff empty).mp rest
      have stepped : next place name = .ok (place ++ [name]) := by
        rw [next, named.leads, if_neg Bool.false_ne_true, if_neg named.below,
          if_neg (Nat.not_lt.mpr named.short)]
      have long : (Path.join base name).isEmpty = false := by
        rw [Bool.eq_false_iff, Ne, String.isEmpty_iff]
        intro short
        rw [short, Path.segments_of_whole named.whole] at joined
        have last := congrArg List.getLast? joined
        rw [List.getLast?_concat] at last
        exact named.ne_empty (Option.some.inj last).symm
      rw [long, joined, Path.segments_of_whole named.whole, origin,
        Path.isAbsolute_join relative, if_neg Bool.false_ne_true,
        follow_append_iff]
      refine ⟨place, start, ?_⟩
      rw [follow_cons directory, stepped]
      rfl

theorem locate_names (leads : disk.locate base = .ok place)
    (listed : place ++ names ∈ disk.files.map Prod.fst)
    (named : ∀ name ∈ names, IsName name) :
    disk.locate (names.foldl Path.join base) = .ok (place ++ names) := by
  induction names generalizing base place with
  | nil =>
      rw [List.append_nil]
      exact leads
  | cons name names induction =>
      have directory : disk.isDirectory place = true := by
        rw [isDirectory_iff]
        refine .inr (.inr ⟨place ++ name :: names, listed, ?_,
          List.prefix_append _ _⟩)
        simp
      have onwards : place ++ name :: names = (place ++ [name]) ++ names := by
        simp
      rw [onwards] at listed ⊢
      exact induction
        (locate_join leads directory (named name List.mem_cons_self)) listed
        fun other member => named other (List.mem_cons_of_mem name member)

end Disk

end Files

end SourceMark
