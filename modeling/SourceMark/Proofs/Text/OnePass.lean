import Mathlib.Algebra.GroupWithZero.Nat
import SourceMark.Proofs.Text.Insertions

/-!
# Carrying out insertions is one pass over the boundaries

The text that carrying out insertions gives is described without any order of
work: the places between the characters are gone through from the start of the
text to its end, and at each of them stand the texts that are inserted there and
then the character of the text.  What an insertion adds is therefore read off
the list: nothing at a place that is none, and its own text at any other.
-/

namespace SourceMark

namespace Text

/-- Whether a byte offset lies between two characters, or at an end of the
text. -/
def isBoundary (text : List Char) (offset : Nat) : Bool :=
  (cutAt? text offset).isSome

/-- The places between the characters of a text, from its start to its end. -/
def boundaries (text : List Char) : List Nat :=
  (List.range (byteLength text + 1)).filter (isBoundary text)

/-- The character that begins at a byte offset. -/
def characterAt? (text : List Char) (offset : Nat) : Option Char :=
  (cutAt? text offset).bind fun parts => parts.2.head?

theorem isBoundary_iff {text : List Char} {offset : Nat} :
    isBoundary text offset = true ↔
      ∃ before after, text = before ++ after ∧ byteLength before = offset := by
  unfold isBoundary
  rw [Option.isSome_iff_exists]
  constructor
  · rintro ⟨⟨before, after⟩, cut⟩
    exact ⟨before, after, cutAt?_eq_some_iff.mp cut⟩
  · rintro ⟨before, after, parts⟩
    exact ⟨(before, after), cutAt?_eq_some_iff.mpr parts⟩

theorem isBoundary_zero (text : List Char) : isBoundary text 0 = true :=
  isBoundary_iff.mpr ⟨[], text, rfl, rfl⟩

section Boundaries

variable (character : Char) (rest : List Char)

/-- Behind its first character a text is cut as what follows that character. -/
theorem cutAt?_cons_add (offset : Nat) :
    cutAt? (character :: rest) (character.utf8Size + offset) =
      (cutAt? rest offset).map fun parts =>
        (character :: parts.1, parts.2) := by
  obtain ⟨width, size⟩ : ∃ width, character.utf8Size = width + 1 :=
    ⟨character.utf8Size - 1, by have := character.utf8Size_pos; omega⟩
  have place : character.utf8Size + offset = width + offset + 1 := by omega
  have fits : character.utf8Size ≤ width + offset + 1 := by omega
  have remaining : width + offset + 1 - character.utf8Size = offset := by omega
  rw [place, cutAt?, if_pos fits, remaining]
  cases cutAt? rest offset with
  | none => rfl
  | some parts => rfl

theorem isBoundary_cons_add (offset : Nat) :
    isBoundary (character :: rest) (character.utf8Size + offset) =
      isBoundary rest offset := by
  simp [isBoundary, cutAt?_cons_add]

theorem characterAt?_cons_add (offset : Nat) :
    characterAt? (character :: rest) (character.utf8Size + offset) =
      characterAt? rest offset := by
  unfold characterAt?
  rw [cutAt?_cons_add]
  cases cutAt? rest offset with
  | none => rfl
  | some parts => rfl

theorem characterAt?_zero :
    characterAt? (character :: rest) 0 = some character := by
  simp [characterAt?, cutAt?]

/-- No place lies inside a character. -/
theorem isBoundary_inside {offset : Nat}
    (behind : offset + 1 < character.utf8Size) :
    isBoundary (character :: rest) (offset + 1) = false := by
  simp [isBoundary, cutAt?, Nat.not_le.mpr behind]

theorem boundaries_cons :
    boundaries (character :: rest) =
      0 :: (boundaries rest).map (character.utf8Size + ·) := by
  obtain ⟨width, size⟩ : ∃ width, character.utf8Size = 1 + width :=
    ⟨character.utf8Size - 1, by have := character.utf8Size_pos; omega⟩
  have first : (List.range character.utf8Size).filter
      (isBoundary (character :: rest)) = [0] := by
    have inside : (List.range width).filter
        (isBoundary (character :: rest) ∘ (1 + ·)) = [] := by
      rw [List.filter_eq_nil_iff]
      intro offset member
      have bound := List.mem_range.mp member
      have behind : offset + 1 < character.utf8Size := by omega
      simp [Nat.add_comm 1, isBoundary_inside character rest behind]
    rw [size, List.range_add, List.filter_append, List.filter_map, inside]
    simp [isBoundary_zero]
  have later : isBoundary (character :: rest) ∘ (character.utf8Size + ·) =
      isBoundary rest :=
    funext (isBoundary_cons_add character rest)
  unfold boundaries
  rw [byteLength, Nat.add_assoc, List.range_add, List.filter_append,
    List.filter_map, first, later]
  rfl

end Boundaries

end Text

namespace Insertion

variable {source : List Char} {insertions : List Insertion}

/-- The texts inserted at a place, and the character of the text there. -/
def pieceAt (source : List Char) (insertions : List Insertion)
    (offset : Nat) : List Char :=
  textsAt insertions offset ++ (Text.characterAt? source offset).toList

theorem interleave_eq_flatMap (insertions : List Insertion) (offset : Nat)
    (text : List Char) :
    interleave insertions offset text =
      (Text.boundaries text).flatMap fun place =>
        textsAt insertions (offset + place) ++
          (Text.characterAt? text place).toList := by
  induction text generalizing offset with
  | nil =>
      have only : Text.boundaries [] = [0] := by decide
      rw [only, interleave]
      simp [Text.characterAt?, Text.cutAt?]
  | cons character rest induction =>
      rw [Text.boundaries_cons, List.flatMap_cons, List.flatMap_map, interleave,
        induction, Text.characterAt?_zero]
      simp only [Text.characterAt?_cons_add, Nat.add_assoc, Nat.add_zero,
        Option.toList_some, List.append_assoc, List.singleton_append]

/-! ## What each insertion adds -/

/-- Whether there is a place for an insertion in a text. -/
def isPlaced (source : List Char) (insertion : Insertion) : Bool :=
  Text.isBoundary source insertion.offset

/-- An insertion that has a place in the text is carried out where the text that
has grown behind it can be cut. -/
theorem isBoundary_grown {insertion : Insertion}
    (placed : insertion.isPlaced source = true)
    (later : ∀ other ∈ insertions, insertion.offset ≤ other.offset) :
    Text.isBoundary (interleave insertions 0 source) insertion.offset =
      true := by
  obtain ⟨before, after, rfl, place⟩ := Text.isBoundary_iff.mp placed
  have front : ∀ other ∈ insertions, 0 + Text.byteLength before ≤
      other.offset := by
    intro other member
    rw [Nat.zero_add, place]
    exact later other member
  exact Text.isBoundary_iff.mpr
    ⟨before, _, interleave_skip after front, place⟩

theorem byteLength_applyOne {insertion : Insertion} {grown : List Char}
    (cuts : insertion.isPlaced source = true →
      Text.isBoundary grown insertion.offset = true) :
    Text.byteLength (applyOne source insertion grown) =
      (if insertion.isPlaced source then
        Text.byteLength insertion.text.toList else 0) +
        Text.byteLength grown := by
  unfold applyOne
  cases cut : Text.cutAt? source insertion.offset with
  | none => simp [isPlaced, Text.isBoundary, cut]
  | some parts =>
      have placed : insertion.isPlaced source = true := by
        simp [isPlaced, Text.isBoundary, cut]
      obtain ⟨before, after, rfl, place⟩ := Text.isBoundary_iff.mp (cuts placed)
      simp only [← place, Text.cutAt?_append, placed, if_true,
        Text.byteLength_append]
      omega

/-- Bytes that insertions add to a text. -/
def addedBytes (source : List Char) (insertions : List Insertion) : Nat :=
  ((insertions.filter (isPlaced source)).map fun insertion =>
    Text.byteLength insertion.text.toList).sum

theorem addedBytes_cons (insertion : Insertion) :
    addedBytes source (insertion :: insertions) =
      (if insertion.isPlaced source then
        Text.byteLength insertion.text.toList else 0) +
        addedBytes source insertions := by
  cases placed : insertion.isPlaced source with
  | false => simp [addedBytes, placed]
  | true => simp [addedBytes, placed]

theorem byteLength_interleave
    (ordered : insertions.Pairwise
      fun first second => first.offset ≤ second.offset) :
    Text.byteLength (interleave insertions 0 source) =
      addedBytes source insertions + Text.byteLength source := by
  induction insertions with
  | nil => simp [interleave_nil, addedBytes]
  | cons insertion insertions induction =>
      obtain ⟨later, ordered⟩ := List.pairwise_cons.mp ordered
      rw [← applyOne_interleave source later,
        byteLength_applyOne fun placed => isBoundary_grown placed later,
        induction ordered, addedBytes_cons, Nat.add_assoc]

theorem byteLength_applyAll (source : List Char)
    (insertions : List Insertion) :
    Text.byteLength (applyAll source insertions) =
      addedBytes source insertions + Text.byteLength source := by
  have permuted : (sorted insertions).Perm insertions :=
    List.mergeSort_perm insertions _
  have added : addedBytes source (sorted insertions) =
      addedBytes source insertions :=
    ((permuted.filter _).map _).sum_nat
  unfold applyAll
  rw [foldr_applyOne_eq_interleave source (sorted_pairwise insertions),
    byteLength_interleave (sorted_pairwise insertions), added]

/-- Insertions that have no place in the text may be left out. -/
theorem applyAll_filter (source : List Char) (insertions : List Insertion) :
    applyAll source (insertions.filter (isPlaced source)) =
      applyAll source insertions := by
  rw [applyAll_eq_interleave, applyAll_eq_interleave]
  apply interleave_congr
  intro before after whole
  have boundary : Text.isBoundary source (Text.byteLength before) = true :=
    Text.isBoundary_iff.mpr ⟨before, after, whole, rfl⟩
  have kept : ∀ insertion ∈ insertions,
      (insertion.offset == Text.byteLength before &&
        insertion.isPlaced source) =
          (insertion.offset == Text.byteLength before) := by
    intro insertion _
    by_cases here : insertion.offset = Text.byteLength before
    · rw [isPlaced, here, boundary, Bool.and_true]
    · rw [beq_eq_false_iff_ne.mpr here, Bool.false_and]
  rw [Nat.zero_add]
  unfold textsAt
  rw [List.filter_filter, List.filter_congr kept]

/-! ## The order of the list -/

/-- At most one insertion of a list with different offsets stands at an
offset. -/
theorem length_filter_offset_le
    (distinct : (insertions.map Insertion.offset).Nodup) (offset : Nat) :
    (insertions.filter fun insertion =>
      insertion.offset == offset).length ≤ 1 := by
  have here : ∀ place ∈ (insertions.filter fun insertion =>
      insertion.offset == offset).map Insertion.offset, place = offset := by
    intro place member
    obtain ⟨insertion, found, rfl⟩ := List.mem_map.mp member
    simpa using (List.mem_filter.mp found).2
  have nodup : ((insertions.filter fun insertion =>
      insertion.offset == offset).map Insertion.offset).Nodup :=
    distinct.sublist (List.filter_sublist.map _)
  rw [List.eq_replicate_of_mem here] at nodup
  simpa using List.nodup_replicate.mp nodup

/-- Where no two insertions stand at one offset the order of the list does not
matter. -/
theorem textsAt_of_perm {others : List Insertion}
    (permuted : insertions.Perm others)
    (distinct : (insertions.map Insertion.offset).Nodup) (offset : Nat) :
    textsAt others offset = textsAt insertions offset := by
  have short := length_filter_offset_le distinct offset
  have filtered := permuted.filter fun insertion => insertion.offset == offset
  unfold textsAt
  generalize insertions.filter (fun insertion => insertion.offset == offset) =
    here at short filtered ⊢
  cases here with
  | nil => rw [filtered.nil_eq]
  | cons insertion more =>
      obtain rfl : more = [] := List.eq_nil_of_length_eq_zero
        (by simpa using short)
      rw [List.perm_singleton.mp filtered.symm]

theorem applyAll_of_perm {others : List Insertion}
    (permuted : insertions.Perm others)
    (distinct : (insertions.map Insertion.offset).Nodup) :
    applyAll source others = applyAll source insertions := by
  rw [applyAll_eq_interleave, applyAll_eq_interleave]
  apply interleave_congr
  intro before after _
  exact textsAt_of_perm permuted distinct _

/-- Insertions in any order are carried out as in one pass over the places of
the text, at each of which stand the texts inserted there, in list order, and
the character of the text.  No other insertion adds anything, and each one that
does finds its place in the text grown so far.  So what was put in can be taken
out again, the order of the list matters at equal offsets only, and the text
grows by the texts that have a place. -/
theorem applyAll_onePass (source : List Char) (insertions : List Insertion) :
    applyAll source insertions =
        (Text.boundaries source).flatMap (pieceAt source insertions) ∧
      applyAll source (insertions.filter (isPlaced source)) =
        applyAll source insertions ∧
      (∀ earlier insertion later,
        sorted insertions = earlier ++ insertion :: later →
          insertion.isPlaced source = true →
            Text.isBoundary (later.foldr (applyOne source) source)
              insertion.offset = true) ∧
      unweave insertions (applyAll source insertions) = source ∧
      (∀ others, insertions.Perm others →
        (insertions.map Insertion.offset).Nodup →
          applyAll source others = applyAll source insertions) ∧
      Text.byteLength (applyAll source insertions) =
        Text.byteLength source +
          ((insertions.filter (isPlaced source)).map fun insertion =>
            Text.byteLength insertion.text.toList).sum := by
  refine ⟨?_, applyAll_filter source insertions, ?_, ?_, ?_, ?_⟩
  · rw [applyAll_eq_interleave, interleave_eq_flatMap]
    simp only [Nat.zero_add]
    rfl
  · intro earlier insertion later order placed
    have ordered := sorted_pairwise insertions
    rw [order] at ordered
    obtain ⟨beyond, ordered⟩ :=
      List.pairwise_cons.mp (List.pairwise_append.mp ordered).2.1
    rw [foldr_applyOne_eq_interleave source ordered]
    exact isBoundary_grown placed beyond
  · rw [applyAll_eq_interleave, unweave_interleave]
  · intro others permuted distinct
    exact applyAll_of_perm permuted distinct
  · rw [byteLength_applyAll, Nat.add_comm]
    rfl

/-- Insertions in front of the text, at its end, past it, inside a character and
behind that character, in two orders. -/
theorem applyAll_onePass_accent :
    let source := "aé b".toList
    let accent : Insertion := ⟨3, "<é>"⟩
    let later : List Insertion := [⟨5, "end"⟩, ⟨9, "past"⟩]
    let insertions : List Insertion :=
      [⟨5, "end"⟩, ⟨2, "inside"⟩, accent, ⟨9, "past"⟩, ⟨0, "start "⟩]
    sorted insertions = [⟨0, "start "⟩, ⟨2, "inside"⟩] ++ accent :: later ∧
      accent.isPlaced source = true ∧
      Text.isBoundary (later.foldr (applyOne source) source) accent.offset =
        true ∧
      insertions.Perm insertions.reverse ∧
      (insertions.map Insertion.offset).Nodup ∧
      applyAll source insertions = "start aé<é> bend".toList ∧
      applyAll source insertions.reverse = "start aé<é> bend".toList ∧
      unweave insertions "start aé<é> bend".toList = source := by
  intro source accent later insertions
  have order : sorted insertions =
      [⟨0, "start "⟩, ⟨2, "inside"⟩] ++ accent :: later := by
    simp [sorted, List.mergeSort, List.MergeSort.Internal.splitInTwo, accent,
      later, insertions]
  have placed : accent.isPlaced source = true := by decide
  have permuted : insertions.Perm insertions.reverse :=
    (List.reverse_perm insertions).symm
  have distinct : (insertions.map Insertion.offset).Nodup := by decide
  obtain ⟨pass, _, cuts, back, anyOrder, _⟩ :=
    applyAll_onePass source insertions
  have result : applyAll source insertions = "start aé<é> bend".toList := by
    rw [pass]
    decide +kernel
  refine ⟨order, placed, cuts _ _ _ order placed, permuted, distinct, result,
    ?_, ?_⟩
  · rw [anyOrder _ permuted distinct, result]
  · rw [← result, back]

end Insertion

end SourceMark
