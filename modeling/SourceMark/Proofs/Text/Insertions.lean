import SourceMark.Text.Cut
import SourceMark.Text.Insertion

/-!
# Insertions in a single pass

Carrying insertions out from the highest offset down gives the text that one
pass from the left writes.  `weave` is that pass over a part of the text which
something follows, so that passes over adjacent parts can be put together.
-/

namespace SourceMark

namespace Insertion

/-- One pass over a part of a text: the texts inserted before each character,
but not those behind the last one. -/
def weave (insertions : List Insertion) (offset : Nat) :
    List Char → List Char
  | [] => []
  | character :: rest =>
      textsAt insertions offset ++
        character :: weave insertions (offset + character.utf8Size) rest

/-- A woven text without what was put in: before each character of the given
text, `skip` characters and then the texts for its offset are passed over. -/
def unweaveFrom (insertions : List Insertion) :
    (skip offset : Nat) → List Char → List Char
  | _, _, [] => []
  | skip + 1, offset, _ :: rest => unweaveFrom insertions skip offset rest
  | 0, offset, character :: rest =>
      let next := offset + character.utf8Size
      character :: unweaveFrom insertions (textsAt insertions next).length
        next rest

/-- A woven text without what was put in. -/
def unweave (insertions : List Insertion) (woven : List Char) : List Char :=
  unweaveFrom insertions (textsAt insertions 0).length 0 woven

theorem weave_append (insertions : List Insertion) (offset : Nat)
    (first second : List Char) :
    weave insertions offset (first ++ second) =
      weave insertions offset first ++
        weave insertions (offset + Text.byteLength first) second := by
  induction first generalizing offset with
  | nil => simp [weave, Text.byteLength]
  | cons character rest induction =>
      simp [weave, Text.byteLength, induction, Nat.add_assoc]

theorem interleave_eq_weave (insertions : List Insertion) (offset : Nat)
    (text : List Char) :
    interleave insertions offset text =
      weave insertions offset text ++
        textsAt insertions (offset + Text.byteLength text) := by
  induction text generalizing offset with
  | nil => simp [interleave, weave, Text.byteLength]
  | cons character rest induction =>
      simp [interleave, weave, Text.byteLength, induction, Nat.add_assoc]

theorem interleave_append (insertions : List Insertion) (offset : Nat)
    (first second : List Char) :
    interleave insertions offset (first ++ second) =
      weave insertions offset first ++
        interleave insertions (offset + Text.byteLength first) second := by
  rw [interleave_eq_weave, weave_append, interleave_eq_weave]
  simp [Nat.add_assoc]

private theorem unweaveFrom_append (insertions : List Insertion)
    (offset : Nat) (added text : List Char) :
    unweaveFrom insertions added.length offset (added ++ text) =
      unweaveFrom insertions 0 offset text := by
  induction added with
  | nil => rfl
  | cons character rest induction =>
      simp [unweaveFrom, induction]

private theorem unweaveFrom_interleave (insertions : List Insertion)
    (offset : Nat) (text : List Char) :
    unweaveFrom insertions (textsAt insertions offset).length offset
      (interleave insertions offset text) = text := by
  induction text generalizing offset with
  | nil =>
      have nothing := unweaveFrom_append insertions offset
        (textsAt insertions offset) []
      simpa [interleave, unweaveFrom] using nothing
  | cons character rest induction =>
      rw [interleave, unweaveFrom_append]
      simp [unweaveFrom, induction]

/-- Taking out what a pass puts in gives the text back. -/
theorem unweave_interleave (insertions : List Insertion) (text : List Char) :
    unweave insertions (interleave insertions 0 text) = text :=
  unweaveFrom_interleave insertions 0 text

section Offsets

variable {insertions : List Insertion} {offset : Nat}

theorem textsAt_append (first second : List Insertion) (offset : Nat) :
    textsAt (first ++ second) offset =
      textsAt first offset ++ textsAt second offset := by
  simp [textsAt]

theorem textsAt_eq_nil
    (absent : ∀ insertion ∈ insertions, insertion.offset ≠ offset) :
    textsAt insertions offset = [] := by
  have none : insertions.filter (fun insertion => insertion.offset == offset) =
      [] := by
    simpa using absent
  simp [textsAt, none]

theorem weave_eq_self {text : List Char}
    (outside : ∀ insertion ∈ insertions, insertion.offset < offset ∨
      offset + Text.byteLength text ≤ insertion.offset) :
    weave insertions offset text = text := by
  induction text generalizing offset with
  | nil => rfl
  | cons character rest induction =>
      have positive := character.utf8Size_pos
      have here : textsAt insertions offset = [] := by
        apply textsAt_eq_nil
        intro insertion member
        have := outside insertion member
        simp only [Text.byteLength] at this
        omega
      have later : weave insertions (offset + character.utf8Size) rest =
          rest := by
        apply induction
        intro insertion member
        have := outside insertion member
        simp only [Text.byteLength] at this
        omega
      simp [weave, here, later]

/-- A pass depends only on what is inserted at the places between two
characters. -/
theorem interleave_congr {others : List Insertion} {text : List Char}
    (same : ∀ before after, text = before ++ after →
      textsAt insertions (offset + Text.byteLength before) =
        textsAt others (offset + Text.byteLength before)) :
    interleave insertions offset text = interleave others offset text := by
  induction text generalizing offset with
  | nil =>
      have here := same [] [] rfl
      simpa [interleave, Text.byteLength] using here
  | cons character rest induction =>
      have here := same [] (character :: rest) rfl
      have later : interleave insertions (offset + character.utf8Size) rest =
          interleave others (offset + character.utf8Size) rest := by
        apply induction
        intro before after equality
        have there := same (character :: before) after (by simp [equality])
        simpa [Text.byteLength, Nat.add_assoc] using there
      simp only [Text.byteLength, Nat.add_zero] at here
      simp [interleave, here, later]

theorem interleave_nil (offset : Nat) (text : List Char) :
    interleave [] offset text = text := by
  induction text generalizing offset with
  | nil => rfl
  | cons character rest induction =>
      simp [interleave, textsAt, induction]

/-- Nothing changes in front of the first insertion. -/
theorem interleave_skip {before : List Char} (after : List Char)
    (beyond : ∀ insertion ∈ insertions,
      offset + Text.byteLength before ≤ insertion.offset) :
    interleave insertions offset (before ++ after) =
      before ++ interleave insertions (offset + Text.byteLength before)
        after := by
  have untouched : weave insertions offset before = before :=
    weave_eq_self fun insertion member => .inr (beyond insertion member)
  rw [interleave_append, untouched]

/-- Insertions in two parts of a text are carried out in each part. -/
theorem interleave_append_of_cut {earlier later : List Insertion}
    {first : List Char} (second : List Char)
    (inside : ∀ insertion ∈ earlier,
      insertion.offset < offset + Text.byteLength first)
    (beyond : ∀ insertion ∈ later,
      offset + Text.byteLength first ≤ insertion.offset) :
    interleave (earlier ++ later) offset (first ++ second) =
      interleave earlier offset first ++
        interleave later (offset + Text.byteLength first) second := by
  induction first generalizing offset with
  | nil =>
      simp only [Text.byteLength, Nat.add_zero] at inside beyond ⊢
      have nothing : textsAt earlier offset = [] :=
        textsAt_eq_nil fun insertion member =>
          Nat.ne_of_lt (inside insertion member)
      rw [interleave, nothing]
      apply interleave_congr
      intro before after _
      rw [textsAt_append, textsAt_eq_nil, List.nil_append]
      intro insertion member
      have := inside insertion member
      omega
  | cons character rest induction =>
      have positive := character.utf8Size_pos
      simp only [Text.byteLength, ← Nat.add_assoc] at inside beyond ⊢
      have nothing : textsAt later offset = [] := by
        apply textsAt_eq_nil
        intro insertion member
        have := beyond insertion member
        omega
      simp only [List.cons_append, interleave, textsAt_append, nothing,
        List.append_nil, induction inside beyond, List.append_assoc]

/-- Nothing changes behind the last insertion. -/
theorem interleave_append_of_le {first : List Char} (second : List Char)
    (inside : ∀ insertion ∈ insertions,
      insertion.offset ≤ offset + Text.byteLength first) :
    interleave insertions offset (first ++ second) =
      interleave insertions offset first ++ second := by
  have behind (text : List Char) :
      interleave insertions (offset + Text.byteLength first) text =
        textsAt insertions (offset + Text.byteLength first) ++ text := by
    cases text with
    | nil => simp [interleave]
    | cons character rest =>
        have positive := character.utf8Size_pos
        have untouched : interleave insertions
            (offset + Text.byteLength first + character.utf8Size) rest =
              rest := by
          have nothing : textsAt insertions (offset + Text.byteLength first +
              character.utf8Size + Text.byteLength rest) = [] := by
            apply textsAt_eq_nil
            intro insertion member
            have := inside insertion member
            omega
          rw [interleave_eq_weave, nothing, List.append_nil]
          apply weave_eq_self
          intro insertion member
          have := inside insertion member
          omega
        rw [interleave, untouched]
  rw [interleave_append, behind, interleave_eq_weave, List.append_assoc]

/-- A text starts alike when nothing is put in in front of it. -/
theorem head?_interleave (text : List Char)
    (beyond : ∀ insertion ∈ insertions, offset < insertion.offset) :
    (interleave insertions offset text).head? = text.head? := by
  have nothing : textsAt insertions offset = [] :=
    textsAt_eq_nil fun insertion member =>
      Nat.ne_of_gt (beyond insertion member)
  cases text with
  | nil => simp [interleave, nothing]
  | cons character rest => simp [interleave, nothing]

/-- Insertions may count their offsets from another place. -/
theorem interleave_shift (base : Nat) (insertions : List Insertion)
    (offset : Nat) (text : List Char) :
    interleave (insertions.map fun insertion =>
        { insertion with offset := base + insertion.offset })
      (base + offset) text = interleave insertions offset text := by
  have texts (place : Nat) :
      textsAt (insertions.map fun insertion =>
        { insertion with offset := base + insertion.offset }) (base + place) =
      textsAt insertions place := by
    simp only [textsAt, List.filter_map, List.flatMap_map]
    congr 1
    apply List.filter_congr
    intro insertion _
    rw [Bool.eq_iff_iff]
    simp
  induction text generalizing offset with
  | nil => exact texts offset
  | cons character rest induction =>
      simp only [interleave, texts, Nat.add_assoc, induction]

end Offsets

/-! ## The order in which insertions are carried out -/

theorem textsAt_cons (insertion : Insertion) (insertions : List Insertion)
    (offset : Nat) :
    textsAt (insertion :: insertions) offset =
      (if insertion.offset = offset then insertion.text.toList else []) ++
        textsAt insertions offset := by
  by_cases here : insertion.offset = offset
  · simp [textsAt, here]
  · simp [textsAt, here]

theorem textsAt_cons_of_ne {insertion : Insertion}
    {insertions : List Insertion} {offset : Nat}
    (different : insertion.offset ≠ offset) :
    textsAt (insertion :: insertions) offset = textsAt insertions offset := by
  simp [textsAt_cons, different]

/-- What one more insertion changes when it comes in front of the others. -/
theorem interleave_cons_of_cut {insertion : Insertion}
    {insertions : List Insertion} {offset : Nat} {before : List Char}
    (after : List Char)
    (place : offset + Text.byteLength before = insertion.offset)
    (later : ∀ other ∈ insertions, insertion.offset ≤ other.offset) :
    interleave (insertion :: insertions) offset (before ++ after) =
      before ++ (insertion.text.toList ++
        interleave insertions insertion.offset after) := by
  have rest : interleave (insertion :: insertions) insertion.offset after =
      insertion.text.toList ++
        interleave insertions insertion.offset after := by
    cases after with
    | nil => simp [interleave, textsAt_cons]
    | cons character after =>
        have positive := character.utf8Size_pos
        have beyond : interleave (insertion :: insertions)
            (insertion.offset + character.utf8Size) after =
              interleave insertions
                (insertion.offset + character.utf8Size) after := by
          apply interleave_congr
          intro before after _
          apply textsAt_cons_of_ne
          omega
        simp [interleave, textsAt_cons, beyond]
  rw [interleave_skip, place, rest]
  intro other member
  rw [place]
  rcases List.mem_cons.mp member with rfl | member
  · exact Nat.le_refl _
  · exact later other member

/-- An insertion in front of others that come no earlier is carried out last,
at its own offset. -/
theorem applyOne_interleave {insertion : Insertion}
    {insertions : List Insertion} (source : List Char)
    (later : ∀ other ∈ insertions, insertion.offset ≤ other.offset) :
    applyOne source insertion (interleave insertions 0 source) =
      interleave (insertion :: insertions) 0 source := by
  unfold applyOne
  cases cut : Text.cutAt? source insertion.offset with
  | none =>
      -- Inside a character and past the end no pass comes by the offset.
      symm
      apply interleave_congr
      intro before after equality
      apply textsAt_cons_of_ne
      intro place
      rw [Nat.zero_add] at place
      rw [equality, place, Text.cutAt?_append] at cut
      simp at cut
  | some parts =>
      obtain ⟨before, after⟩ := parts
      obtain ⟨rfl, length⟩ := Text.cutAt?_eq_some_iff.mp cut
      have grown : interleave insertions 0 (before ++ after) =
          before ++ interleave insertions insertion.offset after := by
        rw [interleave_skip, Nat.zero_add, length]
        intro other member
        rw [Nat.zero_add, length]
        exact later other member
      have again : Text.cutAt? (interleave insertions 0 (before ++ after))
          insertion.offset =
            some (before, interleave insertions insertion.offset after) := by
        rw [grown, ← length, Text.cutAt?_append]
      rw [interleave_cons_of_cut after (by rw [Nat.zero_add, length]) later]
      simp only [again]

theorem foldr_applyOne_eq_interleave (source : List Char)
    {insertions : List Insertion}
    (ordered : insertions.Pairwise
      fun first second => first.offset ≤ second.offset) :
    insertions.foldr (applyOne source) source =
      interleave insertions 0 source := by
  induction insertions with
  | nil =>
      have nothing : weave [] 0 source = source :=
        weave_eq_self (by simp)
      rw [interleave_eq_weave, nothing]
      simp [textsAt]
  | cons insertion insertions induction =>
      obtain ⟨later, ordered⟩ := List.pairwise_cons.mp ordered
      rw [List.foldr_cons, induction ordered,
        applyOne_interleave source later]

private theorem byOffset_trans (first second third : Insertion)
    (left : decide (first.offset ≤ second.offset) = true)
    (right : decide (second.offset ≤ third.offset) = true) :
    decide (first.offset ≤ third.offset) = true := by
  simp only [decide_eq_true_eq] at left right ⊢
  exact Nat.le_trans left right

private theorem byOffset_total (first second : Insertion) :
    (decide (first.offset ≤ second.offset) ||
      decide (second.offset ≤ first.offset)) = true := by
  simp only [Bool.or_eq_true, decide_eq_true_eq]
  exact Nat.le_total first.offset second.offset

theorem sorted_pairwise (insertions : List Insertion) :
    (sorted insertions).Pairwise
      fun first second => first.offset ≤ second.offset := by
  have ordered :=
    List.pairwise_mergeSort byOffset_trans byOffset_total insertions
  simpa [sorted] using ordered

/-- Sorting keeps the order of the texts at each offset. -/
theorem textsAt_sorted (insertions : List Insertion) (offset : Nat) :
    textsAt (sorted insertions) offset = textsAt insertions offset := by
  let here : Insertion → Bool := fun insertion => insertion.offset == offset
  have level : (insertions.filter here).Pairwise
      fun first second => decide (first.offset ≤ second.offset) = true := by
    apply List.pairwise_of_forall_mem_list
    intro first firstMember second secondMember
    have firstHere := (List.mem_filter.mp firstMember).2
    have secondHere := (List.mem_filter.mp secondMember).2
    simp only [here, beq_iff_eq] at firstHere secondHere
    simp [firstHere, secondHere]
  have kept : (insertions.filter here).Sublist (sorted insertions) :=
    List.sublist_mergeSort byOffset_trans byOffset_total level
      List.filter_sublist
  have filtered : (insertions.filter here).Sublist
      ((sorted insertions).filter here) := by
    have both := kept.filter here
    simpa using both
  have permuted : ((sorted insertions).filter here).Perm
      (insertions.filter here) :=
    (List.mergeSort_perm insertions _).filter here
  have equality := filtered.eq_of_length permuted.length_eq.symm
  simp only [textsAt]
  exact congrArg (List.flatMap fun insertion => insertion.text.toList)
    equality.symm

/-- Insertions in any order: carrying them out is one pass over the text. -/
theorem applyAll_eq_interleave (source : List Char)
    (insertions : List Insertion) :
    applyAll source insertions = interleave insertions 0 source := by
  unfold applyAll
  rw [foldr_applyOne_eq_interleave source (sorted_pairwise insertions)]
  apply interleave_congr
  intro before after _
  exact textsAt_sorted insertions _

end Insertion

end SourceMark
