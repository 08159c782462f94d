/-!
# Byte offsets in a text

Offsets count the bytes of the UTF-8 form, while texts are read as lists of
characters.  `byteLength` is the bridge between the two: an offset is good for
cutting when it is the byte length of some leading part of the text.
-/

namespace SourceMark

namespace Text

/-- Number of bytes of the UTF-8 form. -/
def byteLength : List Char → Nat
  | [] => 0
  | character :: rest => character.utf8Size + byteLength rest

/-- The parts before and after a byte offset, when it lies between two
characters. -/
def cutAt? : List Char → Nat → Option (List Char × List Char)
  | text, 0 => some ([], text)
  | [], _ + 1 => none
  | character :: rest, offset + 1 =>
      if character.utf8Size ≤ offset + 1 then
        match cutAt? rest (offset + 1 - character.utf8Size) with
        | some (before, after) => some (character :: before, after)
        | none => none
      else
        none

/-- The part between two byte offsets, when both lie between characters and
come in order. -/
def slice? (text : List Char) (start stop : Nat) : Option (List Char) :=
  if start ≤ stop then
    match cutAt? text start with
    | some (_, after) => (cutAt? after (stop - start)).map Prod.fst
    | none => none
  else
    none

/-- A text that a machine with words of 64 bits can hold: no allocation takes
more than half of the address space. -/
def IsStorable (text : List Char) : Prop :=
  byteLength text < Nat.pow 2 63

@[simp] theorem byteLength_append (first second : List Char) :
    byteLength (first ++ second) = byteLength first + byteLength second := by
  induction first with
  | nil => simp [byteLength]
  | cons character rest induction =>
      simp [byteLength, induction, Nat.add_assoc]

/-- Cutting loses nothing and cuts exactly at the offset. -/
theorem eq_append_of_cutAt? {text before after : List Char} {offset : Nat}
    (cut : cutAt? text offset = some (before, after)) :
    text = before ++ after ∧ byteLength before = offset := by
  induction text, offset using cutAt?.induct generalizing before after with
  | case1 text => simp_all [cutAt?, byteLength]
  | case2 offset => simp [cutAt?] at cut
  | case3 character rest offset fits _ _ split induction =>
      simp only [cutAt?, fits, if_true, split] at cut
      obtain ⟨rfl, rfl⟩ := by simpa using cut
      obtain ⟨equality, length⟩ := induction split
      subst equality
      simp only [byteLength, length, List.cons_append, true_and]
      omega
  | case4 character rest offset fits failed _ =>
      simp [cutAt?, fits, failed] at cut
  | case5 character rest offset tooWide =>
      simp [cutAt?, tooWide] at cut

/-- The end of every leading part is a place to cut. -/
theorem cutAt?_append (before after : List Char) :
    cutAt? (before ++ after) (byteLength before) = some (before, after) := by
  induction before with
  | nil => simp [byteLength, cutAt?]
  | cons character rest induction =>
      have positive : 0 < character.utf8Size := character.utf8Size_pos
      obtain ⟨size, equality⟩ : ∃ size, character.utf8Size = size + 1 :=
        ⟨character.utf8Size - 1, by omega⟩
      have offset : byteLength (character :: rest) =
          size + byteLength rest + 1 := by
        simp only [byteLength, equality]; omega
      rw [offset, List.cons_append, cutAt?]
      have fits : character.utf8Size ≤ size + byteLength rest + 1 := by omega
      have remaining :
          size + byteLength rest + 1 - character.utf8Size = byteLength rest := by
        omega
      simp [fits, remaining, induction]

/-- A cut at an offset is the same thing as a way to write the text as two
parts, the first of which has that many bytes.  What is said about offsets
elsewhere goes through this. -/
theorem cutAt?_eq_some_iff {text before after : List Char} {offset : Nat} :
    cutAt? text offset = some (before, after) ↔
      text = before ++ after ∧ byteLength before = offset := by
  constructor
  · exact eq_append_of_cutAt?
  · rintro ⟨rfl, rfl⟩
    exact cutAt?_append before after

theorem eq_append_of_slice? {source text : List Char} {start stop : Nat}
    (slice : slice? source start stop = some text) :
    ∃ before after, source = before ++ (text ++ after) ∧
      byteLength before = start ∧ start + byteLength text = stop := by
  unfold slice? at slice
  split at slice
  · split at slice
    · next order before rest first =>
        obtain ⟨⟨taken, after⟩, second, rfl⟩ := Option.map_eq_some_iff.mp slice
        obtain ⟨rfl, width⟩ := eq_append_of_cutAt? first
        obtain ⟨rfl, length⟩ := eq_append_of_cutAt? second
        exact ⟨before, after, rfl, width, by simp only [length]; omega⟩
    · simp at slice
  · simp at slice

/-- The part between two other ones is the slice between their ends. -/
theorem slice?_append (before text after : List Char) :
    slice? (before ++ (text ++ after)) (byteLength before)
      (byteLength before + byteLength text) = some text := by
  have ordered : byteLength before ≤ byteLength before + byteLength text :=
    Nat.le_add_right _ _
  unfold slice?
  rw [if_pos ordered, cutAt?_append]
  simp only [Nat.add_sub_cancel_left, cutAt?_append, Option.map_some]

/-- Two leading parts of one text with the same number of bytes are the same
part. -/
theorem append_eq_append_of_byteLength
    {first second firstRest secondRest : List Char}
    (equality : first ++ firstRest = second ++ secondRest)
    (length : byteLength first = byteLength second) :
    first = second ∧ firstRest = secondRest := by
  have left := cutAt?_append first firstRest
  have right := cutAt?_append second secondRest
  rw [equality, length, right] at left
  simp only [Option.some.injEq, Prod.mk.injEq] at left
  exact ⟨left.1.symm, left.2.symm⟩

theorem byteLength_eq_zero {text : List Char} :
    byteLength text = 0 ↔ text = [] := by
  cases text with
  | nil => simp [byteLength]
  | cons character rest =>
      have positive := character.utf8Size_pos
      simp only [byteLength, reduceCtorEq, iff_false]
      omega

theorem length_le_byteLength (text : List Char) :
    text.length ≤ byteLength text := by
  induction text with
  | nil => simp [byteLength]
  | cons character rest induction =>
      have positive := character.utf8Size_pos
      simp only [byteLength, List.length_cons]
      omega

end Text

end SourceMark
