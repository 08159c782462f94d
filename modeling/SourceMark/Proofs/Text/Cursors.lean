import SourceMark.Text.Cursor
import SourceMark.Text.Search

/-!
# What a cursor passes over

A reader that moves a cursor takes some characters off its rest and adds their
bytes to its offset.  What it takes is decided by the characters that it has
taken and, at most, by the one that follows them, so the same characters are
taken in front of another rest.
-/

namespace SourceMark

namespace Text

/-- Whether a text begins with a mark is decided by any leading part that the
mark does not run through. -/
theorem isPrefixOf_append_of_mem {mark known : List Char} {stop : Char}
    (stops : stop ∈ known) (absent : stop ∉ mark) (rest : List Char) :
    mark.isPrefixOf (known ++ rest) = mark.isPrefixOf known := by
  rw [Bool.eq_iff_iff, List.isPrefixOf_iff_prefix, List.isPrefixOf_iff_prefix]
  constructor
  · intro leads
    rcases List.prefix_or_prefix_of_prefix leads
        (List.prefix_append known rest) with inside | beyond
    · exact inside
    · exact absurd (beyond.subset stops) absent
  · intro leads
    exact leads.trans (List.prefix_append known rest)

/-- Whether a text begins with a mark is decided by any leading part that is as
long as the mark. -/
theorem isPrefixOf_append_of_le {mark known : List Char}
    (enough : mark.length ≤ known.length) (rest : List Char) :
    mark.isPrefixOf (known ++ rest) = mark.isPrefixOf known := by
  rw [Bool.eq_iff_iff, List.isPrefixOf_iff_prefix, List.isPrefixOf_iff_prefix]
  constructor
  · intro leads
    exact List.prefix_of_prefix_length_le leads
      (List.prefix_append known rest) enough
  · intro leads
    exact leads.trans (List.prefix_append known rest)

theorem occursIn_iff_isInfix (needle text : List Char) :
    occursIn needle text = true ↔ needle <:+: text := by
  induction text with
  | nil => simp [occursIn]
  | cons character rest induction =>
      rw [occursIn, Bool.or_eq_true, List.isPrefixOf_iff_prefix, induction,
        List.infix_cons_iff]

end Text

namespace Cursor

/-- One cursor gets to another one by passing over some characters. -/
structure Reaches (first : Cursor) (taken : List Char) (later : Cursor) :
    Prop where
  rest : first.rest = taken ++ later.rest
  offset : later.offset = first.offset + Text.byteLength taken

namespace Reaches

theorem refl (cursor : Cursor) : Reaches cursor [] cursor :=
  ⟨rfl, rfl⟩

theorem trans {first between later : Cursor} {left right : List Char}
    (begins : Reaches first left between) (ends : Reaches between right later) :
    Reaches first (left ++ right) later where
  rest := by rw [begins.rest, ends.rest, List.append_assoc]
  offset := by
    rw [ends.offset, begins.offset, Text.byteLength_append, Nat.add_assoc]

theorem cons {character : Char} {rest taken : List Char} {offset : Nat}
    {later : Cursor}
    (inside : Reaches { rest, offset := offset + character.utf8Size } taken
      later) :
    Reaches { rest := character :: rest, offset } (character :: taken)
      later where
  rest := by rw [List.cons_append, ← inside.rest]
  offset := by
    rw [inside.offset, Text.byteLength, Nat.add_assoc]

theorem toEnd (cursor : Cursor) :
    Reaches cursor cursor.rest
      { rest := [], offset := cursor.offset + Text.byteLength cursor.rest } :=
  ⟨by simp, rfl⟩

/-- What has been passed over lies between the two cursors. -/
theorem upTo_eq {first later : Cursor} {taken : List Char}
    (reaches : Reaches first taken later) : upTo first later = taken := by
  simp [upTo, reaches.rest]

/-- Only one text lies between two cursors. -/
theorem unique {first later : Cursor} {taken other : List Char}
    (reaches : Reaches first taken later) (again : Reaches first other later) :
    taken = other := by
  rw [← reaches.upTo_eq, again.upTo_eq]

end Reaches

theorem reaches_skip (count : Nat) (cursor : Cursor) :
    Reaches cursor (cursor.rest.take count) (skip count cursor) := by
  induction count generalizing cursor with
  | zero => exact Reaches.refl cursor
  | succ count induction =>
      obtain ⟨rest, offset⟩ := cursor
      cases rest with
      | nil => exact Reaches.refl _
      | cons character rest => exact (induction _).cons

theorem skip_append (taken rest : List Char) (offset : Nat) :
    skip taken.length { rest := taken ++ rest, offset } =
      { rest, offset := offset + Text.byteLength taken } := by
  induction taken generalizing offset with
  | nil => rfl
  | cons character taken induction =>
      simp only [List.cons_append, List.length_cons, skip, induction,
        Text.byteLength, Nat.add_assoc]

/-! ## Later cursors of one text -/

/-- One cursor comes no earlier in a text than another one. -/
def Follows (later first : Cursor) : Prop :=
  ∃ taken, Reaches first taken later

theorem Reaches.follows {first later : Cursor} {taken : List Char}
    (reaches : Reaches first taken later) : later.Follows first :=
  ⟨taken, reaches⟩

namespace Follows

theorem refl (cursor : Cursor) : cursor.Follows cursor :=
  (Reaches.refl cursor).follows

theorem trans {later between first : Cursor} (ends : later.Follows between)
    (begins : between.Follows first) : later.Follows first := by
  obtain ⟨left, reached⟩ := begins
  obtain ⟨right, further⟩ := ends
  exact (reached.trans further).follows

theorem isSuffix {later first : Cursor} (follows : later.Follows first) :
    later.rest <:+ first.rest := by
  obtain ⟨taken, reaches⟩ := follows
  exact ⟨taken, reaches.rest.symm⟩

end Follows

theorem follows_cons (character : Char) (rest : List Char) (offset : Nat) :
    Follows { rest, offset := offset + character.utf8Size }
      { rest := character :: rest, offset } :=
  (Reaches.cons (Reaches.refl _)).follows

/-- The same for a character of a single byte. -/
theorem follows_ascii {cursor : Cursor} {character : Char} {rest : List Char}
    (equality : cursor.rest = character :: rest)
    (single : character.utf8Size = 1) :
    Follows { rest, offset := cursor.offset + 1 } cursor := by
  obtain ⟨text, offset⟩ := cursor
  have behind := follows_cons character rest offset
  rw [single, ← equality] at behind
  exact behind

theorem follows_skip (count : Nat) (cursor : Cursor) :
    (skip count cursor).Follows cursor :=
  (reaches_skip count cursor).follows

/-! ## Runs of characters -/

theorem reaches_takeWhile (test : Char → Bool) (offset : Nat)
    (text : List Char) :
    Reaches { rest := text, offset } (takeWhile test offset text).1
      (takeWhile test offset text).2 := by
  induction text generalizing offset with
  | nil => exact Reaches.refl _
  | cons character rest induction =>
      by_cases holds : test character = true
      · simp only [takeWhile, holds, if_true]
        exact (induction _).cons
      · simp only [takeWhile, holds]
        exact Reaches.refl _

theorem follows_takeWhile (test : Char → Bool) (offset : Nat)
    (text : List Char) :
    (takeWhile test offset text).2.Follows { rest := text, offset } :=
  (reaches_takeWhile test offset text).follows

theorem test_of_mem_takeWhile {test : Char → Bool} {offset : Nat}
    {text : List Char} {character : Char}
    (member : character ∈ (takeWhile test offset text).1) :
    test character = true := by
  induction text generalizing offset with
  | nil => simp [takeWhile] at member
  | cons first rest induction =>
      by_cases holds : test first = true
      · simp only [takeWhile, holds, if_true, List.mem_cons] at member
        rcases member with rfl | member
        · exact holds
        · exact induction member
      · simp [takeWhile, holds] at member

theorem head?_takeWhile {test : Char → Bool} {offset : Nat}
    {text : List Char} :
    ∀ character ∈ (takeWhile test offset text).2.rest.head?,
      test character = false := by
  induction text generalizing offset with
  | nil => simp [takeWhile]
  | cons first rest induction =>
      by_cases holds : test first = true
      · simpa only [takeWhile, holds, if_true] using induction
      · simp [takeWhile, holds]

/-- A run ends in front of any text whose first character fails the test. -/
theorem takeWhile_append {test : Char → Bool} {taken rest : List Char}
    (run : ∀ character ∈ taken, test character = true)
    (stops : ∀ character ∈ rest.head?, test character = false)
    (offset : Nat) :
    takeWhile test offset (taken ++ rest) =
      (taken, { rest, offset := offset + Text.byteLength taken }) := by
  induction taken generalizing offset with
  | nil =>
      cases rest with
      | nil => rfl
      | cons character rest =>
          have fails := stops character (by simp)
          simp [takeWhile, fails, Text.byteLength]
  | cons character taken induction =>
      have holds := run character (by simp)
      have later := induction
        (fun other member => run other (by simp [member]))
        (offset + character.utf8Size)
      simp only [List.cons_append, takeWhile, holds, if_true, later,
        Text.byteLength, Nat.add_assoc]

/-! ## Occurrences of a mark -/

theorem reaches_find? {needle text before : List Char} {offset : Nat}
    {cursor : Cursor}
    (found : find? needle offset text = some (before, cursor)) :
    Reaches { rest := text, offset } before cursor := by
  induction text generalizing offset before cursor with
  | nil =>
      simp only [find?] at found
      split at found
      · obtain ⟨rfl, rfl⟩ := by simpa using found
        exact Reaches.refl _
      · simp at found
  | cons character rest induction =>
      simp only [find?] at found
      split at found
      · obtain ⟨rfl, rfl⟩ := by simpa using found
        exact Reaches.refl _
      · split at found
        · next inner later equality =>
            obtain ⟨rfl, rfl⟩ := by simpa using found
            exact (induction equality).cons
        · simp at found

/-- A mark is found in front of any rest. -/
theorem find?_append {needle text before after : List Char} {offset : Nat}
    {cursor : Cursor} (inhabited : needle ≠ [])
    (found : find? needle offset text = some (before, cursor))
    (here : cursor.rest = needle ++ after) (later : List Char) (start : Nat) :
    find? needle start (before ++ (needle ++ later)) =
      some (before, {
        rest := needle ++ later
        offset := start + Text.byteLength before }) := by
  induction text generalizing offset before cursor start with
  | nil =>
      simp only [find?] at found
      split at found
      · next empty => exact absurd (by simpa using empty) inhabited
      · simp at found
  | cons character rest induction =>
      simp only [find?] at found
      split at found
      · obtain ⟨rfl, rfl⟩ := by simpa using found
        cases needle with
        | nil => exact absurd rfl inhabited
        | cons first others =>
            simp [find?, Text.byteLength]
      · next missed =>
          split at found
          · next inner behind equality =>
              obtain ⟨rfl, rfl⟩ := by simpa using found
              have passed := (reaches_find? equality).rest
              have known : rest = inner ++ needle ++ after := by
                rw [here, ← List.append_assoc] at passed
                exact passed
              have enough : needle.length ≤
                  (character :: (inner ++ needle)).length := by
                simp only [List.length_cons, List.length_append]
                omega
              have original := Text.isPrefixOf_append_of_le enough after
              have changed := Text.isPrefixOf_append_of_le enough later
              rw [List.cons_append, ← known] at original
              rw [List.cons_append, List.append_assoc] at changed
              have missing : needle.isPrefixOf
                  (character :: (inner ++ (needle ++ later))) = false := by
                rw [changed, ← original]
                exact Bool.eq_false_iff.mpr missed
              have further := induction equality here
                (start + character.utf8Size)
              simp only [List.cons_append, find?, missing, further,
                Text.byteLength, Nat.add_assoc]
              rfl
          · simp at found

theorem find?_eq_none {needle text : List Char} {offset : Nat}
    (missed : find? needle offset text = none) (start : Nat) :
    find? needle start text = none := by
  induction text generalizing offset start with
  | nil => simpa [find?] using missed
  | cons character rest induction =>
      simp only [find?] at missed ⊢
      split at missed
      · simp at missed
      · next absent =>
          split at missed
          · simp at missed
          · next equality =>
              rw [if_neg absent, induction equality]

theorem rest_of_find? {needle text before : List Char} {offset : Nat}
    {cursor : Cursor}
    (found : find? needle offset text = some (before, cursor)) :
    ∃ after, cursor.rest = needle ++ after := by
  have here := isPrefixOf_of_find? found
  rw [List.isPrefixOf_iff_prefix] at here
  obtain ⟨after, whole⟩ := here
  exact ⟨after, whole.symm⟩

end Cursor

end SourceMark
