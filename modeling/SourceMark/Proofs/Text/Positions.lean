import SourceMark.Text.Cut
import SourceMark.Text.LineIndex
import SourceMark.Text.Numeral

/-!
# Positions behind the parts of a text

The position of an offset between two characters is the place at which one
arrives by walking over the characters in front of it.  Walking further always
leads to a later position, so positions tell such offsets apart.
-/

namespace SourceMark

namespace Position

/-- The position behind one more character. -/
def step (position : Position) (character : Char) : Position :=
  if character = '\n' then
    { line := position.line + 1, column := 0 }
  else
    { line := position.line, column := position.column + 1 }

/-- The position behind a text that starts at the beginning of a file. -/
def behind (text : List Char) : Position :=
  text.foldl step { line := 1, column := 0 }

/-- One position comes before another one. -/
def Precedes (first second : Position) : Prop :=
  first.line < second.line ∨
    first.line = second.line ∧ first.column < second.column

theorem Precedes.trans {first second third : Position}
    (left : Precedes first second) (right : Precedes second third) :
    Precedes first third := by
  unfold Precedes at *
  omega

theorem Precedes.irrefl (position : Position) : ¬ Precedes position position := by
  unfold Precedes
  omega

theorem precedes_step (position : Position) (character : Char) :
    Precedes position (position.step character) := by
  unfold Precedes step
  split
  · simp
  · simp

theorem precedes_foldl_step (position : Position) (character : Char)
    (rest : List Char) :
    Precedes position ((character :: rest).foldl step position) := by
  induction rest generalizing position character with
  | nil => exact precedes_step position character
  | cons next rest induction =>
      exact (precedes_step position character).trans
        (induction (position.step character) next)

theorem precedes_behind_append (first : List Char) {second : List Char}
    (more : second ≠ []) :
    Precedes (behind first) (behind (first ++ second)) := by
  cases second with
  | nil => exact absurd rfl more
  | cons character rest =>
      simp only [behind, List.foldl_append]
      exact precedes_foldl_step _ character rest

/-- Two leading parts of one text with the same position behind them are the
same part. -/
theorem behind_injective {first second firstRest secondRest : List Char}
    (equality : first ++ firstRest = second ++ secondRest)
    (same : behind first = behind second) : first = second := by
  rcases List.append_eq_append_iff.mp equality with
    ⟨middle, rfl, _⟩ | ⟨middle, rfl, _⟩
  · by_cases more : middle = []
    · simp [more]
    · have later := precedes_behind_append first more
      rw [← same] at later
      exact absurd later (Precedes.irrefl _)
  · by_cases more : middle = []
    · simp [more]
    · have later := precedes_behind_append second more
      rw [same] at later
      exact absurd later (Precedes.irrefl _)

end Position

namespace LineIndex

theorem lt_of_mem_laterLines {offset : Nat} {text : List Char}
    {line : Nat × List Char} (member : line ∈ laterLines offset text) :
    offset < line.1 := by
  induction text generalizing offset with
  | nil => simp [laterLines] at member
  | cons character rest induction =>
      have positive := character.utf8Size_pos
      simp only [laterLines] at member
      split at member
      · rcases List.mem_cons.mp member with rfl | member
        · simp only
          omega
        · have := induction member
          omega
      · have := induction member
        omega

/-- A line goes on up to the start of the next one. -/
theorem lineAt_eq_head {offset number start place : Nat}
    {text rest : List Char} (inside : offset ≤ place) :
    lineAt offset number ((start, text) :: laterLines place rest) =
      (number, start, text) := by
  cases lines : laterLines place rest with
  | nil => rfl
  | cons line lines' =>
      have member : line ∈ laterLines place rest := by
        rw [lines]
        exact List.mem_cons_self
      have later : place < line.1 := lt_of_mem_laterLines member
      have beyond : ¬ line.1 ≤ offset := by omega
      simp [lineAt, beyond]

/-- A line, with its number and its start, on which a position stands in front
of `after`. -/
def Holds (found : Nat × Nat × List Char) (offset : Nat)
    (position : Position) (after : List Char) : Prop :=
  found.1 = position.line ∧
    ∃ line, Text.cutAt? found.2.2 (offset - found.2.1) = some (line, after) ∧
      line.length = position.column

/-- Looking for the line of an offset is walking over the characters in front
of it; `taken` is what has been walked over since the start of the line. -/
theorem lineAt_holds {offset : Nat} (number start place : Nat)
    (taken before after : List Char)
    (here : place = start + Text.byteLength taken)
    (there : offset = place + Text.byteLength before) :
    Holds
      (lineAt offset number ((start, taken ++ before ++ after) ::
        laterLines place (before ++ after)))
      offset
      (before.foldl Position.step { line := number, column := taken.length })
      after := by
  induction before generalizing number start place taken with
  | nil =>
      simp only [List.append_nil, List.nil_append, List.foldl_nil]
      rw [lineAt_eq_head (by simp [there, Text.byteLength])]
      refine ⟨rfl, taken, ?_, rfl⟩
      simp only
      have bytes : offset - start = Text.byteLength taken := by
        simp only [Text.byteLength] at there
        omega
      rw [bytes, Text.cutAt?_append]
  | cons character before induction =>
      simp only [Text.byteLength] at there
      by_cases newline : character = '\n'
      · -- The walk goes on at the start of the next line.
        have next : place + character.utf8Size ≤ offset := by omega
        have further := induction (number + 1)
          (place + character.utf8Size) (place + character.utf8Size) []
          (by simp [Text.byteLength]) (by omega)
        simp only [List.cons_append, laterLines, newline, if_true, lineAt,
          List.foldl_cons, Position.step]
        simp only [newline] at next further
        simpa [next] using further
      · have further := induction number start
          (place + character.utf8Size) (taken ++ [character])
          (by simp [Text.byteLength, here, Nat.add_assoc]) (by omega)
        simp only [List.cons_append, laterLines, newline, if_false,
          List.foldl_cons, Position.step]
        simpa using further

/-- The position of an offset between two characters. -/
theorem location_byteLength (before after : List Char) :
    (ofText (before ++ after)).location (Text.byteLength before) =
      Position.behind before := by
  have inside : min (Text.byteLength before)
      (Text.byteLength (before ++ after)) = Text.byteLength before := by
    rw [Text.byteLength_append]
    omega
  have there : Text.byteLength before = 0 + Text.byteLength before := by simp
  obtain ⟨number, line, cut, column⟩ :=
    lineAt_holds 1 0 0 [] before after (by simp [Text.byteLength]) there
  simp only [List.nil_append, List.length_nil] at number cut column
  simp only [location, ofText, inside]
  rw [cut]
  simp only [number, column, Position.behind]

/-! ## Positions fit into words -/

theorem length_laterLines_le (offset : Nat) (text : List Char) :
    (laterLines offset text).length ≤ text.length := by
  induction text generalizing offset with
  | nil => simp [laterLines]
  | cons character rest induction =>
      have := induction (offset + character.utf8Size)
      simp only [laterLines]
      split
      · simp only [List.length_cons]
        omega
      · simp only [List.length_cons]
        omega

theorem lineAt_number_le (offset number : Nat)
    (lines : List (Nat × List Char)) :
    (lineAt offset number lines).1 ≤ number + (lines.length - 1) := by
  induction lines generalizing number with
  | nil => simp [lineAt]
  | cons line lines induction =>
      cases lines with
      | nil => simp [lineAt]
      | cons next later =>
          obtain ⟨start, text⟩ := next
          have further := induction (number + 1)
          simp only [lineAt]
          split
          · simp only [List.length_cons] at further ⊢
            omega
          · simp

/-- Whatever the offset, its position is bounded by the length of the text. -/
theorem location_le (text : List Char) (offset : Nat) :
    ((ofText text).location offset).line ≤ Text.byteLength text + 1 ∧
      ((ofText text).location offset).column ≤ Text.byteLength text := by
  have lines := lineAt_number_le (min offset (ofText text).length) 1
    (ofText text).lines
  have count := length_laterLines_le 0 text
  have bytes := Text.length_le_byteLength text
  have length : (ofText text).length = Text.byteLength text := rfl
  have number : (ofText text).lines.length ≤ text.length + 1 := by
    simp only [ofText, List.length_cons]
    omega
  simp only [location]
  split
  · next before after cut =>
      obtain ⟨_, size⟩ := Text.cutAt?_eq_some_iff.mp cut
      have characters := Text.length_le_byteLength before
      simp only
      omega
  · simp only
    omega

theorem location_lt_wordBound {text : List Char}
    (storable : Text.IsStorable text) (offset : Nat) :
    ((ofText text).location offset).line < Text.wordBound ∧
      ((ofText text).location offset).column < Text.wordBound := by
  obtain ⟨line, column⟩ := location_le text offset
  simp only [Text.IsStorable] at storable
  have room : Nat.pow 2 63 < Text.wordBound := by decide
  omega

end LineIndex

end SourceMark
