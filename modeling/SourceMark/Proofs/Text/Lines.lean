import Mathlib.Data.List.Induction
import SourceMark.Proofs.Text.Bytes
import SourceMark.Proofs.Text.OnePass
import SourceMark.Proofs.Text.Positions

/-!
# Lines found by halves

The starts of the lines grow, so the line of an offset can be looked for among
them by halves, whether a line starts there or not.  What is found is said by
the text alone: the line feeds in front of the offset give the line, and the
characters since the last one give the column.  A place is therefore led back
to its offset from the start of its line.
-/

namespace SourceMark

namespace Text

/-- Where the lines of a text start whose bytes start at an offset, the first
line apart: behind every byte that is a line feed. -/
def laterStarts (offset : Nat) (text : List Char) : List Nat :=
  (((bytes text).zipIdx offset).filter fun entry => entry.1 == 0x0A).map
    fun entry => entry.2 + 1

/-- Where the lines of a text start. -/
def lineStarts (text : List Char) : List Nat :=
  0 :: laterStarts 0 text

/-- Where a number stands in a growing list, or where it would have to. -/
inductive Hit where
  | found (place : Nat)
  | missing (place : Nat)
deriving Repr, DecidableEq

namespace Hit

/-- The place of the last number that is not greater than the one looked
for. -/
def last : Hit → Nat
  | found place => place
  | missing place => place - 1

/-- What a hit says about a list: the number stands at its place, or it lies
between the numbers in front of its place and the ones from there on. -/
def Holds (numbers : List Nat) (wanted : Nat) : Hit → Prop
  | found place => numbers[place]? = some wanted
  | missing place =>
      place ≤ numbers.length ∧
      (∀ index number, numbers[index]? = some number → index < place →
        number < wanted) ∧
      ∀ index number, numbers[index]? = some number → place ≤ index →
        wanted < number

end Hit

/-- Look for a number by halves between two places of a growing list. -/
def searchBetween (numbers : List Nat) (wanted low high : Nat) : Hit :=
  if high ≤ low then
    .missing low
  else
    let middle := low + (high - low) / 2
    let number := numbers[middle]?.getD 0
    if number = wanted then
      .found middle
    else if number < wanted then
      searchBetween numbers wanted (middle + 1) high
    else
      searchBetween numbers wanted low middle
termination_by high - low

/-- Look for a number by halves in a growing list. -/
def search (numbers : List Nat) (wanted : Nat) : Hit :=
  searchBetween numbers wanted 0 numbers.length

/-- The place of a byte offset, with its line looked for by halves. -/
def searchPosition (text : List Char) (offset : Nat) : Position :=
  let offset := min offset (byteLength text)
  let line := (search (lineStarts text) offset).last
  let start := (lineStarts text)[line]?.getD 0
  { line := line + 1
    column :=
      match slice? text start offset with
      | some inner => inner.length
      | none => offset - start }

/-! ## Searching by halves -/

section Search

variable {numbers : List Nat} {wanted : Nat}

/-- The half that is left still has the place of the number. -/
theorem holds_searchBetween (grows : numbers.Pairwise (· < ·)) (low high : Nat)
    (order : low ≤ high) (within : high ≤ numbers.length)
    (below : ∀ index number, numbers[index]? = some number → index < low →
      number < wanted)
    (above : ∀ index number, numbers[index]? = some number → high ≤ index →
      wanted < number) :
    (searchBetween numbers wanted low high).Holds numbers wanted := by
  fun_induction searchBetween numbers wanted low high with
  | case1 low high empty =>
      refine ⟨by omega, below, fun index number here behind => ?_⟩
      exact above index number here (by omega)
  | case2 low high more middle number same =>
      have inside : middle < numbers.length := by omega
      simp only [number, List.getElem?_eq_getElem inside,
        Option.getD_some] at same
      simp only [Hit.Holds, List.getElem?_eq_getElem inside, same]
  | case3 low high more middle number other less induction =>
      have inside : middle < numbers.length := by omega
      simp only [number, List.getElem?_eq_getElem inside,
        Option.getD_some] at less
      -- What stands in front of the middle is smaller than it.
      refine induction (by omega) within (fun index number here front => ?_) above
      obtain ⟨bound, rfl⟩ := List.getElem?_eq_some_iff.mp here
      rcases Nat.lt_or_eq_of_le (Nat.le_of_lt_succ front) with early | rfl
      · have step := List.pairwise_iff_getElem.mp grows index middle bound inside
          early
        omega
      · exact less
  | case4 low high more middle number other less induction =>
      have inside : middle < numbers.length := by omega
      simp only [number, List.getElem?_eq_getElem inside,
        Option.getD_some] at other less
      refine induction (by omega) (by omega) below
        (fun index number here behind => ?_)
      obtain ⟨bound, rfl⟩ := List.getElem?_eq_some_iff.mp here
      rcases Nat.lt_or_eq_of_le behind with late | rfl
      · have step := List.pairwise_iff_getElem.mp grows middle index inside bound
          late
        omega
      · omega

theorem holds_search (grows : numbers.Pairwise (· < ·)) (wanted : Nat) :
    (search numbers wanted).Holds numbers wanted := by
  apply holds_searchBetween grows 0 numbers.length (Nat.zero_le _)
    (Nat.le_refl _)
  · intro index number here front
    omega
  · intro index number here behind
    obtain ⟨bound, _⟩ := List.getElem?_eq_some_iff.mp here
    omega

/-- Where the first number is not too great, the search ends at the last one
that is not. -/
theorem last_of_search (grows : numbers.Pairwise (· < ·)) {first : Nat}
    (head : numbers[0]? = some first) (wanted : Nat) (early : first ≤ wanted) :
    ∃ number, numbers[(search numbers wanted).last]? = some number ∧
      number ≤ wanted ∧
      ∀ next, numbers[(search numbers wanted).last + 1]? = some next →
        wanted < next := by
  have holds := holds_search grows wanted
  cases hit : search numbers wanted with
  | found place =>
      rw [hit] at holds
      refine ⟨wanted, holds, Nat.le_refl _, fun next here => ?_⟩
      obtain ⟨bound, same⟩ := List.getElem?_eq_some_iff.mp holds
      obtain ⟨further, rfl⟩ := List.getElem?_eq_some_iff.mp here
      have step := List.pairwise_iff_getElem.mp grows place (place + 1) bound
        further (Nat.lt_succ_self place)
      simp only [Hit.last] at step ⊢
      omega
  | missing place =>
      rw [hit] at holds
      obtain ⟨within, below, above⟩ := holds
      have positive : 0 < place := by
        apply Nat.pos_of_ne_zero
        rintro rfl
        have late := above 0 first head (Nat.le_refl _)
        omega
      have inside : place - 1 < numbers.length := by omega
      have here := List.getElem?_eq_getElem inside
      refine ⟨_, here, Nat.le_of_lt (below _ _ here (by omega)), ?_⟩
      intro next there
      exact above _ next there (by simp only [Hit.last]; omega)

end Search

/-! ## The starts of lines -/

/-- A byte is the one of a line feed when its character is one. -/
theorem eq_feed_iff {character : Char} {byte : UInt8}
    (member : byte ∈ String.utf8EncodeChar character) :
    byte = 0x0A ↔ character = '\n' := by
  have ascii : IsAsciiTest (· == '\n') := by
    intro first second firstBeyond secondBeyond
    have other (character : Char) (beyond : 128 ≤ character.toNat) :
        (character == '\n') = false := by
      rw [beq_eq_false_iff_ne]
      rintro rfl
      exact absurd beyond (by decide)
    exact (other first firstBeyond).trans (other second secondBeyond).symm
  have same := test_of_mem_utf8 ascii member
  have value : Char.ofUInt8 byte = '\n' ↔ byte = 0x0A := by
    constructor
    · intro equality
      have number := congrArg (fun character => character.toNat) equality
      exact UInt8.toNat_inj.mp number
    · rintro rfl
      rfl
  rw [← value, ← beq_iff_eq, same, beq_iff_eq]

theorem count_bytes (text : List Char) :
    (bytes text).count 0x0A = text.count '\n' := by
  induction text with
  | nil => rfl
  | cons character rest induction =>
      rw [bytes_cons, List.count_append, induction, Nat.add_comm]
      by_cases feed : character = '\n'
      · subst feed
        rw [List.count_cons_self]
        rfl
      · have none : (String.utf8EncodeChar character).count 0x0A = 0 := by
          rw [List.count_eq_zero]
          exact fun member => feed ((eq_feed_iff member).mp rfl)
        rw [none, List.count_cons_of_ne feed]
        rfl

theorem laterStarts_cons (offset : Nat) (character : Char) (rest : List Char) :
    laterStarts offset (character :: rest) =
      if character = '\n' then
        (offset + character.utf8Size) ::
          laterStarts (offset + character.utf8Size) rest
      else
        laterStarts (offset + character.utf8Size) rest := by
  have length := String.length_utf8EncodeChar character
  unfold laterStarts
  rw [bytes_cons, List.zipIdx_append, List.filter_append, List.map_append,
    length]
  split
  · next feed =>
      subst feed
      rfl
  · next other =>
      have none : ((String.utf8EncodeChar character).zipIdx offset).filter
          (fun entry => entry.1 == 0x0A) = [] := by
        rw [List.filter_eq_nil_iff]
        rintro ⟨byte, place⟩ member feed
        have inside := List.fst_mem_of_mem_zipIdx member
        exact other ((eq_feed_iff inside).mp (by simpa using feed))
      rw [none]
      rfl

theorem lt_of_mem_laterStarts {offset : Nat} {text : List Char} {start : Nat}
    (member : start ∈ laterStarts offset text) : offset < start := by
  induction text generalizing offset with
  | nil => simp [laterStarts] at member
  | cons character rest induction =>
      have positive := character.utf8Size_pos
      rw [laterStarts_cons] at member
      split at member
      · rcases List.mem_cons.mp member with rfl | member
        · omega
        · have := induction member
          omega
      · have := induction member
        omega

theorem pairwise_laterStarts (offset : Nat) (text : List Char) :
    (laterStarts offset text).Pairwise (· < ·) := by
  induction text generalizing offset with
  | nil => simp [laterStarts]
  | cons character rest induction =>
      rw [laterStarts_cons]
      split
      · rw [List.pairwise_cons]
        exact ⟨fun start member => lt_of_mem_laterStarts member, induction _⟩
      · exact induction _

/-- The starts of the lines grow. -/
theorem pairwise_lineStarts (text : List Char) :
    (lineStarts text).Pairwise (· < ·) := by
  rw [lineStarts, List.pairwise_cons]
  exact ⟨fun start member => lt_of_mem_laterStarts member,
    pairwise_laterStarts 0 text⟩

end Text

namespace LineIndex

/-! ## The lines of an index -/

theorem map_fst_laterLines (offset : Nat) (text : List Char) :
    (laterLines offset text).map Prod.fst = Text.laterStarts offset text := by
  induction text generalizing offset with
  | nil => rfl
  | cons character rest induction =>
      rw [Text.laterStarts_cons]
      simp only [laterLines]
      split
      · rw [List.map_cons, induction]
      · exact induction _

/-- An index has the lines that start behind the line feeds. -/
theorem map_fst_lines (text : List Char) :
    (ofText text).lines.map Prod.fst = Text.lineStarts text := by
  rw [ofText, List.map_cons, map_fst_laterLines]
  rfl

/-- Each line goes with the text from its start on. -/
theorem rest_of_mem_laterLines {offset : Nat} {text : List Char}
    {line : Nat × List Char} (member : line ∈ laterLines offset text) :
    ∃ front, text = front ++ line.2 ∧
      line.1 = offset + Text.byteLength front := by
  induction text generalizing offset with
  | nil => simp [laterLines] at member
  | cons character rest induction =>
      simp only [laterLines] at member
      have further (inside :
          line ∈ laterLines (offset + character.utf8Size) rest) :
          ∃ front, character :: rest = front ++ line.2 ∧
            line.1 = offset + Text.byteLength front := by
        obtain ⟨front, rfl, start⟩ := induction inside
        exact ⟨character :: front, rfl, by
          rw [start, Text.byteLength, Nat.add_assoc]⟩
      split at member
      · rcases List.mem_cons.mp member with rfl | inside
        · exact ⟨[character], rfl, by simp [Text.byteLength]⟩
        · exact further inside
      · exact further member

theorem rest_of_mem_lines {text : List Char} {line : Nat × List Char}
    (member : line ∈ (ofText text).lines) :
    ∃ front, text = front ++ line.2 ∧ line.1 = Text.byteLength front := by
  rcases List.mem_cons.mp member with rfl | later
  · exact ⟨[], rfl, rfl⟩
  · obtain ⟨front, whole, start⟩ := rest_of_mem_laterLines later
    exact ⟨front, whole, by omega⟩

/-- The line of an offset is the last one that starts no later. -/
theorem lineAt_eq {offset index : Nat} {line : Nat × List Char}
    {lines : List (Nat × List Char)} (number : Nat)
    (grows : (lines.map Prod.fst).Pairwise (· < ·))
    (here : lines[index]? = some line) (reached : line.1 ≤ offset)
    (beyond : ∀ next, lines[index + 1]? = some next → offset < next.1) :
    lineAt offset number lines = (number + index, line.1, line.2) := by
  induction lines generalizing number index with
  | nil => simp at here
  | cons first lines induction =>
      rw [List.map_cons, List.pairwise_cons] at grows
      cases index with
      | zero =>
          obtain rfl : first = line := by simpa using here
          cases lines with
          | nil => rfl
          | cons next lines =>
              have late : ¬ next.1 ≤ offset := Nat.not_le.mpr (beyond next rfl)
              simp only [lineAt, if_neg late, Nat.add_zero]
      | succ index =>
          cases lines with
          | nil => simp at here
          | cons next lines =>
              -- The next line starts no later than the one that is looked
              -- for, so that the walk goes on to it.
              have early : next.1 ≤ line.1 := by
                cases index with
                | zero =>
                    obtain rfl : next = line := by simpa using here
                    exact Nat.le_refl _
                | succ index =>
                    have member : line ∈ lines :=
                      List.mem_of_getElem? (by simpa using here)
                    have order := (List.pairwise_cons.mp grows.2).1 line.1
                      (List.mem_map_of_mem member)
                    exact Nat.le_of_lt order
              have reached : next.1 ≤ offset := by omega
              have later := induction (number + 1) grows.2 here beyond
              simp only [lineAt, if_pos reached, later, Nat.add_comm,
                Nat.add_left_comm]

/-- Looking by halves finds the line of an offset. -/
theorem line_of_search (text : List Char) (offset : Nat) :
    ∃ start rest,
      (Text.lineStarts text)[(Text.search (Text.lineStarts text) offset).last]? =
        some start ∧ start ≤ offset ∧
      (∃ front, text = front ++ rest ∧ start = Text.byteLength front) ∧
      lineAt offset 1 (ofText text).lines =
        ((Text.search (Text.lineStarts text) offset).last + 1, start, rest) := by
  have grows := Text.pairwise_lineStarts text
  obtain ⟨start, here, reached, beyond⟩ :=
    Text.last_of_search grows rfl offset (Nat.zero_le _)
  generalize (Text.search (Text.lineStarts text) offset).last = index at *
  have starts (place : Nat) : (Text.lineStarts text)[place]? =
      (ofText text).lines[place]?.map Prod.fst := by
    rw [← map_fst_lines, List.getElem?_map]
  obtain ⟨⟨_, rest⟩, line, rfl⟩ := Option.map_eq_some_iff.mp
    ((starts index).symm.trans here)
  have next : ∀ next, (ofText text).lines[index + 1]? = some next →
      offset < next.1 := by
    intro next there
    exact beyond next.1 (by rw [starts, there]; rfl)
  have found := lineAt_eq 1 (by rwa [map_fst_lines]) line reached next
  refine ⟨_, rest, here, reached,
    rest_of_mem_lines (List.mem_of_getElem? line), ?_⟩
  rw [found, Nat.add_comm]

/-- Looking for the line by halves gives the same place. -/
theorem searchPosition_eq (text : List Char) (offset : Nat) :
    Text.searchPosition text offset = (ofText text).location offset := by
  obtain ⟨start, rest, here, reached, ⟨front, whole, place⟩, line⟩ :=
    line_of_search text (min offset (Text.byteLength text))
  have cut : Text.cutAt? text start = some (front, rest) :=
    Text.cutAt?_eq_some_iff.mpr ⟨whole, place.symm⟩
  have length : (ofText text).length = Text.byteLength text := rfl
  simp only [Text.searchPosition, location, length, here, line,
    Option.getD_some, Text.slice?, if_pos reached, cut]
  cases Text.cutAt? rest (min offset (Text.byteLength text) - start) with
  | none => rfl
  | some parts => rfl

end LineIndex

/-! ## Positions said by the text -/

/-- A text that is empty or ends with a line feed: what follows it starts a
line. -/
def Text.IsWholeLines (text : List Char) : Prop :=
  text = [] ∨ ∃ earlier, text = earlier ++ ['\n']

theorem Text.exists_wholeLines (text : List Char) :
    ∃ front inner, text = front ++ inner ∧ IsWholeLines front ∧
      '\n' ∉ inner := by
  induction text using List.reverseRecOn with
  | nil => exact ⟨[], [], rfl, .inl rfl, by simp⟩
  | append_singleton text character induction =>
      by_cases feed : character = '\n'
      · subst feed
        exact ⟨text ++ ['\n'], [], by simp, .inr ⟨text, rfl⟩, by simp⟩
      · obtain ⟨front, inner, rfl, whole, plain⟩ := induction
        refine ⟨front, inner ++ [character], by simp, whole, ?_⟩
        simpa [plain] using Ne.symm feed

namespace Position

theorem line_foldl_step (position : Position) (text : List Char) :
    (text.foldl step position).line = position.line + text.count '\n' := by
  induction text generalizing position with
  | nil => rfl
  | cons character rest induction =>
      rw [List.foldl_cons, induction, List.count_cons]
      by_cases feed : character = '\n'
      · simp [step, feed, Nat.add_assoc, Nat.add_comm 1]
      · simp [step, feed]

theorem column_foldl_step (position : Position) {text : List Char}
    (plain : '\n' ∉ text) :
    (text.foldl step position).column = position.column + text.length := by
  induction text generalizing position with
  | nil => rfl
  | cons character rest induction =>
      have other : character ≠ '\n' := by
        rintro rfl
        exact plain List.mem_cons_self
      rw [List.foldl_cons,
        induction (step position character)
          fun member => plain (List.mem_cons_of_mem _ member)]
      simp only [step, if_neg other, List.length_cons]
      omega

theorem line_behind (text : List Char) :
    (behind text).line = 1 + text.count '\n' :=
  line_foldl_step _ text

theorem column_behind {front inner : List Char}
    (whole : Text.IsWholeLines front) (plain : '\n' ∉ inner) :
    (behind (front ++ inner)).column = inner.length := by
  have start : (behind front).column = 0 := by
    rcases whole with rfl | ⟨earlier, rfl⟩
    · rfl
    · simp [behind, step]
  have walked := column_foldl_step (behind front) plain
  rw [start, Nat.zero_add] at walked
  rw [behind, List.foldl_append]
  exact walked

end Position

namespace LineIndex

theorem laterLines_of_feed (offset : Nat) (earlier rest : List Char) :
    (laterLines offset (earlier ++ '\n' :: rest))[earlier.count '\n']? =
      some (offset + Text.byteLength (earlier ++ ['\n']), rest) := by
  induction earlier generalizing offset with
  | nil => rfl
  | cons character earlier induction =>
      have later := induction (offset + character.utf8Size)
      by_cases feed : character = '\n'
      · subst feed
        simpa [laterLines, Text.byteLength, Nat.add_assoc] using later
      · simpa [laterLines, feed, List.count_cons_of_ne, Text.byteLength,
          Nat.add_assoc] using later

/-- Behind whole lines another one starts, and it has their number. -/
theorem lineStart?_of_wholeLines {front : List Char}
    (whole : Text.IsWholeLines front) (rest : List Char) :
    (ofText (front ++ rest)).lineStart? (1 + front.count '\n') =
      some (Text.byteLength front) := by
  rcases whole with rfl | ⟨earlier, rfl⟩
  · rfl
  · have later := laterLines_of_feed 0 earlier rest
    have number : 1 + (earlier ++ ['\n']).count '\n' =
        earlier.count '\n' + 1 + 1 := by
      rw [List.count_append, List.count_singleton_self]
      omega
    rw [number, lineStart?, ofText, List.getElem?_cons_succ, List.append_assoc,
      List.singleton_append, later, Option.map_some, Nat.zero_add]

/-- A place of a text and the start of its line, said by the bytes and the
characters of the text. -/
structure StandsAt (text : List Char) (offset start : Nat)
    (position : Position) : Prop where
  /-- The line is one more than the line feeds among the bytes in front. -/
  line : position.line = 1 + ((Text.bytes text).take offset).count 0x0A
  /-- From the start of the line, behind a line feed or at the beginning, the
  column leads to the offset, past no line feed. -/
  column : ∃ front inner after, text = front ++ (inner ++ after) ∧
    Text.byteLength front = start ∧ Text.byteLength (front ++ inner) = offset ∧
    Text.IsWholeLines front ∧ '\n' ∉ inner ∧ position.column = inner.length

/-- The place of an offset between characters, and the start of its line. -/
theorem exists_standsAt {text : List Char} {offset : Nat}
    (boundary : Text.isBoundary text offset = true) :
    ∃ start,
      (ofText text).lineStart? ((ofText text).location offset).line =
        some start ∧
      StandsAt text offset start ((ofText text).location offset) := by
  obtain ⟨before, after, rfl, rfl⟩ := Text.isBoundary_iff.mp boundary
  obtain ⟨front, inner, rfl, whole, plain⟩ := Text.exists_wholeLines before
  have feeds : (front ++ inner).count '\n' = front.count '\n' := by
    rw [List.count_append, List.count_eq_zero.mpr plain, Nat.add_zero]
  rw [location_byteLength]
  refine ⟨Text.byteLength front, ?_, ?_, ?_⟩
  · rw [Position.line_behind, feeds, List.append_assoc]
    exact lineStart?_of_wholeLines whole (inner ++ after)
  · rw [Position.line_behind, Text.bytes_append, ← Text.length_bytes,
      List.take_left, Text.count_bytes]
  · exact ⟨front, inner, after, List.append_assoc front inner after, rfl, rfl,
      whole, plain, Position.column_behind whole plain⟩

/-- Of two offsets between characters, the earlier one has the earlier
place. -/
theorem precedes_location {text : List Char} {first second : Nat}
    (firstBoundary : Text.isBoundary text first = true)
    (secondBoundary : Text.isBoundary text second = true)
    (order : first < second) :
    Position.Precedes ((ofText text).location first)
      ((ofText text).location second) := by
  obtain ⟨before, after, rfl, rfl⟩ := Text.isBoundary_iff.mp firstBoundary
  obtain ⟨longer, rest, whole, rfl⟩ := Text.isBoundary_iff.mp secondBoundary
  rw [location_byteLength, whole, location_byteLength]
  rcases List.append_eq_append_iff.mp whole with
    ⟨middle, rfl, _⟩ | ⟨middle, rfl, _⟩
  · apply Position.precedes_behind_append
    rintro rfl
    simp at order
  · rw [Text.byteLength_append] at order
    omega

theorem location_of_beyond {text : List Char} {offset : Nat}
    (beyond : Text.byteLength text < offset) :
    (ofText text).location offset =
      (ofText text).location (Text.byteLength text) := by
  have length : (ofText text).length = Text.byteLength text := rfl
  have clamped : min offset (Text.byteLength text) = Text.byteLength text := by
    omega
  simp only [location, length, clamped, Nat.min_self]

theorem line_le_lineCount (text : List Char) (offset : Nat) :
    ((ofText text).location offset).line ≤ (ofText text).lineCount := by
  have number := lineAt_number_le (min offset (ofText text).length) 1
    (ofText text).lines
  have positive : 0 < (ofText text).lines.length := Nat.succ_pos _
  have line : ((ofText text).location offset).line =
      (lineAt (min offset (ofText text).length) 1 (ofText text).lines).1 := by
    simp only [location]
    split
    · rfl
    · rfl
  rw [line, lineCount]
  omega

/-- The place of an offset is exact: it is said by the text, the start of its
line leads back to the offset, and later offsets have later places.  An offset
past the end stands for the end, no line is beyond the last one, and looking for
the line by halves gives the same place. -/
theorem location_exact (text : List Char) :
    (∀ offset, Text.isBoundary text offset = true → ∃ start,
      (ofText text).lineStart? ((ofText text).location offset).line =
        some start ∧
      StandsAt text offset start ((ofText text).location offset)) ∧
    (∀ offset, Text.byteLength text < offset →
      (ofText text).location offset =
        (ofText text).location (Text.byteLength text)) ∧
    (∀ first second, Text.isBoundary text first = true →
      Text.isBoundary text second = true → first < second →
      Position.Precedes ((ofText text).location first)
        ((ofText text).location second)) ∧
    (∀ first second, Text.isBoundary text first = true →
      Text.isBoundary text second = true →
      (ofText text).location first = (ofText text).location second →
      first = second) ∧
    (∀ offset, ((ofText text).location offset).line ≤
      (ofText text).lineCount) ∧
    ∀ offset, Text.searchPosition text offset =
      (ofText text).location offset := by
  refine ⟨fun _ => exists_standsAt, fun _ => location_of_beyond,
    fun _ _ => precedes_location, ?_, line_le_lineCount text,
    searchPosition_eq text⟩
  intro first second firstBoundary secondBoundary same
  rcases Nat.lt_trichotomy first second with before | equal | behind
  · have order := precedes_location firstBoundary secondBoundary before
    rw [same] at order
    exact absurd order (Position.Precedes.irrefl _)
  · exact equal
  · have order := precedes_location secondBoundary firstBoundary behind
    rw [same] at order
    exact absurd order (Position.Precedes.irrefl _)

/-- An empty line, a character of two bytes and a line feed at the end. -/
theorem location_exact_empty_line :
    let text := "a\n\né<p>\n".toList
    (Text.isBoundary text 5 = true ∧
      (ofText text).location 5 = { line := 3, column := 1 } ∧
      ∃ start, (ofText text).lineStart? 3 = some start ∧
        StandsAt text 5 start { line := 3, column := 1 }) ∧
    (Text.byteLength text < 30 ∧
      (ofText text).location 30 = (ofText text).location 9) ∧
    (Text.isBoundary text 2 = true ∧ 2 < 5 ∧
      Position.Precedes ((ofText text).location 2)
        ((ofText text).location 5)) ∧
    ((ofText text).location 5 = (ofText text).location 5 ∧ 5 = 5) := by
  intro text
  obtain ⟨places, clamps, grows, injective, _, _⟩ := location_exact text
  have inside : Text.isBoundary text 5 = true := by decide
  have early : Text.isBoundary text 2 = true := by decide
  have place : (ofText text).location 5 = { line := 3, column := 1 } := by
    decide
  have beyond : Text.byteLength text < 30 := by decide
  refine ⟨⟨inside, place, ?_⟩, ⟨beyond, clamps 30 beyond⟩,
    ⟨early, by decide, grows 2 5 early inside (by decide)⟩,
    ⟨rfl, injective 5 5 inside inside rfl⟩⟩
  have stands := places 5 inside
  rwa [place] at stands

end LineIndex

end SourceMark
