import SourceMark.Location
import SourceMark.Proofs.Text.Numerals

/-!
# Written locations are read back

A file name may contain colons, so both written forms are taken apart at their
last separators.  What follows these are digits, in which no colon occurs.  What
is read from any text whatever is said without the reader: by the parts that the
text has between its last two colons and behind them.
-/

namespace SourceMark

namespace Text

/-- No occurrence of a separator whose first character is absent. -/
theorem splitLast?_eq_none {mark : Char} {more text : List Char}
    (absent : mark ∉ text) : splitLast? (mark :: more) text = none := by
  induction text with
  | nil => simp [splitLast?]
  | cons character rest induction =>
      obtain ⟨different, absent⟩ := by simpa using absent
      simp [splitLast?, induction absent, different]

theorem splitLast?_single {mark : Char} {after : List Char}
    (before : List Char) (absent : mark ∉ after) :
    splitLast? [mark] (before ++ mark :: after) = some (before, after) := by
  induction before with
  | nil => simp [splitLast?, splitLast?_eq_none absent]
  | cons character rest induction => simp [splitLast?, induction]

theorem splitLast?_eq_none_iff {mark : Char} {text : List Char} :
    splitLast? [mark] text = none ↔ mark ∉ text := by
  refine ⟨fun missed member => ?_, splitLast?_eq_none⟩
  induction text with
  | nil => simp at member
  | cons character rest induction =>
      rw [splitLast?] at missed
      split at missed
      · simp at missed
      · next later =>
          have different : mark ≠ character := by
            rintro rfl
            simp at missed
          rcases List.mem_cons.mp member with here | behind
          · exact different here
          · exact induction later behind

/-- A text is split at a mark behind which there is no further one. -/
theorem splitLast?_single_iff {mark : Char} {text before after : List Char} :
    splitLast? [mark] text = some (before, after) ↔
      text = before ++ mark :: after ∧ mark ∉ after := by
  constructor
  · intro found
    induction text generalizing before with
    | nil => simp [splitLast?] at found
    | cons character rest induction =>
        rw [splitLast?] at found
        split at found
        · next inner behind later =>
            obtain ⟨rfl, rfl⟩ := by simpa using found
            obtain ⟨whole, absent⟩ := induction later
            exact ⟨by simp [whole], absent⟩
        · next later =>
            have absent := splitLast?_eq_none_iff.mp later
            split at found
            · next here =>
                obtain ⟨rfl, rfl⟩ := by simpa using found
                obtain rfl : mark = character := by simpa using here
                exact ⟨rfl, absent⟩
            · simp at found
  · rintro ⟨rfl, absent⟩
    exact splitLast?_single before absent

/-- There is one way to take a text apart at its last mark. -/
theorem parts_of_append_eq {mark : Char}
    {before after otherBefore otherAfter : List Char}
    (same : before ++ mark :: after = otherBefore ++ mark :: otherAfter)
    (absent : mark ∉ after) (otherAbsent : mark ∉ otherAfter) :
    before = otherBefore ∧ after = otherAfter := by
  have first := splitLast?_single before absent
  rw [same, splitLast?_single otherBefore otherAbsent] at first
  obtain ⟨rfl, rfl⟩ := by simpa using first
  exact ⟨rfl, rfl⟩

theorem splitLast?_double {mark : Char} {after : List Char}
    (before : List Char) (absent : mark ∉ after) :
    splitLast? [mark, mark] (before ++ mark :: mark :: after) =
      some (before, after) := by
  induction before with
  | nil =>
      -- The second mark does not begin a separator of its own.
      have second : splitLast? [mark, mark] (mark :: after) = none := by
        cases after with
        | nil => simp [splitLast?]
        | cons character rest =>
            have different : mark ≠ character := by
              intro equality
              exact absent (by simp [equality])
            rw [splitLast?, splitLast?_eq_none absent]
            simp [different]
      rw [List.nil_append, splitLast?, second]
      simp
  | cons character rest induction => simp [splitLast?, induction]

theorem colon_notMem_numeral (value : Nat) :
    ':' ∉ (numeral value).toList := by
  intro member
  have digit := isAsciiDigit_of_mem_numeral member
  simp [isAsciiDigit] at digit

end Text

namespace Location

theorem ofPosition_injective {file : String} {first second : Position}
    (same : ofPosition file first = ofPosition file second) :
    first = second := by
  cases first
  cases second
  simpa [ofPosition] using same

theorem encode_toList (location : Location) :
    location.encode.toList =
      (location.file.toList ++ ':' :: (Text.numeral location.line).toList) ++
        ':' :: (Text.numeral location.column).toList := by
  simp [encode]

/-- A location of a named file whose numbers fit into a word is read back. -/
theorem decode?_of_encode {location : Location}
    (named : location.file ≠ "")
    (line : location.line < Text.wordBound)
    (column : location.column < Text.wordBound) :
    decode? location.encode = some location := by
  have file : location.file.toList.isEmpty = false := by simpa using named
  unfold decode?
  rw [encode_toList,
    Text.splitLast?_single _ (Text.colon_notMem_numeral _)]
  simp only
  rw [Text.splitLast?_single _ (Text.colon_notMem_numeral _)]
  simp [Text.leadingNumber?_numeral line,
    Text.leadingNumber?_numeral column, file]

/-! ## What is read -/

/-- A text says a location: it has the file, which is not empty, and two further
parts without colons.  The first of these starts with the line and the second
one with the column, which is zero when no number starts there. -/
def IsSaidBy (location : Location) (value : String) : Prop :=
  ∃ lineText columnText,
    value.toList = location.file.toList ++
      ':' :: (lineText ++ ':' :: columnText) ∧
    location.file ≠ "" ∧ ':' ∉ lineText ∧ ':' ∉ columnText ∧
    Text.StartsWithNumber lineText location.line ∧
    (Text.StartsWithNumber columnText location.column ∨
      location.column = 0 ∧
        ∀ number, ¬ Text.StartsWithNumber columnText number)

/-- The column of a text, be there a number or not. -/
theorem getD_leadingNumber?_iff {text : List Char} {number : Nat} :
    (Text.leadingNumber? text).getD 0 = number ↔
      Text.StartsWithNumber text number ∨
        number = 0 ∧ ∀ other, ¬ Text.StartsWithNumber text other := by
  simp only [← Text.leadingNumber?_eq_some_iff]
  cases Text.leadingNumber? text with
  | none => simp [eq_comm]
  | some found => simp

theorem decode?_eq_some_iff {value : String} {location : Location} :
    decode? value = some location ↔ location.IsSaidBy value := by
  constructor
  · intro found
    unfold decode? at found
    split at found
    · simp at found
    · next before columnText last =>
        obtain ⟨whole, columnFree⟩ := Text.splitLast?_single_iff.mp last
        split at found
        · simp at found
        · next file lineText second =>
            obtain ⟨inner, lineFree⟩ := Text.splitLast?_single_iff.mp second
            split at found
            · simp at found
            · next line number =>
                obtain ⟨named, result⟩ := Option.ite_none_left_eq_some.mp found
                obtain rfl := Option.some.inj result
                refine ⟨lineText, columnText, ?_, ?_, lineFree, columnFree,
                  Text.leadingNumber?_eq_some_iff.mp number,
                  getD_leadingNumber?_iff.mp rfl⟩
                · simp [whole, inner]
                · simpa using named
  · rintro ⟨lineText, columnText, whole, named, lineFree, columnFree, line,
      column⟩
    have last : Text.splitLast? [':'] value.toList =
        some (location.file.toList ++ ':' :: lineText, columnText) := by
      rw [Text.splitLast?_single_iff]
      exact ⟨by simp [whole], columnFree⟩
    have second := Text.splitLast?_single location.file.toList lineFree
    have file : location.file.toList.isEmpty = false := by simpa using named
    have number := Text.leadingNumber?_eq_some_iff.mpr line
    have inLine := getD_leadingNumber?_iff.mpr column
    simp [decode?, last, second, number, file, inLine]

/-- The file of a location that is read is named, and its numbers fit. -/
theorem fits_of_decode? {value : String} {location : Location}
    (found : decode? value = some location) :
    location.file ≠ "" ∧ location.line < Text.wordBound ∧
      location.column < Text.wordBound := by
  obtain ⟨_, _, _, named, _, _, line, column⟩ := decode?_eq_some_iff.mp found
  obtain ⟨_, _, _, _, _, _, _, _, _, lineFits⟩ := line
  refine ⟨named, lineFits, ?_⟩
  rcases column with ⟨_, _, _, _, _, _, _, _, _, columnFits⟩ | ⟨zero, _⟩
  · exact columnFits
  · rw [zero]
    exact Nat.two_pow_pos 64

theorem encode_injective : Function.Injective encode := by
  intro first second same
  have texts := congrArg String.toList same
  rw [encode_toList, encode_toList] at texts
  obtain ⟨fronts, columns⟩ := Text.parts_of_append_eq texts
    (Text.colon_notMem_numeral _) (Text.colon_notMem_numeral _)
  obtain ⟨files, lines⟩ := Text.parts_of_append_eq fronts
    (Text.colon_notMem_numeral _) (Text.colon_notMem_numeral _)
  have file := String.toList_inj.mp files
  have line := Text.numeral_injective (String.toList_inj.mp lines)
  have column := Text.numeral_injective (String.toList_inj.mp columns)
  cases first
  cases second
  simp_all

/-- The form `file:line:column` loses nothing.  Reading succeeds exactly on the
texts that say a location, every location of a named file is read back, be there
colons in the name or not, and a location that was read is read again from the
form that it is written in. -/
theorem decode?_lossless :
    (∀ value location, decode? value = some location ↔
      location.IsSaidBy value) ∧
    (∀ value, decode? value = none ↔
      ¬ ∃ location : Location, location.IsSaidBy value) ∧
    (∀ file line column, file ≠ "" → line < Text.wordBound →
      column < Text.wordBound →
        decode? (encode { file, line, column }) =
          some { file, line, column }) ∧
    Function.Injective encode ∧
    (∀ value location, decode? value = some location →
      decode? location.encode = some location) := by
  refine ⟨fun _ _ => decode?_eq_some_iff, ?_, ?_, encode_injective, ?_⟩
  · intro value
    simp only [Option.eq_none_iff_forall_ne_some, ne_eq, decode?_eq_some_iff,
      not_exists]
  · intro file line column named lineFits columnFits
    exact decode?_of_encode named lineFits columnFits
  · intro value location found
    obtain ⟨named, lineFits, columnFits⟩ := fits_of_decode? found
    exact decode?_of_encode named lineFits columnFits

/-- The name of a file that ends like a location, and a text whose line has
blanks and letters around it and whose column does not fit into a word. -/
theorem decode?_lossless_report :
    let report : Location := { file := "report:12:30", line := 1, column := 2 }
    let value := "a:b: 7px:18446744073709551616"
    let read : Location := { file := "a:b", line := 7, column := 0 }
    (report.file ≠ "" ∧ report.line < Text.wordBound ∧
      report.column < Text.wordBound ∧ decode? report.encode = some report) ∧
    decode? value = some read ∧ read.IsSaidBy value ∧
      decode? read.encode = some read := by
  intro report value read
  obtain ⟨reads, _, back, _, again⟩ := decode?_lossless
  have named : report.file ≠ "" := by decide
  have line : report.line < Text.wordBound := by decide
  have column : report.column < Text.wordBound := by decide
  have found : decode? value = some read := by decide
  exact ⟨⟨named, line, column, back _ _ _ named line column⟩, found,
    (reads value read).mp found, again value read found⟩

end Location

namespace EntryKey

/-- A key of a named file whose number fits into a word is read back. -/
theorem decode?_of_encode {key : EntryKey} (named : key.file ≠ "")
    (entry : key.entry < Text.wordBound) :
    decode? key.encode = some key := by
  have file : key.file.toList.isEmpty = false := by simpa using named
  have written : key.encode.toList =
      key.file.toList ++ ':' :: ':' :: (Text.numeral key.entry).toList := by
    simp [encode]
  unfold decode?
  rw [written, Text.splitLast?_double _ (Text.colon_notMem_numeral _)]
  simp [Text.trim_numeral, Text.wholeNumber?_numeral entry, file]

end EntryKey

end SourceMark
