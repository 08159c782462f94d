import SourceMark.Proofs.Text.Pieces
import SourceMark.Text.Numeral

/-!
# Reading numerals back

The numeral of a number below the word bound is read back by both readers of
numbers, whatever follows its digits where the reader allows for that.  The
lenient reader finds a number exactly where digits stand behind blanks.
-/

namespace SourceMark

namespace Text

theorem isAsciiDigit_eq_isDigit (character : Char) :
    isAsciiDigit character = character.isDigit := by
  simp only [isAsciiDigit, Char.isDigit, Char.le_def]

theorem numeral_toList (value : Nat) :
    (numeral value).toList = Nat.toDigits 10 value :=
  Nat.toList_repr

theorem numeral_ne_nil (value : Nat) : (numeral value).toList ≠ [] := by
  rw [numeral_toList]
  exact Nat.toDigits_ne_nil

theorem isAsciiDigit_of_mem_numeral {value : Nat} {character : Char}
    (member : character ∈ (numeral value).toList) :
    isAsciiDigit character = true := by
  rw [numeral_toList] at member
  rw [isAsciiDigit_eq_isDigit]
  exact Nat.isDigit_of_mem_toDigits (by decide) (by decide) member

theorem isBlank_of_isAsciiDigit {character : Char}
    (digit : isAsciiDigit character = true) : isBlank character = false := by
  simp only [isAsciiDigit, Bool.and_eq_true, decide_eq_true_eq,
    Char.le_def, UInt32.le_iff_toNat_le] at digit
  have low : 48 ≤ character.toNat := digit.1
  have high : character.toNat ≤ 57 := digit.2
  simp only [isBlank, blankRanges, List.any_eq_false, List.mem_cons,
    List.not_mem_nil, or_false, Bool.and_eq_true, decide_eq_true_eq]
  rintro range (rfl | rfl | rfl | rfl | rfl | rfl | rfl | rfl | rfl | rfl)
  all_goals omega

theorem digitsValue_eq_ofDigitChars (digits : List Char) :
    digitsValue digits = Nat.ofDigitChars 10 digits 0 := by
  simp [digitsValue, Nat.ofDigitChars_eq_foldl, Nat.mul_comm]

theorem digitsValue_numeral (value : Nat) :
    digitsValue (numeral value).toList = value := by
  rw [digitsValue_eq_ofDigitChars, numeral_toList]
  exact Nat.ofDigitChars_ten_toDigits

theorem numeral_injective : Function.Injective numeral := by
  intro first second same
  have values := congrArg (fun text => digitsValue text.toList) same
  simpa only [digitsValue_numeral] using values

theorem boundedDigits?_numeral {value : Nat} (bound : value < wordBound) :
    boundedDigits? (numeral value).toList = some value := by
  have digits : (numeral value).toList.isEmpty = false :=
    List.isEmpty_eq_false_iff.mpr (numeral_ne_nil value)
  rw [boundedDigits?, digits, digitsValue_numeral]
  simp [bound]

/-- A run of digits ends where a character follows that is none. -/
theorem takeWhile_digits_append {digits rest : List Char}
    (run : ∀ character ∈ digits, isAsciiDigit character = true)
    (ended : ∀ character ∈ rest.head?, isAsciiDigit character = false) :
    (digits ++ rest).takeWhile isAsciiDigit = digits := by
  rw [List.takeWhile_append_of_pos run]
  cases rest with
  | nil => simp
  | cons character rest =>
      have stop := ended character (by simp)
      simp [stop]

theorem takeWhile_numeral_append (value : Nat) {rest : List Char}
    (ended : ∀ character ∈ rest.head?, isAsciiDigit character = false) :
    ((numeral value).toList ++ rest).takeWhile isAsciiDigit =
      (numeral value).toList :=
  takeWhile_digits_append (fun _ member => isAsciiDigit_of_mem_numeral member)
    ended

theorem dropWhile_numeral_append (value : Nat) {rest : List Char}
    (ended : ∀ character ∈ rest.head?, isAsciiDigit character = false) :
    ((numeral value).toList ++ rest).dropWhile isAsciiDigit = rest := by
  rw [List.dropWhile_append_of_pos
    (fun _ member => isAsciiDigit_of_mem_numeral member)]
  cases rest with
  | nil => simp
  | cons character rest =>
      have stop := ended character (by simp)
      simp [stop]

theorem trimStart_numeral (value : Nat) :
    trimStart (numeral value).toList = (numeral value).toList := by
  cases equality : (numeral value).toList with
  | nil => rfl
  | cons digit digits =>
      have member : digit ∈ (numeral value).toList := by simp [equality]
      have visible :=
        isBlank_of_isAsciiDigit (isAsciiDigit_of_mem_numeral member)
      simp [trimStart, visible]

theorem trim_numeral (value : Nat) :
    trim (numeral value).toList = (numeral value).toList := by
  have shown (character : Char) (member : character ∈ (numeral value).toList) :
      isBlank character = false :=
    isBlank_of_isAsciiDigit (isAsciiDigit_of_mem_numeral member)
  apply trim_eq_self
  · intro first starts
    exact shown first (List.mem_of_mem_head? starts)
  · intro last ends
    exact shown last (List.mem_of_mem_getLast? ends)

/-! ## Numbers at the start of a text -/

/-- A text starts with the digits of a number that fits into a word.  Blanks may
stand in front of the digits, and anything but a digit may follow them. -/
def StartsWithNumber (text : List Char) (number : Nat) : Prop :=
  ∃ blanks digits rest, text = blanks ++ (digits ++ rest) ∧
    (∀ character ∈ blanks, isBlank character = true) ∧
    digits ≠ [] ∧
    (∀ character ∈ digits, isAsciiDigit character = true) ∧
    (∀ character ∈ rest.head?, isAsciiDigit character = false) ∧
    Nat.ofDigitChars 10 digits 0 = number ∧ number < wordBound

theorem boundedDigits?_eq_some_iff {digits : List Char} {number : Nat} :
    boundedDigits? digits = some number ↔
      digits ≠ [] ∧ Nat.ofDigitChars 10 digits 0 = number ∧
        number < wordBound := by
  rw [← digitsValue_eq_ofDigitChars]
  unfold boundedDigits?
  constructor
  · intro found
    split at found
    · simp at found
    · next inhabited =>
        obtain ⟨bound, value⟩ := Option.ite_none_right_eq_some.mp found
        obtain rfl := by simpa using value
        exact ⟨by simpa using inhabited, rfl, bound⟩
  · rintro ⟨inhabited, rfl, bound⟩
    simp [inhabited, bound]

/-- In front of a digit, what is trimmed are the blanks. -/
theorem trimStart_blanks_append {blanks digits rest : List Char}
    (blank : ∀ character ∈ blanks, isBlank character = true)
    (inhabited : digits ≠ [])
    (run : ∀ character ∈ digits, isAsciiDigit character = true) :
    trimStart (blanks ++ (digits ++ rest)) = digits ++ rest := by
  rw [trimStart, List.dropWhile_append_of_pos blank]
  cases digits with
  | nil => exact absurd rfl inhabited
  | cons digit digits =>
      have visible := isBlank_of_isAsciiDigit (run digit (by simp))
      simp [visible]

theorem leadingNumber?_eq_some_iff {text : List Char} {number : Nat} :
    leadingNumber? text = some number ↔ StartsWithNumber text number := by
  rw [leadingNumber?, boundedDigits?_eq_some_iff]
  constructor
  · rintro ⟨inhabited, value, bound⟩
    have whole : text = text.takeWhile isBlank ++
        ((trimStart text).takeWhile isAsciiDigit ++
          (trimStart text).dropWhile isAsciiDigit) := by
      rw [List.takeWhile_append_dropWhile, trimStart,
        List.takeWhile_append_dropWhile]
    refine ⟨_, _, _, whole, ?_, inhabited, ?_, ?_, value, bound⟩
    · exact List.all_eq_true.mp List.all_takeWhile
    · exact List.all_eq_true.mp List.all_takeWhile
    · intro character first
      have stopped := List.head?_dropWhile_not isAsciiDigit (trimStart text)
      rw [Option.mem_def.mp first] at stopped
      exact stopped
  · rintro ⟨blanks, digits, rest, rfl, blank, inhabited, run, ended, value⟩
    rw [trimStart_blanks_append blank inhabited run,
      takeWhile_digits_append run ended]
    exact ⟨inhabited, value⟩

theorem leadingNumber?_numeral {value : Nat} (bound : value < wordBound) :
    leadingNumber? (numeral value).toList = some value := by
  have run : ((numeral value).toList ++ []).takeWhile isAsciiDigit =
      (numeral value).toList := takeWhile_numeral_append value (by simp)
  rw [List.append_nil] at run
  rw [leadingNumber?, trimStart_numeral, run, boundedDigits?_numeral bound]

theorem wholeNumber?_numeral {value : Nat} (bound : value < wordBound) :
    wholeNumber? (numeral value).toList = some value := by
  have all : (numeral value).toList.all isAsciiDigit = true := by
    rw [List.all_eq_true]
    exact fun _ member => isAsciiDigit_of_mem_numeral member
  have read := boundedDigits?_numeral bound
  unfold wholeNumber?
  split
  · next rest equality =>
      have member : '+' ∈ (numeral value).toList := by simp [equality]
      have digit := isAsciiDigit_of_mem_numeral member
      simp [isAsciiDigit] at digit
  · simp [all, read]

end Text

end SourceMark
