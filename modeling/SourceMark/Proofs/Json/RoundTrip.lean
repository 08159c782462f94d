import SourceMark.Json.Printer
import SourceMark.Json.Reader
import SourceMark.Proofs.Text.Numerals

/-!
# Reading written JSON back

The compact form of a value is read back as the value itself.  Two values have
no form to read back: numbers that are kept as they were written, whose text is
arbitrary, and spoiled values, which are written as `null`.  The others are
called plain.
-/

namespace SourceMark

namespace Json

/-! ## Texts between quotes -/

theorem spoilIf_false
    (found : Option (Option (List Char) × List Char)) :
    spoilIf false found = found := by
  cases found with
  | none => rfl
  | some found => rfl

theorem hexValue?_hexDigit : ∀ value < 16,
    Text.hexValue? (hexDigit value) = some value := by
  decide

/-- A character is written as a short escape, as a number, or as itself. -/
theorem escapeChar_cases (character : Char) :
    (∃ letter, shortEscape? letter = some character ∧
      escapeChar character = ['\\', letter]) ∨
    (character.toNat < 0x20 ∧ escapeChar character =
      ['\\', 'u', '0', '0', hexDigit (character.toNat / 16),
        hexDigit (character.toNat % 16)]) ∨
    (character ≠ '"' ∧ character ≠ '\\' ∧ ¬ character.toNat < 0x20 ∧
      escapeChar character = [character]) := by
  unfold escapeChar
  split
  · next quote => exact Or.inl ⟨'"', by rw [quote]; rfl, rfl⟩
  · next visible =>
      split
      · next backslash => exact Or.inl ⟨'\\', by rw [backslash]; rfl, rfl⟩
      · next unescaped =>
          split
          · next newline => exact Or.inl ⟨'n', by rw [newline]; rfl, rfl⟩
          split
          · next back => exact Or.inl ⟨'r', by rw [back]; rfl, rfl⟩
          split
          · next tab => exact Or.inl ⟨'t', by rw [tab]; rfl, rfl⟩
          split
          · next erase => exact Or.inl ⟨'b', by rw [erase]; rfl, rfl⟩
          split
          · next page => exact Or.inl ⟨'f', by rw [page]; rfl, rfl⟩
          split
          · next control => exact Or.inr (Or.inl ⟨control, rfl⟩)
          · next shown => exact Or.inr (Or.inr ⟨visible, unescaped, shown, rfl⟩)

theorem readTextAfter_short {letter character : Char}
    (short : shortEscape? letter = some character) (rest : List Char) :
    readTextAfter none ('\\' :: letter :: rest) =
      prepend character (readTextAfter none rest) := by
  have known : letter ≠ 'u' := by
    rintro rfl
    simp [shortEscape?] at short
  simp [readTextAfter, known, short, spoilIf_false]

theorem readTextAfter_number {character : Char}
    (control : character.toNat < 0x20) (rest : List Char) :
    readTextAfter none ('\\' :: 'u' :: '0' :: '0' ::
        hexDigit (character.toNat / 16) :: hexDigit (character.toNat % 16) ::
        rest) =
      prepend character (readTextAfter none rest) := by
  have high := hexValue?_hexDigit (character.toNat / 16) (by omega)
  have low := hexValue?_hexDigit (character.toNat % 16) (by omega)
  have number : Text.hexNumber? ['0', '0', hexDigit (character.toNat / 16),
      hexDigit (character.toNat % 16)] = some character.toNat := by
    have zero : Text.hexValue? '0' = some 0 := by decide
    simp [Text.hexNumber?, zero, high, low]
    omega
  have noTrailing : isTrailingHalf character.toNat = false := by
    simp [isTrailingHalf]
    omega
  have noLeading : isLeadingHalf character.toNat = false := by
    simp [isLeadingHalf]
    omega
  simp [readTextAfter, number, noTrailing, noLeading, spoilIf_false]

theorem readTextAfter_visible {character : Char} (unquoted : character ≠ '"')
    (unescaped : character ≠ '\\') (shown : ¬ character.toNat < 0x20)
    (rest : List Char) :
    readTextAfter none (character :: rest) =
      prepend character (readTextAfter none rest) := by
  simp [readTextAfter, unescaped, shown, spoilIf_false]

/-- A character is read back from the way it is escaped. -/
theorem readTextAfter_escapeChar (character : Char) (rest : List Char) :
    readTextAfter none (escapeChar character ++ rest) =
      prepend character (readTextAfter none rest) := by
  rcases escapeChar_cases character with ⟨letter, short, written⟩ |
    ⟨control, written⟩ | ⟨unquoted, unescaped, shown, written⟩
  · rw [written]
    exact readTextAfter_short short rest
  · rw [written]
    exact readTextAfter_number control rest
  · rw [written]
    exact readTextAfter_visible unquoted unescaped shown rest

/-- A text is read back up to its closing quote. -/
theorem readText_escaped (value rest : List Char) :
    readText (value.flatMap escapeChar ++ '"' :: rest) =
      some (some value, rest) := by
  unfold readText
  induction value with
  | nil => simp [readTextAfter, spoilIf_false]
  | cons character value induction =>
      rw [List.flatMap_cons, List.append_assoc, readTextAfter_escapeChar,
        induction]
      rfl

theorem quoted_toList_append (value : String) (rest : List Char) :
    (quoted value).toList ++ rest =
      '"' :: (value.toList.flatMap escapeChar ++ '"' :: rest) := by
  simp [quoted, quotedChars]

/-! ## Plain values -/

mutual

/-- A value that its compact form gives back. -/
def IsPlain : Json → Prop
  | natural value => value < Text.wordBound
  | decimal _ => False
  | spoiled => False
  | list items => ArePlain items
  | record fields => HavePlain fields
  | null => True
  | boolean _ => True
  | string _ => True

/-- All items are plain. -/
def ArePlain : List Json → Prop
  | [] => True
  | item :: items => IsPlain item ∧ ArePlain items

/-- All fields have plain values. -/
def HavePlain : List (String × Json) → Prop
  | [] => True
  | (_, value) :: fields => IsPlain value ∧ HavePlain fields

end

mutual

/-- How many lists and records enclose one another. -/
def nesting : Json → Nat
  | list items => nestingAll items + 1
  | record fields => nestingFields fields + 1
  | null => 0
  | boolean _ => 0
  | natural _ => 0
  | decimal _ => 0
  | string _ => 0
  | spoiled => 0

/-- The deepest nesting of some items. -/
def nestingAll : List Json → Nat
  | [] => 0
  | item :: items => max (nesting item) (nestingAll items)

/-- The deepest nesting of the values of some fields. -/
def nestingFields : List (String × Json) → Nat
  | [] => 0
  | (_, value) :: fields => max (nesting value) (nestingFields fields)

end

/-- What may follow a written value: nothing, or what separates or closes. -/
def Closes (rest : List Char) : Prop :=
  ∀ character ∈ rest.head?,
    character = ',' ∨ character = ']' ∨ character = '\x7d'

theorem skipGap_of_closes {rest : List Char} (closes : Closes rest) :
    skipGap rest = rest := by
  cases rest with
  | nil => rfl
  | cons character rest =>
      rcases closes character (by simp) with rfl | rfl | rfl
      all_goals simp [skipGap, isGap]

theorem closes_cons {character : Char} (rest : List Char)
    (closing : character = ',' ∨ character = ']' ∨ character = '\x7d') :
    Closes (character :: rest) := by
  intro other member
  obtain rfl : character = other := by simpa using member
  exact closing

/-- Only zero is written with a leading zero. -/
theorem head_toDigits_ne_zero {value : Nat} (positive : 0 < value) :
    (Nat.toDigits 10 value).head? ≠ some '0' := by
  induction value using Nat.strongRecOn with
  | ind value induction =>
      by_cases small : value < 10
      · rw [Nat.toDigits_of_lt_base small]
        have digits : ∀ digit < 10, 0 < digit →
            [Nat.digitChar digit].head? ≠ some '0' := by decide
        exact digits value small positive
      · have large : 10 ≤ value := by omega
        have head := induction (value / 10) (by omega) (by omega)
        rw [Nat.toDigits_of_base_le (by decide) large]
        cases digits : Nat.toDigits 10 (value / 10) with
        | nil => exact absurd digits Nat.toDigits_ne_nil
        | cons digit rest => simpa [digits] using head

theorem numeral_eq_cons (value : Nat) :
    ∃ digit digits, (Text.numeral value).toList = digit :: digits ∧
      Text.isAsciiDigit digit = true ∧ ¬ (digit = '0' ∧ digits ≠ []) := by
  cases equality : (Text.numeral value).toList with
  | nil => exact absurd equality (Text.numeral_ne_nil value)
  | cons digit digits =>
      refine ⟨digit, digits, rfl, ?_, ?_⟩
      · have member : digit ∈ (Text.numeral value).toList := by
          simp [equality]
        exact Text.isAsciiDigit_of_mem_numeral member
      · rintro ⟨zero, more⟩
        rw [Text.numeral_toList] at equality
        cases value with
        | zero =>
            rw [Nat.toDigits_zero] at equality
            exact more (List.cons.inj equality).2.symm
        | succ value =>
            apply head_toDigits_ne_zero (Nat.succ_pos value)
            rw [equality, zero]
            rfl

theorem ne_of_isAsciiDigit {digit : Char} (other : Char)
    (is : Text.isAsciiDigit digit = true)
    (not : Text.isAsciiDigit other = false) : digit ≠ other := by
  intro equality
  rw [equality, not] at is
  exact Bool.noConfusion is

theorem isAsciiDigit_of_closes {rest : List Char} (closes : Closes rest) :
    ∀ character ∈ rest.head?, Text.isAsciiDigit character = false := by
  intro character member
  rcases closes character member with rfl | rfl | rfl
  all_goals decide

theorem readFraction_of_closes {rest : List Char} (closes : Closes rest) :
    readFraction rest = some ([], rest) := by
  cases rest with
  | nil => rfl
  | cons character rest =>
      rcases closes character (by simp) with rfl | rfl | rfl
      all_goals rfl

theorem readExponent_of_closes {rest : List Char} (closes : Closes rest) :
    readExponent rest = some ([], rest) := by
  cases rest with
  | nil => rfl
  | cons character rest =>
      rcases closes character (by simp) with rfl | rfl | rfl
      all_goals rfl

theorem readNumber_numeral {value : Nat} {rest : List Char}
    (bound : value < Text.wordBound) (closes : Closes rest) :
    readNumber ((Text.numeral value).toList ++ rest) =
      some (natural value, rest) := by
  obtain ⟨digit, digits, equality, isDigit, noZero⟩ := numeral_eq_cons value
  have ended := isAsciiDigit_of_closes closes
  have run : readDigits (digit :: digits ++ rest) = (digit :: digits, rest) := by
    rw [readDigits, ← equality, Text.takeWhile_numeral_append value ended,
      Text.dropWhile_numeral_append value ended]
  have unsigned : readUnsigned (digit :: digits ++ rest) =
      some ((digit :: digits, [], []), rest) := by
    rw [readUnsigned, run]
    simp only [noZero, if_false, readFraction_of_closes closes,
      readExponent_of_closes closes]
  have number : Text.digitsValue (digit :: digits) = value := by
    rw [← equality, Text.digitsValue_numeral]
  have noSign := ne_of_isAsciiDigit '-' isDigit (by decide)
  rw [equality]
  rw [List.cons_append] at unsigned ⊢
  simp [readNumber, noSign, unsigned, number, bound]

theorem isGap_of_isAsciiDigit {digit : Char}
    (isDigit : Text.isAsciiDigit digit = true) : isGap digit = false := by
  simp only [isGap, Bool.or_eq_false_iff, decide_eq_false_iff_not]
  exact ⟨⟨⟨ne_of_isAsciiDigit ' ' isDigit (by decide),
    ne_of_isAsciiDigit '\n' isDigit (by decide)⟩,
    ne_of_isAsciiDigit '\t' isDigit (by decide)⟩,
    ne_of_isAsciiDigit '\r' isDigit (by decide)⟩

theorem readValue_numeral (depth : Nat) {value : Nat} {rest : List Char}
    (bound : value < Text.wordBound) (closes : Closes rest) :
    readValue depth ((Text.numeral value).toList ++ rest) =
      some (natural value, rest) := by
  have read := readNumber_numeral bound closes
  obtain ⟨digit, digits, equality, isDigit, _⟩ := numeral_eq_cons value
  have noMark : ∀ other, Text.isAsciiDigit other = false → digit ≠ other :=
    fun other => ne_of_isAsciiDigit other isDigit
  rw [equality] at read ⊢
  have gap : skipGap (digit :: digits ++ rest) = digit :: digits ++ rest := by
    simp [skipGap, isGap_of_isAsciiDigit isDigit]
  rw [readValue.eq_def]
  simp only [gap]
  split
  · next found => exact absurd (List.cons.inj found).1 (noMark 'n' (by decide))
  · next found => exact absurd (List.cons.inj found).1 (noMark 't' (by decide))
  · next found => exact absurd (List.cons.inj found).1 (noMark 'f' (by decide))
  · next found => exact absurd (List.cons.inj found).1 (noMark '"' (by decide))
  · next found => exact absurd (List.cons.inj found).1 (noMark '[' (by decide))
  · next found =>
      exact absurd (List.cons.inj found).1 (noMark '\x7b' (by decide))
  · exact read

theorem ofFields_named (fields : List (String × Json)) :
    ofFields (fields.map fun field => (some field.1, field.2)) =
      record fields := by
  have all : (fields.map fun field => (some field.1, field.2)).mapM
      (fun field : Option String × Json =>
        field.1.map fun name => (name, field.2)) = some fields := by
    induction fields with
    | nil => rfl
    | cons field fields induction =>
        simp only [List.map_cons, List.mapM_cons, induction]
        rfl
  simp only [ofFields, all]

/-- What a written value begins with is no gap and closes nothing. -/
theorem compact_eq_cons {value : Json} (plain : IsPlain value) :
    ∃ character rest, (compact value).toList = character :: rest ∧
      isGap character = false ∧ character ≠ ']' := by
  cases value with
  | null => exact ⟨'n', _, rfl, by decide, by decide⟩
  | boolean value =>
      cases value
      · exact ⟨'f', _, rfl, by decide, by decide⟩
      · exact ⟨'t', _, rfl, by decide, by decide⟩
  | natural value =>
      obtain ⟨digit, digits, equality, isDigit, _⟩ := numeral_eq_cons value
      exact ⟨digit, digits, equality, isGap_of_isAsciiDigit isDigit,
        ne_of_isAsciiDigit ']' isDigit (by decide)⟩
  | decimal literal => exact absurd plain id
  | spoiled => exact absurd plain id
  | string value =>
      refine ⟨'"', value.toList.flatMap escapeChar ++ ['"'], ?_, by decide,
        by decide⟩
      simp [compact, quoted, quotedChars]
  | list items =>
      refine ⟨'[', (compactItems items).toList ++ [']'], ?_, by decide,
        by decide⟩
      simp [compact]
  | record fields =>
      refine ⟨'\x7b', (compactFields fields).toList ++ ['\x7d'], ?_, by decide,
        by decide⟩
      simp [compact]

theorem compactItems_eq_cons {item : Json} (plain : IsPlain item)
    (items : List Json) :
    ∃ character rest, (compactItems (item :: items)).toList =
      character :: rest ∧ isGap character = false ∧ character ≠ ']' := by
  obtain ⟨character, rest, written, visible, noClose⟩ := compact_eq_cons plain
  cases items with
  | nil =>
      exact ⟨character, rest, by simpa [compactItems] using written, visible,
        noClose⟩
  | cons next items =>
      refine ⟨character, rest ++ ',' :: (compactItems (next :: items)).toList,
        ?_, visible, noClose⟩
      simp [compactItems, written]

theorem compactFields_eq_cons (field : String × Json)
    (fields : List (String × Json)) :
    ∃ rest, (compactFields (field :: fields)).toList = '"' :: rest := by
  cases fields with
  | nil => simp [compactFields, quoted, quotedChars]
  | cons next fields => simp [compactFields, quoted, quotedChars]

theorem length_le_compactItems {items : List Json} (plain : ArePlain items) :
    items.length ≤ (compactItems items).toList.length := by
  induction items with
  | nil => simp
  | cons item items induction =>
      obtain ⟨plainItem, plainItems⟩ := plain
      obtain ⟨character, rest, written, _⟩ := compact_eq_cons plainItem
      have later := induction plainItems
      cases items with
      | nil => simp [compactItems, written]
      | cons next items =>
          simp only [compactItems, String.toList_append, written,
            List.length_append, List.length_cons] at later ⊢
          omega

theorem length_le_compactFields (fields : List (String × Json)) :
    fields.length ≤ (compactFields fields).toList.length := by
  induction fields with
  | nil => simp
  | cons field fields induction =>
      cases fields with
      | nil => simp [compactFields, quoted, quotedChars]
      | cons next fields =>
          simp only [compactFields, String.toList_append, quoted, quotedChars,
            String.toList_ofList, List.length_append,
            List.length_cons] at induction ⊢
          omega

theorem readValue_bracket (depth : Nat) {character : Char} {text : List Char}
    (visible : isGap character = false) (inhabited : character ≠ ']') :
    readValue (depth + 1) ('[' :: character :: text) =
      (readItems (readValue depth) ((character :: text).length + 1)
        (character :: text)).map fun found => (list found.1, found.2) := by
  have outer : skipGap ('[' :: character :: text) =
      '[' :: character :: text := rfl
  have inner : skipGap (character :: text) = character :: text := by
    simp [skipGap, visible]
  simp [readValue, outer, inner, inhabited]

theorem readValue_brace (depth : Nat) (text : List Char) :
    readValue (depth + 1) ('\x7b' :: '"' :: text) =
      (readFields (readValue depth) (('"' :: text).length + 1)
        ('"' :: text)).map fun found => (ofFields found.1, found.2) := by
  have outer : skipGap ('\x7b' :: '"' :: text) = '\x7b' :: '"' :: text := rfl
  have inner : skipGap ('"' :: text) = '"' :: text := rfl
  simp [readValue, outer, inner]

theorem readField_written {readItem : List Char → Option (Json × List Char)}
    (name : String) {value : Json} {text rest : List Char}
    (read : readItem text = some (value, rest)) :
    readField readItem ((quoted name).toList ++ ':' :: text) =
      some ((some name, value), rest) := by
  rw [quoted_toList_append]
  simp [readField, skipGap, isGap, readText_escaped, read]

mutual

/-- A written value is read back, whatever closes what follows it. -/
theorem readValue_compact {value : Json} {depth : Nat} {rest : List Char}
    (plain : IsPlain value) (deep : nesting value ≤ depth)
    (closes : Closes rest) :
    readValue depth ((compact value).toList ++ rest) = some (value, rest) := by
  cases value with
  | null => simp [compact, readValue, skipGap, isGap]
  | boolean value =>
      cases value
      · simp [compact, readValue, skipGap, isGap]
      · simp [compact, readValue, skipGap, isGap]
  | natural value =>
      rw [compact]
      exact readValue_numeral depth plain closes
  | decimal literal => exact absurd plain id
  | spoiled => exact absurd plain id
  | string value =>
      rw [compact, quoted_toList_append]
      simp [readValue, skipGap, isGap, readText_escaped]
  | list items =>
      simp only [nesting] at deep
      obtain ⟨depth, rfl⟩ : ∃ less, depth = less + 1 :=
        ⟨depth - 1, by omega⟩
      cases items with
      | nil => simp [compact, compactItems, readValue, skipGap, isGap]
      | cons item items =>
          have fuelled := length_le_compactItems plain
          have read : readItems (readValue depth)
              (((compactItems (item :: items)).toList ++
                ']' :: rest).length + 1)
              ((compactItems (item :: items)).toList ++ ']' :: rest) =
                some (item :: items, rest) :=
            readItems_compact (by simp) plain (Nat.le_of_succ_le_succ deep)
              (by rw [List.length_append]; omega)
          obtain ⟨character, more, written, visible, noClose⟩ :=
            compactItems_eq_cons plain.1 items
          rw [written, List.cons_append] at read
          have whole : (compact (list (item :: items))).toList ++ rest =
              '[' :: character :: (more ++ ']' :: rest) := by
            simp [compact, written]
          rw [whole, readValue_bracket depth visible noClose, read]
          rfl
  | record fields =>
      simp only [nesting] at deep
      obtain ⟨depth, rfl⟩ : ∃ less, depth = less + 1 :=
        ⟨depth - 1, by omega⟩
      cases fields with
      | nil => simp [compact, compactFields, readValue, skipGap, isGap]
      | cons field fields =>
          have fuelled := length_le_compactFields (field :: fields)
          have read : readFields (readValue depth)
              (((compactFields (field :: fields)).toList ++
                '\x7d' :: rest).length + 1)
              ((compactFields (field :: fields)).toList ++ '\x7d' :: rest) =
                some ((field :: fields).map fun field =>
                  (some field.1, field.2), rest) :=
            readFields_compact (by simp) plain (Nat.le_of_succ_le_succ deep)
              (by rw [List.length_append]; omega)
          obtain ⟨more, written⟩ := compactFields_eq_cons field fields
          rw [written, List.cons_append] at read
          have whole : (compact (record (field :: fields))).toList ++ rest =
              '\x7b' :: '"' :: (more ++ '\x7d' :: rest) := by
            simp [compact, written]
          rw [whole, readValue_brace, read, Option.map_some,
            ofFields_named]

/-- List counterpart of `readValue_compact`. -/
theorem readItems_compact {items : List Json} {depth fuel : Nat}
    {rest : List Char} (inhabited : items ≠ []) (plain : ArePlain items)
    (deep : nestingAll items ≤ depth) (fuelled : items.length ≤ fuel) :
    readItems (readValue depth) fuel
      ((compactItems items).toList ++ ']' :: rest) = some (items, rest) := by
  obtain ⟨fuel, rfl⟩ : ∃ less, fuel = less + 1 := by
    have := List.length_pos_iff.mpr inhabited
    exact ⟨fuel - 1, by omega⟩
  cases items with
  | nil => exact absurd rfl inhabited
  | cons item items =>
      obtain ⟨plainItem, plainItems⟩ := plain
      simp only [nestingAll] at deep
      cases items with
      | nil =>
          have closes : Closes (']' :: rest) := closes_cons rest (by simp)
          have shallow : nesting item ≤ depth := by omega
          have read := readValue_compact plainItem shallow closes
          simp [compactItems, readItems, read, skipGap_of_closes closes]
      | cons next items =>
          have closes : Closes (',' ::
              ((compactItems (next :: items)).toList ++ ']' :: rest)) :=
            closes_cons _ (by simp)
          have shallow : nesting item ≤ depth := by omega
          have read := readValue_compact plainItem shallow closes
          have later : readItems (readValue depth) fuel
              ((compactItems (next :: items)).toList ++ ']' :: rest) =
                some (next :: items, rest) :=
            readItems_compact (by simp) plainItems (by omega)
              (by simp only [List.length_cons] at fuelled ⊢; omega)
          simp [compactItems, readItems, read, skipGap_of_closes closes, later]

/-- Field counterpart of `readValue_compact`. -/
theorem readFields_compact {fields : List (String × Json)} {depth fuel : Nat}
    {rest : List Char} (inhabited : fields ≠ []) (plain : HavePlain fields)
    (deep : nestingFields fields ≤ depth) (fuelled : fields.length ≤ fuel) :
    readFields (readValue depth) fuel
      ((compactFields fields).toList ++ '\x7d' :: rest) =
        some (fields.map fun field => (some field.1, field.2), rest) := by
  obtain ⟨fuel, rfl⟩ : ∃ less, fuel = less + 1 := by
    have := List.length_pos_iff.mpr inhabited
    exact ⟨fuel - 1, by omega⟩
  cases fields with
  | nil => exact absurd rfl inhabited
  | cons field fields =>
      obtain ⟨name, value⟩ := field
      obtain ⟨plainValue, plainFields⟩ := plain
      simp only [nestingFields] at deep
      cases fields with
      | nil =>
          have closes : Closes ('\x7d' :: rest) := closes_cons rest (by simp)
          have shallow : nesting value ≤ depth := by omega
          have read := readField_written name
            (readValue_compact plainValue shallow closes)
          simp [compactFields, readFields, read, skipGap_of_closes closes]
      | cons next fields =>
          have closes : Closes (',' ::
              ((compactFields (next :: fields)).toList ++ '\x7d' :: rest)) :=
            closes_cons _ (by simp)
          have shallow : nesting value ≤ depth := by omega
          have read := readField_written name
            (readValue_compact plainValue shallow closes)
          have later : readFields (readValue depth) fuel
              ((compactFields (next :: fields)).toList ++ '\x7d' :: rest) =
                some ((next :: fields).map fun field =>
                  (some field.1, field.2), rest) :=
            readFields_compact (by simp) plainFields (by omega)
              (by simp only [List.length_cons] at fuelled ⊢; omega)
          simp [compactFields, readFields, read, skipGap_of_closes closes,
            later]

end

/-! ## Whole texts -/

mutual

theorem nesting_le_length (value : Json) :
    nesting value ≤ (compact value).toList.length := by
  cases value with
  | list items =>
      have := nestingAll_le_length items
      simp only [nesting, compact, String.toList_append, List.length_append]
      have : "[".toList.length = 1 := rfl
      omega
  | record fields =>
      have := nestingFields_le_length fields
      simp only [nesting, compact, String.toList_append, List.length_append]
      have : "\x7b".toList.length = 1 := rfl
      omega
  | null => simp [nesting]
  | boolean value => simp [nesting]
  | natural value => simp [nesting]
  | decimal literal => simp [nesting]
  | string value => simp [nesting]
  | spoiled => simp [nesting]

theorem nestingAll_le_length (items : List Json) :
    nestingAll items ≤ (compactItems items).toList.length := by
  cases items with
  | nil => simp [nestingAll]
  | cons item items =>
      have here := nesting_le_length item
      have later := nestingAll_le_length items
      cases items with
      | nil =>
          simp only [nestingAll, compactItems]
          omega
      | cons next items =>
          simp only [nestingAll, compactItems, String.toList_append,
            List.length_append] at later ⊢
          omega

theorem nestingFields_le_length (fields : List (String × Json)) :
    nestingFields fields ≤ (compactFields fields).toList.length := by
  cases fields with
  | nil => simp [nestingFields]
  | cons field fields =>
      obtain ⟨name, value⟩ := field
      have here := nesting_le_length value
      have later := nestingFields_le_length fields
      cases fields with
      | nil =>
          simp only [nestingFields, compactFields, String.toList_append,
            List.length_append]
          omega
      | cons next fields =>
          simp only [nestingFields, compactFields, String.toList_append,
            List.length_append] at later ⊢
          omega

end

/-- The compact form of a plain value spells that value. -/
theorem skim?_compact {value : Json} (plain : IsPlain value) :
    skim? (compact value) = some value := by
  have closes : Closes [] := by simp [Closes]
  have read := readValue_compact plain (nesting_le_length value) closes
  rw [List.append_nil] at read
  simp [skim?, read, skipGap]

theorem read?_quoted (value : String) :
    read? (quoted value) = some (string value) := by
  have plain : IsPlain (string value) := by simp [IsPlain]
  have spelled := skim?_compact plain
  rw [compact] at spelled
  simp [read?, spelled, isSoundWithin]

/-!
## Records of texts

A record that holds nothing but texts is read back from its form with one field
a line.  The reader passes over the gaps in front of a name, a value and a
closing brace, so the lines and their indentation do not matter to it.  A text of
blanks alone spells no value.
-/

/-- The fields of some texts with their names. -/
def textFields (texts : List (String × String)) : List (String × Json) :=
  texts.map fun text => (text.1, string text.2)

/-- The record of some texts with their names. -/
def ofTexts (texts : List (String × String)) : Json :=
  record (textFields texts)

section Gaps

variable {gap : List Char} (text : List Char)

theorem skipGap_append (blank : ∀ character ∈ gap, isGap character = true) :
    skipGap (gap ++ text) = skipGap text :=
  List.dropWhile_append_of_pos blank

theorem readValue_gap (depth : Nat)
    (blank : ∀ character ∈ gap, isGap character = true) :
    readValue depth (gap ++ text) = readValue depth text := by
  rw [readValue.eq_def, readValue.eq_def depth text]
  simp only [skipGap_append text blank]

theorem readField_gap (readItem : List Char → Option (Json × List Char))
    (blank : ∀ character ∈ gap, isGap character = true) :
    readField readItem (gap ++ text) = readField readItem text := by
  unfold readField
  rw [skipGap_append text blank]

end Gaps

theorem isGap_of_mem_newLine (level : Nat) {character : Char}
    (member : character ∈ '\n' :: (indentation level).toList) :
    isGap character = true := by
  rcases List.mem_cons.mp member with rfl | indenting
  · decide
  · rw [indentation, String.toList_ofList] at indenting
    rw [List.eq_of_mem_replicate indenting]
    decide

/-- A line with one field, read with the line break in front of it. -/
theorem readField_line (depth level : Nat) (name value : String)
    (rest : List Char) :
    readField (readValue depth)
      ('\n' :: ((indentation level ++ quoted name ++ ": " ++
        quoted value).toList ++ rest)) =
      some ((some name, string value), rest) := by
  have readItem : readValue depth
      ([' '] ++ ((quoted value).toList ++ rest)) =
        some (string value, rest) := by
    rw [readValue_gap _ depth (by simp [isGap]), quoted_toList_append]
    simp [readValue, skipGap, isGap, readText_escaped]
  have read := readField_gap
    ((quoted name).toList ++ ':' :: ([' '] ++ ((quoted value).toList ++ rest)))
    (readValue depth) (fun _ => isGap_of_mem_newLine level)
  rw [readField_written name readItem] at read
  simpa using read

section Fields

variable (level : Nat)

theorem length_le_prettyFields (fields : List (String × Json)) :
    fields.length ≤ (prettyFields level fields).toList.length := by
  induction fields with
  | nil => simp
  | cons field fields induction =>
      cases fields with
      | nil =>
          simp only [prettyFields, String.toList_append, quoted, quotedChars,
            String.toList_ofList, List.length_append, List.length_cons]
          omega
      | cons next fields =>
          simp only [prettyFields, String.toList_append, quoted, quotedChars,
            String.toList_ofList, List.length_append,
            List.length_cons] at induction ⊢
          omega

theorem prettyFields_eq_append (field : String × Json)
    (fields : List (String × Json)) :
    ∃ rest, (prettyFields level (field :: fields)).toList =
      (indentation level).toList ++ '"' :: rest := by
  cases fields with
  | nil => simp [prettyFields, quoted, quotedChars]
  | cons next fields => simp [prettyFields, quoted, quotedChars]

theorem prettyFields_texts (name value : String) (next : String × String)
    (texts : List (String × String)) (rest : List Char) :
    (prettyFields level
        (textFields ((name, value) :: next :: texts))).toList ++ rest =
      (indentation level ++ quoted name ++ ": " ++ quoted value).toList ++
        ',' :: '\n' ::
          ((prettyFields level (textFields (next :: texts))).toList ++ rest) := by
  simp [textFields, prettyFields, prettyAt]

/-- Reading goes on behind a comma and stops behind a brace. -/
theorem readFields_pretty (depth : Nat) (rest : List Char)
    {texts : List (String × String)} {fuel : Nat} (inhabited : texts ≠ [])
    (fuelled : texts.length ≤ fuel) :
    readFields (readValue depth) fuel
      ('\n' :: ((prettyFields level (textFields texts)).toList ++
        '\n' :: '\x7d' :: rest)) =
      some (texts.map fun text => (some text.1, string text.2), rest) := by
  induction texts generalizing fuel with
  | nil => exact absurd rfl inhabited
  | cons text texts induction =>
      obtain ⟨name, value⟩ := text
      obtain ⟨fuel, rfl⟩ : ∃ less, fuel = less + 1 := by
        simp only [List.length_cons] at fuelled
        exact ⟨fuel - 1, by omega⟩
      cases texts with
      | nil =>
          have read := readField_line depth level name value
            ('\n' :: '\x7d' :: rest)
          simp only [textFields, List.map_cons, List.map_nil, prettyFields,
            prettyAt]
          rw [readFields, read]
          simp [skipGap, isGap]
      | cons next texts =>
          let later := '\n' :: ((prettyFields level
            (textFields (next :: texts))).toList ++ '\n' :: '\x7d' :: rest)
          have closes : Closes (',' :: later) := closes_cons later (by simp)
          rw [prettyFields_texts, readFields,
            readField_line depth level name value (',' :: later)]
          simp only [skipGap_of_closes closes]
          rw [induction (by simp) (Nat.le_of_succ_le_succ fuelled)]
          rfl

end Fields

theorem readValue_brace_gap (depth : Nat) {text rest : List Char}
    (inside : skipGap text = '"' :: rest) :
    readValue (depth + 1) ('\x7b' :: text) =
      (readFields (readValue depth) (text.length + 1) text).map
        fun found => (ofFields found.1, found.2) := by
  have outer : skipGap ('\x7b' :: text) = '\x7b' :: text := rfl
  simp [readValue, outer, inside]

theorem ofFields_texts (texts : List (String × String)) :
    ofFields (texts.map fun text => (some text.1, string text.2)) =
      ofTexts texts := by
  have collected := ofFields_named (textFields texts)
  rw [textFields, List.map_map] at collected
  exact collected

theorem skim?_pretty (texts : List (String × String)) :
    skim? (ofTexts texts).pretty = some (ofTexts texts) := by
  cases texts with
  | nil => rfl
  | cons text texts =>
      let lines := '\n' :: ((prettyFields 1
        (textFields (text :: texts))).toList ++ ['\n', '\x7d'])
      have whole : (ofTexts (text :: texts)).pretty.toList =
          '\x7b' :: lines := by
        simp [ofTexts, textFields, pretty, prettyAt, indentation, lines]
      have fuelled : (text :: texts).length ≤ lines.length + 1 := by
        have bound := length_le_prettyFields 1 (textFields (text :: texts))
        rw [textFields, List.length_map, ← textFields] at bound
        simp only [lines, List.length_cons, List.length_append] at bound ⊢
        omega
      obtain ⟨rest, inside⟩ : ∃ rest, skipGap lines = '"' :: rest := by
        obtain ⟨rest, written⟩ := prettyFields_eq_append 1
          (text.1, string text.2) (textFields texts)
        have passed := skipGap_append ('"' :: (rest ++ ['\n', '\x7d']))
          (fun _ => isGap_of_mem_newLine 1)
        refine ⟨rest ++ ['\n', '\x7d'], ?_⟩
        change skipGap ('\n' :: ((prettyFields 1
          ((text.1, string text.2) :: textFields texts)).toList ++ _)) = _
        rw [written]
        simpa [skipGap, isGap] using passed
      have read := readFields_pretty 1 lines.length []
        (List.cons_ne_nil text texts) fuelled
      simp only [skim?, whole, List.length_cons,
        readValue_brace_gap lines.length inside]
      rw [read, Option.map_some, ofFields_texts]
      rfl

/-- A record of texts is read back from the form with one field a line. -/
theorem read?_pretty (texts : List (String × String)) :
    read? (ofTexts texts).pretty = some (ofTexts texts) := by
  have sound : (ofTexts texts).isSoundWithin depthLimit = true := by
    simp [ofTexts, textFields, depthLimit, isSoundWithin]
  rw [read?, skim?_pretty, Option.filter_some, if_pos sound]

/-! ## Blank texts -/

theorem readNumber_of_isBlank {character : Char} (rest : List Char)
    (blank : Text.isBlank character = true) :
    readNumber (character :: rest) = none := by
  have unsigned : character ≠ '-' := by
    rintro rfl
    exact absurd blank (by decide)
  have nonDigit : Text.isAsciiDigit character = false := by
    cases digit : Text.isAsciiDigit character with
    | false => rfl
    | true =>
        have visible := Text.isBlank_of_isAsciiDigit digit
        exact absurd (visible.symm.trans blank) (by decide)
  have unread : readUnsigned (character :: rest) = none := by
    simp [readUnsigned, readDigits, nonDigit]
  simp [readNumber, unsigned, unread]

/-- A blank text spells no value. -/
theorem readValue_of_isBlankText {text : List Char} (depth : Nat)
    (blank : Text.isBlankText text = true) : readValue depth text = none := by
  have inside : ∀ character ∈ skipGap text, Text.isBlank character = true :=
    fun character member => List.all_eq_true.mp blank character
      ((List.dropWhile_sublist isGap).subset member)
  rw [readValue.eq_def]
  simp only
  cases left : skipGap text with
  | nil => simp [readNumber, readUnsigned, readDigits]
  | cons character rest =>
      have first : Text.isBlank character = true :=
        inside character (left ▸ List.mem_cons_self)
      have other : ∀ known, Text.isBlank known = false → character ≠ known := by
        rintro known visible rfl
        exact absurd (visible.symm.trans first) (by decide)
      have number := readNumber_of_isBlank rest first
      simp [other 'n' (by decide), other 't' (by decide), other 'f' (by decide),
        other '"' (by decide), other '[' (by decide), other '\x7b' (by decide),
        number]

theorem read?_of_isBlankText {content : String}
    (blank : Text.isBlankText content.toList = true) : read? content = none := by
  simp only [read?, skim?, readValue_of_isBlankText _ blank, Option.filter_none]

end Json

end SourceMark
