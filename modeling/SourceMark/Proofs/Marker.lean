import SourceMark.Marker
import SourceMark.Proofs.Location

/-!
# Escaped attribute values

A value is escaped character by character, so escaping goes through both parts
of a joined text.  No quote is left in an escaped value, no bracket comes in,
and one pass from the left puts the value back; it is the only text without
quotes and without loose ampersands of which that is true.
-/

namespace SourceMark

namespace Text

theorem replaceChar_append (target : Char) (replacement first second : List Char) :
    replaceChar target replacement (first ++ second) =
      replaceChar target replacement first ++
        replaceChar target replacement second := by
  induction first with
  | nil => rfl
  | cons character rest induction =>
      by_cases hit : character = target
      · simp [replaceChar, hit, induction]
      · simp [replaceChar, hit, induction]

end Text

namespace Marker

theorem escape_append (first second : List Char) :
    escape (first ++ second) = escape first ++ escape second := by
  simp [escape, Text.replaceChar_append]

theorem escape_cons (character : Char) (rest : List Char) :
    escape (character :: rest) = escape [character] ++ escape rest :=
  escape_append [character] rest

theorem escape_ampersand : escape ['&'] = "&amp;".toList := by decide

theorem escape_quote : escape ['"'] = "&quot;".toList := by decide

theorem escape_other {character : Char} (ampersand : character ≠ '&')
    (quote : character ≠ '"') : escape [character] = [character] := by
  simp [escape, Text.replaceChar, ampersand, quote]

theorem quote_notMem_escape (value : List Char) : '"' ∉ escape value := by
  induction value with
  | nil => simp [escape, Text.replaceChar]
  | cons character rest induction =>
      rw [escape_cons]
      by_cases ampersand : character = '&'
      · simp [ampersand, escape_ampersand, induction]
      · by_cases quote : character = '"'
        · simp [quote, escape_quote, induction]
        · simp [escape_other ampersand quote, induction, Ne.symm quote]

theorem unescape_cons_of_ne {character : Char} (rest : List Char)
    (different : character ≠ '&') :
    unescape (character :: rest) = character :: unescape rest := by
  rw [unescape.eq_def]
  split
  · next equality => simp_all
  · next equality => simp_all
  · next equality =>
      obtain ⟨rfl, rfl⟩ := List.cons.inj equality
      rfl
  · next equality => simp at equality

/-- Escaping loses nothing. -/
theorem unescape_of_escape (value : List Char) :
    unescape (escape value) = value := by
  induction value with
  | nil => rfl
  | cons character rest induction =>
      rw [escape_cons]
      by_cases ampersand : character = '&'
      · simp [ampersand, escape_ampersand, unescape, induction]
      · by_cases quote : character = '"'
        · simp [quote, escape_quote, unescape, induction]
        · rw [escape_other ampersand quote, List.singleton_append,
            unescape_cons_of_ne _ ampersand, induction]

theorem ampersand_of_suffix_escape {value rest : List Char}
    (within : '&' :: rest <:+ escape value) :
    "amp;".toList <+: rest ∨ "quot;".toList <+: rest := by
  induction value with
  | nil => simp [escape, Text.replaceChar] at within
  | cons character value induction =>
      rw [escape_cons] at within
      by_cases ampersand : character = '&'
      · have here : rest = "amp;".toList ++ escape value ∨
            '&' :: rest <:+ escape value := by
          simpa [ampersand, escape_ampersand, List.suffix_cons_iff]
            using within
        rcases here with rfl | later
        · exact .inl (List.prefix_append _ _)
        · exact induction later
      · by_cases quote : character = '"'
        · have here : rest = "quot;".toList ++ escape value ∨
              '&' :: rest <:+ escape value := by
            simpa [quote, escape_quote, List.suffix_cons_iff] using within
          rcases here with rfl | later
          · exact .inr (List.prefix_append _ _)
          · exact induction later
        · have later : '&' :: rest <:+ escape value := by
            simpa [escape_other ampersand quote, List.suffix_cons_iff,
              Ne.symm ampersand] using within
          exact induction later

/-- What can stand for a value between double quotes: no quote is in it, an
escape starts at each of its ampersands, and one pass from the left puts the
value back. -/
structure IsEscaped (value escaped : List Char) : Prop where
  back : unescape escaped = value
  quoteless : '"' ∉ escaped
  ampersands : ∀ rest, '&' :: rest <:+ escaped →
    "amp;".toList <+: rest ∨ "quot;".toList <+: rest

theorem IsEscaped.of_suffix {value escaped ending : List Char}
    (proper : IsEscaped value escaped) (suffix : ending <:+ escaped) :
    IsEscaped (unescape ending) ending where
  back := rfl
  quoteless member := proper.quoteless (suffix.subset member)
  ampersands rest within := proper.ampersands rest (within.trans suffix)

theorem IsEscaped.eq_escape {value escaped : List Char}
    (proper : IsEscaped value escaped) : escaped = escape value := by
  obtain rfl := proper.back
  induction escaped using unescape.induct with
  | case1 rest induction =>
      have later := induction
        (proper.of_suffix (by simp [List.suffix_cons_iff]))
      rw [unescape, escape_cons, escape_ampersand, ← later]
      rfl
  | case2 rest induction =>
      have later := induction
        (proper.of_suffix (by simp [List.suffix_cons_iff]))
      rw [unescape, escape_cons, escape_quote, ← later]
      rfl
  | case3 character rest noAmpersand noQuote induction =>
      have later := induction (proper.of_suffix (List.suffix_cons _ _))
      -- An ampersand would start one of the escapes, which have been dealt
      -- with.
      have ampersand : character ≠ '&' := by
        rintro rfl
        rcases proper.ampersands rest List.suffix_rfl with ⟨_, rfl⟩ | ⟨_, rfl⟩
        · exact noAmpersand _ rfl rfl
        · exact noQuote _ rfl rfl
      have quote : character ≠ '"' := by
        rintro rfl
        exact proper.quoteless List.mem_cons_self
      rw [unescape_cons_of_ne rest ampersand, escape_cons,
        escape_other ampersand quote, ← later]
      rfl
  | case4 => rfl

/-- There is one escaped form of each value. -/
theorem isEscaped_iff {value escaped : List Char} :
    IsEscaped value escaped ↔ escaped = escape value := by
  constructor
  · exact IsEscaped.eq_escape
  · rintro rfl
    exact {
      back := unescape_of_escape value
      quoteless := quote_notMem_escape value
      ampersands := fun _ within => ampersand_of_suffix_escape within }

theorem attributeText_toList (name : String) (location : Location) :
    (attributeText name location).toList =
      ' ' :: (name.toList ++ '=' :: '"' ::
        (escape location.encode.toList ++ ['"'])) := by
  simp [attributeText]

/-- Escaping brings in no characters but those of the escapes. -/
theorem mem_of_mem_escape {character : Char} {value : List Char}
    (member : character ∈ escape value) :
    character ∈ value ∨ character ∈ "&amp;".toList ++ "&quot;".toList := by
  induction value with
  | nil => simp [escape, Text.replaceChar] at member
  | cons first rest induction =>
      rw [escape_cons] at member
      rcases List.mem_append.mp member with here | later
      · by_cases ampersand : first = '&'
        · rw [ampersand, escape_ampersand] at here
          exact .inr (List.mem_append_left _ here)
        · by_cases quote : first = '"'
          · rw [quote, escape_quote] at here
            exact .inr (List.mem_append_right _ here)
          · rw [escape_other ampersand quote, List.mem_singleton] at here
            exact .inl (here ▸ List.mem_cons_self)
      · rcases induction later with inside | escapes
        · exact .inl (List.mem_cons_of_mem first inside)
        · exact .inr escapes

/-- The location of a file without a bracket in its name is written without
one. -/
theorem bracket_notMem_encode {location : Location}
    (plain : '<' ∉ location.file.toList) :
    '<' ∉ location.encode.toList := by
  have digits (value : Nat) : '<' ∉ (Text.numeral value).toList := by
    intro member
    exact absurd (Text.isAsciiDigit_of_mem_numeral member) (by decide)
  rw [Location.encode_toList]
  simp [plain, digits]

/-- The attribute with the location of a file without a bracket in its name is
written without one. -/
theorem bracket_notMem_attributeText {location : Location}
    (plain : '<' ∉ location.file.toList) :
    '<' ∉ (attributeText combined location).toList := by
  have named : '<' ∉ combined.toList := by decide
  have value : '<' ∉ escape location.encode.toList := by
    intro member
    rcases mem_of_mem_escape member with inside | escapes
    · exact bracket_notMem_encode plain inside
    · exact absurd escapes (by decide)
  rw [attributeText_toList]
  simp [named, value]

end Marker

end SourceMark
