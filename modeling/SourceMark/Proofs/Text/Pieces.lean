import Mathlib.Data.List.DropRight
import SourceMark.Text.Blank
import SourceMark.Text.Search

/-!
# Texts trimmed and in pieces

Trimming takes a run of blanks away at either end of a text, and nothing that is
to be seen.  Dividing a text at one of its blanks loses nothing that is to be
seen either.  The pieces between the occurrences of a separator do not hold it,
and put together again they are the text.
-/

namespace SourceMark

namespace Text

/-- What is to be seen of a text: the characters that are no blanks. -/
def visible (text : List Char) : List Char :=
  text.filter fun character => !isBlank character

theorem visible_append (first second : List Char) :
    visible (first ++ second) = visible first ++ visible second :=
  List.filter_append first second

theorem visible_of_blank {text : List Char}
    (blank : isBlankText text = true) : visible text = [] := by
  rw [visible, List.filter_eq_nil_iff]
  intro character member
  simp [List.all_eq_true.mp blank character member]

/-! ## Trimming -/

theorem trimEnd_concat_of_blank {blank : Char} (isBlank : isBlank blank = true)
    (text : List Char) : trimEnd (text ++ [blank]) = trimEnd text := by
  induction text with
  | nil => simp [trimEnd, isBlank]
  | cons character text induction =>
      rw [List.cons_append, trimEnd, trimEnd, induction]

theorem trimEnd_concat_of_visible {last : Char} (shown : isBlank last = false)
    (text : List Char) : trimEnd (text ++ [last]) = text ++ [last] := by
  induction text with
  | nil => simp [trimEnd, shown]
  | cons character text induction =>
      rw [List.cons_append, trimEnd, induction]
      split
      · next nothing => simp at nothing
      · rfl

theorem trimEnd_eq_rdropWhile (text : List Char) :
    trimEnd text = text.rdropWhile isBlank := by
  induction text using List.reverseRecOn with
  | nil => rfl
  | append_singleton text last induction =>
      rw [List.rdropWhile_concat]
      split
      · next blank => rw [trimEnd_concat_of_blank blank, induction]
      · next shown =>
          exact trimEnd_concat_of_visible (Bool.eq_false_iff.mpr shown) text

/-- A text is its trimmed form between two runs of blanks. -/
theorem exists_trim (text : List Char) :
    ∃ before after, text = before ++ (trim text ++ after) ∧
      isBlankText before = true ∧ isBlankText after = true := by
  refine ⟨text.takeWhile isBlank, (trimStart text).rtakeWhile isBlank,
    ?_, List.all_takeWhile, ?_⟩
  · rw [trim, trimEnd_eq_rdropWhile, List.rdropWhile_append_rtakeWhile,
      trimStart, List.takeWhile_append_dropWhile]
  · exact List.all_eq_true.mpr fun _ member =>
      List.mem_rtakeWhile_imp member

theorem visible_trim (text : List Char) :
    visible (trim text) = visible text := by
  obtain ⟨before, after, whole, blankBefore, blankAfter⟩ := exists_trim text
  conv_rhs => rw [whole, visible_append, visible_append,
    visible_of_blank blankBefore, visible_of_blank blankAfter]
  simp

/-- Trimming takes away nothing but blanks. -/
theorem mem_trim {character : Char} {text : List Char}
    (shown : isBlank character = false) (member : character ∈ text) :
    character ∈ trim text := by
  have kept : character ∈ visible (trim text) := by
    rw [visible_trim]
    exact List.mem_filter.mpr ⟨member, by simp [shown]⟩
  exact (List.mem_filter.mp kept).1

theorem isInfix_trim (text : List Char) : trim text <:+: text := by
  obtain ⟨before, after, whole, _, _⟩ := exists_trim text
  exact ⟨before, after, by rw [List.append_assoc, ← whole]⟩

theorem isBlank_head_trim {text : List Char} :
    ∀ first ∈ (trim text).head?, isBlank first = false := by
  intro first member
  have leads : trim text <+: trimStart text := by
    rw [trim, trimEnd_eq_rdropWhile]
    exact List.rdropWhile_prefix isBlank _
  have starts : (trimStart text).head? = some first := by
    obtain ⟨later, whole⟩ := leads
    rw [← whole, List.head?_append, Option.mem_def.mp member]
    rfl
  have stops := List.head?_dropWhile_not isBlank text
  rw [← trimStart, starts] at stops
  simpa using stops

theorem isBlank_getLast_trim {text : List Char} :
    ∀ last ∈ (trim text).getLast?, isBlank last = false := by
  intro last member
  rw [trim, trimEnd_eq_rdropWhile] at member
  have filled : (trimStart text).rdropWhile isBlank ≠ [] := by
    intro nothing
    simp [nothing] at member
  rw [Option.mem_def, List.getLast?_eq_some_getLast filled] at member
  obtain rfl := Option.some.inj member
  exact Bool.eq_false_iff.mpr (List.rdropWhile_last_not isBlank _ filled)

/-- A text is trimmed when it neither starts nor ends with a blank. -/
theorem trim_eq_self {text : List Char}
    (starts : ∀ first ∈ text.head?, isBlank first = false)
    (ends : ∀ last ∈ text.getLast?, isBlank last = false) :
    trim text = text := by
  have started : trimStart text = text := by
    cases text with
    | nil => rfl
    | cons first rest => simp [trimStart, starts first rfl]
  rw [trim, started, trimEnd_eq_rdropWhile, List.rdropWhile_eq_self_iff]
  intro filled
  rw [Bool.not_eq_true]
  exact ends _ (List.getLast?_eq_some_getLast filled)

theorem trim_trim (text : List Char) : trim (trim text) = trim text :=
  trim_eq_self isBlank_head_trim isBlank_getLast_trim

theorem trimEnd_append_of_blank {after : List Char}
    (blank : isBlankText after = true) (text : List Char) :
    trimEnd (text ++ after) = trimEnd text := by
  have passed : ∀ character ∈ after.reverse, isBlank character = true := by
    intro character member
    exact List.all_eq_true.mp blank character (List.mem_reverse.mp member)
  rw [trimEnd_eq_rdropWhile, trimEnd_eq_rdropWhile, List.rdropWhile,
    List.reverse_append, List.dropWhile_append_of_pos passed, List.rdropWhile]

/-- Blanks around a text are trimmed. -/
theorem trim_between_blanks {before after : List Char}
    (blankBefore : isBlankText before = true)
    (blankAfter : isBlankText after = true) (text : List Char) :
    trim (before ++ (text ++ after)) = trim text := by
  have started : trimStart (before ++ (text ++ after)) =
      trimStart (text ++ after) :=
    List.dropWhile_append_of_pos (List.all_eq_true.mp blankBefore)
  rw [trim, started, trimStart, List.dropWhile_append]
  split
  · next nothing =>
      have dropped : after.dropWhile isBlank = [] :=
        List.dropWhile_eq_nil_iff.mpr (List.all_eq_true.mp blankAfter)
      rw [dropped, trim, trimStart, List.isEmpty_iff.mp nothing]
  · exact trimEnd_append_of_blank blankAfter _

/-! ## Pieces -/

section Pieces

variable {separator : Char} {text : List Char}

theorem splitOn_eq (separator : Char) (text : List Char) :
    splitOn separator text = text.splitOn separator := by
  induction text with
  | nil => rfl
  | cons character rest induction =>
      rw [splitOn, List.splitOn_cons_eq_if_modifyHead, induction]
      by_cases separates : character = separator
      · rw [if_pos separates, if_pos (beq_iff_eq.mpr separates)]
      · rw [if_neg separates, if_neg (by simpa using separates)]
        obtain ⟨piece, pieces, split⟩ :=
          List.exists_cons_of_ne_nil (List.splitOn_ne_nil separator rest)
        rw [split, List.modifyHead_cons]

theorem intercalate_splitOn (separator : Char) (text : List Char) :
    [separator].intercalate (splitOn separator text) = text := by
  rw [splitOn_eq, List.intercalate_splitOn]

theorem splitOn_intercalate {pieces : List (List Char)}
    (filled : pieces ≠ []) (free : ∀ piece ∈ pieces, separator ∉ piece) :
    splitOn separator ([separator].intercalate pieces) = pieces := by
  rw [splitOn_eq, List.splitOn_intercalate separator free filled]

theorem splitOn_append (first second : List Char) :
    splitOn separator (first ++ separator :: second) =
      splitOn separator first ++ splitOn separator second := by
  rw [splitOn_eq, splitOn_eq, splitOn_eq, List.splitOn, List.splitOn,
    List.splitOn]
  exact List.splitOnP_append_cons first second (beq_self_eq_true separator)

theorem not_mem_of_mem_splitOn {piece : List Char}
    (member : piece ∈ splitOn separator text) : separator ∉ piece := by
  induction text generalizing piece with
  | nil =>
      obtain rfl := List.mem_singleton.mp member
      exact List.not_mem_nil
  | cons character rest induction =>
      rw [splitOn] at member
      split at member
      · rcases List.mem_cons.mp member with rfl | later
        · exact List.not_mem_nil
        · exact induction later
      · next other =>
          split at member
          · obtain rfl := List.mem_singleton.mp member
            simpa using Ne.symm other
          · next first pieces split =>
              rcases List.mem_cons.mp member with rfl | later
              · have free : separator ∉ first := induction (by simp [split])
                simpa [Ne.symm other] using free
              · exact induction (by simp [split, later])

/-- What is put together holds each of its pieces. -/
theorem isInfix_intercalate {between : List Char} {pieces : List (List Char)}
    {piece : List Char} (member : piece ∈ pieces) :
    piece <:+: between.intercalate pieces := by
  induction pieces with
  | nil => simp at member
  | cons first pieces induction =>
      cases pieces with
      | nil =>
          obtain rfl := List.mem_singleton.mp member
          simp
      | cons second pieces =>
          rw [List.intercalate_cons_cons]
          rcases List.mem_cons.mp member with rfl | later
          · rw [List.append_assoc]
            exact (List.prefix_append piece _).isInfix
          · exact (induction later).trans
              (List.suffix_append _ _).isInfix

theorem isInfix_of_mem_splitOn {piece : List Char}
    (member : piece ∈ splitOn separator text) : piece <:+: text := by
  have inside : piece <:+: [separator].intercalate (splitOn separator text) :=
    isInfix_intercalate member
  rwa [intercalate_splitOn] at inside

end Pieces

end Text

end SourceMark
