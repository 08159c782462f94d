import Mathlib.Data.List.Chain
import Mathlib.Data.List.Forall2
import SourceMark.Page.Snippet
import SourceMark.Proofs.Text.Pieces

/-!
# Indented markup

Indenting cuts markup into lines and puts blanks in front of them.  All that is
to be seen of the markup comes out in its order, on lines without a blank at
their ends.  Cut again, the result gives the same lines, whatever the
indentation was; so indenting it once more has no other effect than a first
time.
-/

namespace SourceMark

namespace Page

open Text (visible)

variable {text line : List Char}

/-! ## Tags on lines of their own -/

/-- No tag directly follows another one: behind a `>` there is no `<`. -/
def IsApart (text : List Char) : Prop :=
  text.IsChain fun first second => ¬ (first = '>' ∧ second = '<')

theorem isApart_iff : IsApart text ↔ ¬ "><".toList <:+: text := by
  rw [IsApart, List.isChain_iff_forall_rel_of_append_cons_cons]
  constructor
  · rintro apart ⟨before, after, whole⟩
    apply @apart '>' '<' before after
    · rw [← whole]
      simp
    · exact ⟨rfl, rfl⟩
  · rintro absent first second before after whole ⟨rfl, rfl⟩
    apply absent
    exact ⟨before, after, by rw [whole]; simp⟩

theorem head?_breakTags (text : List Char) :
    (breakTags text).head? = text.head? := by
  cases text using breakTags.fun_cases with
  | case1 rest => rfl
  | case2 character rest other =>
      rw [breakTags]
      · rfl
      · exact other
  | case3 => rfl

theorem isApart_breakTags (text : List Char) : IsApart (breakTags text) := by
  induction text using breakTags.induct with
  | case1 rest induction =>
      rw [breakTags, IsApart, List.isChain_cons, List.isChain_cons]
      refine ⟨?_, ?_, induction⟩
      · rintro next member ⟨_, rfl⟩
        simp at member
      · rintro next _ ⟨feed, _⟩
        simp at feed
  | case2 character rest other induction =>
      rw [breakTags, IsApart, List.isChain_cons]
      · refine ⟨?_, induction⟩
        rintro next member ⟨closed, rfl⟩
        rw [head?_breakTags] at member
        obtain ⟨later, whole⟩ := List.head?_eq_some_iff.mp member
        exact other later closed whole
      · exact other
  | case3 => exact .nil

theorem breakTags_of_isApart (apart : IsApart text) :
    breakTags text = text := by
  induction text using breakTags.induct with
  | case1 rest induction =>
      exact absurd ⟨rfl, rfl⟩ ((List.isChain_cons.mp apart).1 '<' rfl)
  | case2 character rest other induction =>
      rw [breakTags, induction (List.isChain_cons.mp apart).2]
      exact other
  | case3 => rfl

theorem visible_breakTags (text : List Char) :
    visible (breakTags text) = visible text := by
  induction text using breakTags.induct with
  | case1 rest induction =>
      have broken : visible ['>', '\n'] = visible ['>'] := by decide
      calc
        visible (breakTags ('>' :: '<' :: rest))
            = visible (['>', '\n'] ++ breakTags ('<' :: rest)) := by
          rw [breakTags]
          rfl
        _ = visible (['>'] ++ '<' :: rest) := by
          rw [Text.visible_append, broken, induction, Text.visible_append]
  | case2 character rest other induction =>
      rw [breakTags]
      · exact (Text.visible_append [character] _).trans
          ((congrArg _ induction).trans
            (Text.visible_append [character] rest).symm)
      · exact other
  | case3 => rfl

/-! ## Lines -/

/-- A line as it is taken out of markup. -/
structure IsLine (line : List Char) : Prop where
  filled : line ≠ []
  trimmed : Text.trim line = line
  single : '\n' ∉ line
  apart : IsApart line

theorem isLine_of_mem_tagLines (member : line ∈ tagLines text) :
    IsLine line := by
  obtain ⟨listed, filled⟩ := List.mem_filter.mp member
  obtain ⟨piece, known, rfl⟩ := List.mem_map.mp listed
  have inside := Text.isInfix_trim piece
  exact {
    filled := by simpa using filled
    trimmed := Text.trim_trim piece
    single := fun feed =>
      Text.not_mem_of_mem_splitOn known (inside.subset feed)
    apart := List.IsChain.infix (isApart_breakTags text)
      (inside.trans (Text.isInfix_of_mem_splitOn known)) }

theorem visible_intercalate (pieces : List (List Char)) :
    visible (['\n'].intercalate pieces) = pieces.flatMap visible := by
  induction pieces with
  | nil => rfl
  | cons first pieces induction =>
      cases pieces with
      | nil => simp
      | cons second pieces =>
          have feed : visible ['\n'] = [] := by decide
          rw [List.intercalate_cons_cons, Text.visible_append,
            Text.visible_append, induction, feed, List.append_nil,
            ← List.flatMap_cons]

theorem flatMap_visible_tagLines (text : List Char) :
    (tagLines text).flatMap visible = visible text := by
  have trimmed : ∀ pieces : List (List Char),
      ((pieces.map Text.trim).filter fun line => !line.isEmpty).flatMap
        visible = pieces.flatMap visible := by
    intro pieces
    induction pieces with
    | nil => rfl
    | cons piece pieces induction =>
        rw [List.map_cons, List.flatMap_cons, ← Text.visible_trim piece]
        cases nothing : (Text.trim piece).isEmpty with
        | true =>
            rw [List.filter_cons_of_neg (by simp [nothing]), induction,
              List.isEmpty_iff.mp nothing]
            rfl
        | false =>
            rw [List.filter_cons_of_pos (by simp [nothing]),
              List.flatMap_cons, induction]
  rw [tagLines, trimmed, ← visible_intercalate, Text.intercalate_splitOn,
    visible_breakTags]

/-! ## Blanks in front of lines -/

/-- A line with some blanks in front of it. -/
def IsIndented (line shown : List Char) : Prop :=
  ∃ width, shown = List.replicate width ' ' ++ line

theorem forall₂_indentLines (indent level : Nat) (lines : List (List Char)) :
    List.Forall₂ IsIndented lines (indentLines indent level lines) := by
  induction lines generalizing level with
  | nil => exact .nil
  | cons line lines induction => exact .cons ⟨_, rfl⟩ (induction _)

/-- The first line stands on no level, even if it is an end tag. -/
theorem head?_indentLines (indent : Nat) (lines : List (List Char)) :
    (indentLines indent 0 lines).head? = lines.head? := by
  cases lines with
  | nil => rfl
  | cons line lines => simp [indentLines]

theorem isBlankText_replicate (width : Nat) :
    Text.isBlankText (List.replicate width ' ') = true := by
  rw [Text.isBlankText, List.all_eq_true]
  intro character member
  rw [List.eq_of_mem_replicate member]
  decide

namespace IsIndented

variable {shown : List Char}

theorem trim_eq (indented : IsIndented line shown) :
    Text.trim shown = Text.trim line := by
  obtain ⟨width, rfl⟩ := indented
  have ended : Text.isBlankText [] = true := rfl
  simpa using
    Text.trim_between_blanks (isBlankText_replicate width) ended line

theorem visible_eq (indented : IsIndented line shown) :
    visible shown = visible line := by
  obtain ⟨width, rfl⟩ := indented
  rw [Text.visible_append, Text.visible_of_blank (isBlankText_replicate width),
    List.nil_append]

theorem single (indented : IsIndented line shown) (isLine : IsLine line) :
    '\n' ∉ shown := by
  obtain ⟨width, rfl⟩ := indented
  rw [List.mem_append, List.mem_replicate, not_or]
  exact ⟨by simp, isLine.single⟩

theorem isApart (indented : IsIndented line shown) (isLine : IsLine line) :
    IsApart shown := by
  obtain ⟨width, rfl⟩ := indented
  refine List.IsChain.append ?_ isLine.apart ?_
  · exact List.isChain_replicate_of_rel width (by simp)
  · rintro last member next _ ⟨rfl, _⟩
    have space := List.eq_of_mem_replicate (List.mem_of_getLast? member)
    simp at space

theorem filled (indented : IsIndented line shown) (isLine : IsLine line) :
    shown ≠ [] := by
  obtain ⟨width, rfl⟩ := indented
  simp [isLine.filled]

theorem ended (indented : IsIndented line shown) (isLine : IsLine line) :
    ∀ last ∈ shown.getLast?, Text.isBlank last = false := by
  obtain ⟨width, rfl⟩ := indented
  rw [List.getLast?_append_of_ne_nil _ isLine.filled, ← isLine.trimmed]
  exact Text.isBlank_getLast_trim

theorem isBlankText_eq (indented : IsIndented line shown)
    (isLine : IsLine line) : Text.isBlankText shown = false := by
  have filled := indented.filled isLine
  have last := indented.ended isLine _ (List.getLast?_eq_some_getLast filled)
  rw [Text.isBlankText, List.all_eq_false]
  exact ⟨_, List.getLast_mem filled, by simp [last]⟩

end IsIndented

section Shown

variable {lines shown : List (List Char)}
  (indented : List.Forall₂ IsIndented lines shown)
include indented

theorem map_trim_of_indented (each : ∀ line ∈ lines, IsLine line) :
    shown.map Text.trim = lines := by
  induction indented with
  | nil => rfl
  | cons first later induction =>
      rw [List.map_cons, first.trim_eq, (each _ (by simp)).trimmed,
        induction fun line member => each line (by simp [member])]

theorem flatMap_visible_of_indented :
    shown.flatMap visible = lines.flatMap visible := by
  induction indented with
  | nil => rfl
  | cons first later induction =>
      rw [List.flatMap_cons, List.flatMap_cons, first.visible_eq, induction]

theorem exists_indented {found : List Char} (member : found ∈ shown) :
    ∃ line ∈ lines, IsIndented line found := by
  induction indented with
  | nil => simp at member
  | cons first later induction =>
      rcases List.mem_cons.mp member with rfl | further
      · exact ⟨_, List.mem_cons_self, first⟩
      · obtain ⟨line, known, found⟩ := induction further
        exact ⟨line, List.mem_cons_of_mem _ known, found⟩

/-- Put together, lines are cut where they were put together. -/
theorem splitOn_of_indented (each : ∀ line ∈ lines, IsLine line)
    (filled : shown ≠ []) :
    Text.splitOn '\n' (['\n'].intercalate shown) = shown := by
  apply Text.splitOn_intercalate filled
  intro found member
  obtain ⟨line, known, isIndented⟩ := exists_indented indented member
  exact isIndented.single (each line known)

end Shown

theorem isApart_intercalate {shown : List (List Char)}
    (each : ∀ line ∈ shown, IsApart line) :
    IsApart (['\n'].intercalate shown) := by
  induction shown with
  | nil => exact .nil
  | cons first shown induction =>
      have later := induction fun line member => each line (by simp [member])
      cases shown with
      | nil =>
          rw [List.intercalate_singleton]
          exact each first (by simp)
      | cons second shown =>
          rw [List.intercalate_cons_cons, List.append_assoc]
          refine List.IsChain.append (each first (by simp)) ?_ ?_
          · refine List.isChain_cons.mpr ⟨?_, later⟩
            rintro next _ ⟨feed, _⟩
            simp at feed
          · rintro last _ next member ⟨_, rfl⟩
            simp at member

/-- Lines that come out of indenting go in as the same lines. -/
theorem tagLines_of_indented {lines shown : List (List Char)}
    (indented : List.Forall₂ IsIndented lines shown)
    (each : ∀ line ∈ lines, IsLine line) :
    tagLines (['\n'].intercalate shown) = lines := by
  have apart : IsApart (['\n'].intercalate shown) := by
    apply isApart_intercalate
    intro found member
    obtain ⟨line, known, isIndented⟩ := exists_indented indented member
    exact isIndented.isApart (each line known)
  rw [tagLines, breakTags_of_isApart apart]
  cases indented with
  | nil => rfl
  | cons first later =>
      have whole := List.Forall₂.cons first later
      rw [splitOn_of_indented whole each (by simp),
        map_trim_of_indented whole each, List.filter_eq_self]
      intro line member
      simpa using (each line member).filled

/-! ## The whole without the blanks around it -/

/-- Put together, lines have line feeds between them only. -/
theorem intercalate_concat (lines : List (List Char)) (last : List Char) :
    ['\n'].intercalate (lines ++ [last]) = endLines lines ++ last := by
  induction lines with
  | nil => exact List.intercalate_singleton
  | cons first lines induction =>
      rw [List.cons_append, List.intercalate_cons_of_ne_nil (by simp), induction]
      simp [endLines]

/-- Lines that are ended one by one are the lines put together, with one more
line feed at the end. -/
theorem endLines_concat (lines : List (List Char)) (last : List Char) :
    endLines (lines ++ [last]) =
      ['\n'].intercalate (lines ++ [last]) ++ ['\n'] := by
  rw [intercalate_concat]
  simp [endLines]

theorem head?_intercalate {lines : List (List Char)}
    (filled : ∀ line ∈ lines, line ≠ []) :
    (['\n'].intercalate lines).head? = lines.head?.bind List.head? := by
  cases lines with
  | nil => rfl
  | cons first lines =>
      obtain ⟨character, rest, rfl⟩ :=
        List.exists_cons_of_ne_nil (filled first List.mem_cons_self)
      cases lines with
      | nil =>
          rw [List.intercalate_singleton]
          rfl
      | cons second lines =>
          rw [List.intercalate_cons_cons]
          rfl

/-- When lines are ended one by one and the whole is trimmed, the last line feed
is lost and nothing else. -/
theorem trim_endLines {lines : List (List Char)}
    (filled : ∀ line ∈ lines, line ≠ [])
    (starts : ∀ line ∈ lines.head?, ∀ first ∈ line.head?,
      Text.isBlank first = false)
    (ends : ∀ line ∈ lines.getLast?, ∀ last ∈ line.getLast?,
      Text.isBlank last = false) :
    Text.trim (endLines lines) = ['\n'].intercalate lines := by
  rcases List.eq_nil_or_concat' lines with rfl | ⟨earlier, last, rfl⟩
  · rfl
  · have nothing : Text.isBlankText [] = true := rfl
    have feed : Text.isBlankText ['\n'] = true := by decide
    have trimmed : Text.trim (['\n'].intercalate (earlier ++ [last])) =
        ['\n'].intercalate (earlier ++ [last]) := by
      apply Text.trim_eq_self
      · intro first member
        rw [head?_intercalate filled] at member
        obtain ⟨line, leads, found⟩ := Option.bind_eq_some_iff.mp member
        exact starts line leads first found
      · rw [intercalate_concat,
          List.getLast?_append_of_ne_nil _ (filled last (by simp))]
        exact ends last List.getLast?_concat
    rw [endLines_concat]
    exact (Text.trim_between_blanks nothing feed _).trans trimmed

/-- What comes out of indenting are lines with blanks in front of them. -/
theorem exists_isLine {indent : Nat} {found : List Char}
    (member : found ∈ indentLines indent 0 (tagLines text)) :
    ∃ line, IsLine line ∧ IsIndented line found := by
  have indented := forall₂_indentLines indent 0 (tagLines text)
  obtain ⟨line, known, isIndented⟩ := exists_indented indented member
  exact ⟨line, isLine_of_mem_tagLines known, isIndented⟩

/-- The first line stands on no level, so it starts as it was taken out. -/
theorem isBlank_head_indentLines {indent : Nat} :
    ∀ line ∈ (indentLines indent 0 (tagLines text)).head?,
      ∀ first ∈ line.head?, Text.isBlank first = false := by
  rw [head?_indentLines]
  intro line member
  rw [← (isLine_of_mem_tagLines (List.mem_of_mem_head? member)).trimmed]
  exact Text.isBlank_head_trim

/-- Trimming takes away the last line feed and nothing else, so the lines have
line feeds between them only. -/
theorem toList_indentMarkup (markup : String) (indent : Nat) :
    (indentMarkup markup indent).toList =
      ['\n'].intercalate (indentLines indent 0 (tagLines markup.toList)) := by
  rw [indentMarkup, String.toList_ofList]
  apply trim_endLines
  · intro found member
    obtain ⟨line, isLine, isIndented⟩ := exists_isLine member
    exact isIndented.filled isLine
  · exact isBlank_head_indentLines
  · intro found member
    obtain ⟨line, isLine, isIndented⟩ :=
      exists_isLine (List.mem_of_getLast? member)
    exact isIndented.ended isLine

theorem tagLines_indentMarkup (markup : String) (indent : Nat) :
    tagLines (indentMarkup markup indent).toList = tagLines markup.toList := by
  rw [toList_indentMarkup]
  exact tagLines_of_indented (forall₂_indentLines indent 0 _)
    fun _ => isLine_of_mem_tagLines

/-! ## What indenting does -/

/-- The lines of a text.  A line feed ends a line, so nothing is a line behind
the last one. -/
def linesOf (text : List Char) : List (List Char) :=
  let pieces := Text.splitOn '\n' text
  if pieces.getLast? = some [] then pieces.dropLast else pieces

/-- A text has been laid out anew: there are other blanks in it, and its lines
are tidy. -/
structure IsLaidOut (markup result : List Char) : Prop where
  visible : visible result = visible markup
  filled : ∀ line ∈ linesOf result, Text.isBlankText line = false
  ended : ∀ line ∈ linesOf result,
    ∀ last ∈ line.getLast?, Text.isBlank last = false
  apart : ∀ line ∈ linesOf result, ¬ "><".toList <:+: line
  first : ∀ line ∈ (linesOf result).head?,
    ∀ first ∈ line.head?, Text.isBlank first = false

theorem linesOf_of_indented {lines shown : List (List Char)}
    (indented : List.Forall₂ IsIndented lines shown)
    (each : ∀ line ∈ lines, IsLine line) :
    linesOf (['\n'].intercalate shown) = shown := by
  cases indented with
  | nil => rfl
  | cons first later =>
      have whole := List.Forall₂.cons first later
      rw [linesOf, splitOn_of_indented whole each (by simp)]
      apply if_neg
      intro last
      obtain ⟨line, known, isIndented⟩ :=
        exists_indented whole (List.mem_of_getLast? last)
      obtain ⟨width, nothing⟩ := isIndented
      have filled := (each line known).filled
      simp_all

/-- Indenting changes nothing but blanks.  No line that it leaves behind is
blank, ends with a blank or has one tag directly behind another, and the first
line starts without a blank. -/
theorem isLaidOut_indentMarkup (markup : String) (indent : Nat) :
    IsLaidOut markup.toList (indentMarkup markup indent).toList := by
  have each : ∀ line ∈ tagLines markup.toList, IsLine line :=
    fun _ => isLine_of_mem_tagLines
  have indented := forall₂_indentLines indent 0 (tagLines markup.toList)
  have lines := linesOf_of_indented indented each
  rw [← toList_indentMarkup] at lines
  have origin : ∀ found ∈ linesOf (indentMarkup markup indent).toList,
      ∃ line, IsLine line ∧ IsIndented line found := by
    intro found member
    rw [lines] at member
    exact exists_isLine member
  constructor
  case visible =>
    rw [toList_indentMarkup, visible_intercalate,
      flatMap_visible_of_indented indented, flatMap_visible_tagLines]
  case filled =>
    intro found member
    obtain ⟨line, isLine, isIndented⟩ := origin found member
    exact isIndented.isBlankText_eq isLine
  case ended =>
    intro found member
    obtain ⟨line, isLine, isIndented⟩ := origin found member
    exact isIndented.ended isLine
  case apart =>
    intro found member
    obtain ⟨line, isLine, isIndented⟩ := origin found member
    exact isApart_iff.mp (isIndented.isApart isLine)
  case first =>
    rw [lines]
    exact isBlank_head_indentLines

/-- Indenting markup that is indented already is like indenting it for the first
time, whatever the indentation was. -/
theorem indentMarkup_indentMarkup (markup : String) (first second : Nat) :
    indentMarkup (indentMarkup markup first) second =
      indentMarkup markup second := by
  rw [indentMarkup, tagLines_indentMarkup, indentMarkup]

end Page

end SourceMark
