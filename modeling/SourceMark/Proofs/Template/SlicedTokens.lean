import SourceMark.Proofs.Template.Blocks
import SourceMark.Proofs.Template.SlicedEndTags

/-!
# Templates read by byte offsets

Each token of a template is sliced out of the file as it is read from the
cursor.  Only a comment whose end lies in its opening mark breaks the reading:
the slice between the two marks would end before it starts.
-/

namespace SourceMark

namespace Template

namespace Sliced

open Cursor (IsWindow)

/-- How a fault ends a reading by offsets. -/
def halt (fault : Fault) : Halt :=
  if fault.isFinal then .broken else .fault fault

/-- A token and what comes behind it, by offsets. -/
def ofStep : Step → Except Halt (Token × Nat)
  | (.fault fault, _) => .error (halt fault)
  | (token, behind) => .ok (token, behind.offset)

theorem slice_inside (lead piece rest : List Char) :
    slice (lead ++ (piece ++ rest)) (Text.byteLength lead)
      (Text.byteLength lead + Text.byteLength piece) = .ok piece := by
  have window : IsWindow (lead ++ (piece ++ rest))
      (Text.byteLength (lead ++ (piece ++ rest)))
      { rest := piece ++ rest, offset := Text.byteLength lead } := by
    refine ⟨lead, [], by simp, rfl, ?_⟩
    rw [Text.byteLength_append]
  exact @slice_eq _ _ _ { rest, offset := _ } window piece ⟨rfl, rfl⟩

theorem slice_behind (lead piece : List Char) :
    slice (lead ++ piece) (Text.byteLength lead)
      (Text.byteLength (lead ++ piece)) = .ok piece := by
  have whole := slice_inside lead piece []
  rwa [List.append_nil, ← Text.byteLength_append] at whole

theorem slice_front (piece rest : List Char) :
    slice (piece ++ rest) 0 (Text.byteLength piece) = .ok piece := by
  have whole := slice_inside [] piece rest
  rwa [List.nil_append, Text.byteLength, Nat.zero_add] at whole

/-! ## Faults that a reading gets over -/

theorem isFinal_of_readInside {tag : String} {place : TagPlace}
    {offset : Nat} {text : List Char} {fault : Fault}
    (failed : readInside tag place offset text = .error fault) :
    fault.isFinal = false := by
  induction text generalizing place offset with
  | nil =>
      obtain rfl := by simpa [readInside] using failed
      cases place with
      | inQuotes name quote value => rfl
      | _ => rfl
  | cons character rest induction =>
      simp only [readInside] at failed
      split at failed
      · simp at failed
      · split at failed
        · simp at failed
        · next inner equality =>
            obtain rfl := by simpa using failed
            exact induction equality

theorem isFinal_of_readOpenTag {cursor : Cursor} {fault : Fault}
    (failed : readOpenTag cursor = .error fault) :
    fault.isFinal = false := by
  unfold readOpenTag at failed
  split at failed
  · split at failed
    · simp only at failed
      split at failed
      · simp at failed
      · next inner equality =>
          obtain rfl := by simpa using failed
          exact isFinal_of_readInside equality
    · simp at failed
  · simp at failed

theorem halt_of_not_isFinal {fault : Fault} (open_ : fault.isFinal = false) :
    halt fault = .fault fault := by
  simp [halt, open_]

section Steps

variable {source : List Char} {stop offset : Nat} {rest more : List Char}

theorem token_interpolation
    (window : IsWindow source stop
      { rest := '{' :: '{' :: more, offset }) :
    token source stop offset =
      ofStep (interpolationStep { rest := '{' :: '{' :: more, offset }) := by
  have whole := slice_rest window
  have search := find?_eq ['}', '}'] ('{' :: '{' :: more) offset
  have opens : ['{', '{'].isPrefixOf ('{' :: '{' :: more) = true := rfl
  simp only [token, whole, bind, Except.bind, opens, if_true, search,
    interpolationStep]
  cases found : Cursor.find? ['}', '}'] offset ('{' :: '{' :: more) with
  | none => rfl
  | some hit =>
      obtain ⟨before, close⟩ := hit
      obtain ⟨inner, after, rfl, rfl⟩ := inside_of_found ['{', '{'] (by simp)
        (by simp) found
      have piece := slice_inside ['{', '{'] inner (['}', '}'] ++ after)
      have moved := (reaches_behind found).offset
      have opening : Text.byteLength ['{', '{'] = 2 := rfl
      have closing : Text.byteLength ['}', '}'] = 2 := rfl
      have length : Text.byteLength (['{', '{'] ++ inner) =
          2 + Text.byteLength inner := by
        rw [Text.byteLength_append, opening]
      rw [opening] at piece
      change slice ('{' :: '{' :: (inner ++ (['}', '}'] ++ after))) _ _ = _
        at piece
      rw [Text.byteLength_append, closing, length] at moved
      simp only [Option.map_some, length, piece]
      simp only [ofStep, pure, Except.pure, Except.ok.injEq, Prod.mk.injEq]
      constructor
      · rfl
      · exact moved.symm

/-- The slice between the marks of a comment breaks exactly when the marks
share characters. -/
theorem slice_comment {before after : List Char}
    (whole : '<' :: '!' :: '-' :: '-' :: more = before ++ after) :
    slice ('<' :: '!' :: '-' :: '-' :: more) 4 (Text.byteLength before) =
      if before.length < 4 then .error .broken else .ok (before.drop 4) := by
  have four : Text.byteLength ['<', '!', '-', '-'] = 4 := rfl
  have leads : before <+: ['<', '!', '-', '-'] ++ more := ⟨after, whole.symm⟩
  by_cases short : before.length < 4
  · -- What stands in front of the end is part of the opening mark.
    obtain ⟨tail, opening⟩ := List.prefix_of_prefix_length_le leads
      (List.prefix_append _ more) (by simpa using Nat.le_of_lt short)
    have bytes := congrArg Text.byteLength opening
    have characters := congrArg List.length opening
    have least := Text.length_le_byteLength tail
    simp only [Text.byteLength_append, List.length_append] at bytes characters
    have crossed : ¬ 4 ≤ Text.byteLength before := by
      rw [four] at bytes
      simp only [List.length_cons, List.length_nil] at characters
      omega
    rw [if_pos short, slice, Text.slice?, if_neg crossed]
  · obtain ⟨inner, rfl⟩ := List.prefix_of_prefix_length_le
      (List.prefix_append _ more) leads (by simpa using Nat.not_lt.mp short)
    have piece := slice_inside ['<', '!', '-', '-'] inner after
    rw [if_neg short, whole, Text.byteLength_append, List.append_assoc]
    exact piece

theorem token_comment
    (window : IsWindow source stop
      { rest := '<' :: '!' :: '-' :: '-' :: more, offset }) :
    token source stop offset = ofStep (commentStep
      { rest := '<' :: '!' :: '-' :: '-' :: more, offset }) := by
  have whole := slice_rest window
  have search := find?_eq ['-', '-', '>'] ('<' :: '!' :: '-' :: '-' :: more)
    offset
  have braces : ['{', '{'].isPrefixOf ('<' :: '!' :: '-' :: '-' :: more) =
      false := rfl
  have opens : commentOpening.isPrefixOf ('<' :: '!' :: '-' :: '-' :: more) =
      true := rfl
  simp only [token, whole, bind, Except.bind, braces, opens, Bool.false_eq_true,
    if_false, if_true, commentClosing, search, commentStep]
  cases found : Cursor.find? ['-', '-', '>'] offset
      ('<' :: '!' :: '-' :: '-' :: more) with
  | none => rfl
  | some hit =>
      obtain ⟨before, close⟩ := hit
      have piece := slice_comment (Cursor.reaches_find? found).rest
      have moved := (reaches_behind found).offset
      have width : Text.byteLength ['-', '-', '>'] = 3 := rfl
      rw [Text.byteLength_append, width] at moved
      simp only [Option.map_some, piece]
      by_cases short : before.length < 4
      · simp only [if_pos short]
        rfl
      · simp only [if_neg short, ofStep, pure, Except.pure, Except.ok.injEq,
          Prod.mk.injEq, true_and]
        exact moved.symm

theorem token_declaration (other : ['-', '-'].isPrefixOf more = false)
    (window : IsWindow source stop { rest := '<' :: '!' :: more, offset }) :
    token source stop offset =
      ofStep (declarationStep { rest := '<' :: '!' :: more, offset }) := by
  have whole := slice_rest window
  have search := find?_eq ['>'] ('<' :: '!' :: more) offset
  have braces : ['{', '{'].isPrefixOf ('<' :: '!' :: more) = false := rfl
  have comment : commentOpening.isPrefixOf ('<' :: '!' :: more) = false :=
    other
  have opens : ['<', '!'].isPrefixOf ('<' :: '!' :: more) = true := rfl
  have opening : Text.byteLength ['<', '!'] = 2 := rfl
  simp only [token, whole, bind, Except.bind, braces, comment, opens,
    Bool.false_eq_true, if_false, if_true, search, declarationStep]
  cases found : Cursor.find? ['>'] offset ('<' :: '!' :: more) with
  | none =>
      have piece := slice_behind ['<', '!'] more
      rw [opening] at piece
      change slice ('<' :: '!' :: more) 2 (Text.byteLength ('<' :: '!' :: more)) =
        _ at piece
      have least : min (Text.byteLength ('<' :: '!' :: more) + 1)
          (Text.byteLength ('<' :: '!' :: more)) =
            Text.byteLength ('<' :: '!' :: more) := by omega
      simp only [Option.map_none, Option.getD_none, piece, least]
      rfl
  | some hit =>
      obtain ⟨before, close⟩ := hit
      obtain ⟨inner, after, rfl, rfl⟩ := inside_of_found ['<', '!'] (by simp)
        (by simp) found
      have piece := slice_inside ['<', '!'] inner (['>'] ++ after)
      have moved := (reaches_behind found).offset
      have width : Text.byteLength ['>'] = 1 := rfl
      have length : Text.byteLength (['<', '!'] ++ inner) =
          2 + Text.byteLength inner := by
        rw [Text.byteLength_append, opening]
      rw [opening] at piece
      change slice ('<' :: '!' :: (inner ++ (['>'] ++ after))) _ _ = _ at piece
      rw [Text.byteLength_append, width, length] at moved
      have least : min (2 + Text.byteLength inner + 1)
          (Text.byteLength ('<' :: '!' :: (inner ++ (['>'] ++ after)))) =
            2 + Text.byteLength inner + 1 := by
        have all : Text.byteLength ('<' :: '!' :: (inner ++ (['>'] ++ after))) =
            2 + Text.byteLength inner + 1 + Text.byteLength after := by
          change Text.byteLength
            (['<', '!'] ++ (inner ++ (['>'] ++ after))) = _
          simp only [Text.byteLength_append, opening, width]
          omega
        omega
      simp only [Option.map_some, Option.getD_some, length, piece, least]
      simp only [ofStep, pure, Except.pure, Except.ok.injEq, Prod.mk.injEq]
      constructor
      · rfl
      · exact moved.symm

theorem token_endTag
    (window : IsWindow source stop { rest := '<' :: '/' :: more, offset }) :
    token source stop offset =
      ofStep (endTagStep { rest := '<' :: '/' :: more, offset }) := by
  have whole := slice_rest window
  have search := find?_eq ['>'] ('<' :: '/' :: more) offset
  have braces : ['{', '{'].isPrefixOf ('<' :: '/' :: more) = false := rfl
  have comment : commentOpening.isPrefixOf ('<' :: '/' :: more) = false :=
    rfl
  have declares : ['<', '!'].isPrefixOf ('<' :: '/' :: more) = false := rfl
  have opens : ['<', '/'].isPrefixOf ('<' :: '/' :: more) = true := rfl
  have piece := slice_behind ['<', '/'] more
  have opening : Text.byteLength ['<', '/'] = 2 := rfl
  rw [opening] at piece
  change slice ('<' :: '/' :: more) 2 (Text.byteLength ('<' :: '/' :: more)) =
    _ at piece
  simp only [token, whole, bind, Except.bind, braces, comment, declares, opens,
    Bool.false_eq_true, if_false, if_true, piece, search, endTagStep]
  cases found : Cursor.find? ['>'] offset ('<' :: '/' :: more) with
  | none => rfl
  | some hit =>
      obtain ⟨before, close⟩ := hit
      have moved := (reaches_behind found).offset
      have width : Text.byteLength ['>'] = 1 := rfl
      rw [Text.byteLength_append, width] at moved
      simp only [Option.map_some, List.drop_succ_cons, List.drop_zero]
      split
      · rfl
      · simp only [ofStep, pure, Except.pure, Except.ok.injEq, Prod.mk.injEq,
          true_and]
        exact moved.symm

theorem opened_eq {behind : Cursor} (window : IsWindow source stop behind)
    (tag : OpenTag) :
    opened source stop tag behind.offset = ofStep (openedStep tag behind) := by
  unfold opened openedStep
  split
  · rfl
  · simp only [bind, Except.bind, endTag_eq window]
    cases found : findEndTag? tag.name.toList behind.offset behind.rest with
    | none => rfl
    | some hit =>
        obtain ⟨body, close⟩ := hit
        have moved := reaches_findEndTag? found
        simp only [Option.map_some, slice_eq window moved,
          behindEnd_eq (window.reaches moved)]
        rfl

theorem text_eq (lead tail : List Char)
    (long : 0 < Text.byteLength lead + Text.byteLength (tail.takeWhile isPlain)) :
    text (lead ++ tail) (Text.byteLength lead) =
      .ok (lead ++ tail.takeWhile isPlain) := by
  have least : max 1 (Text.byteLength lead +
      Text.byteLength (tail.takeWhile isPlain)) =
        Text.byteLength (lead ++ tail.takeWhile isPlain) := by
    rw [Text.byteLength_append]
    omega
  have front := slice_front (lead ++ tail.takeWhile isPlain)
    (tail.dropWhile isPlain)
  rw [List.append_assoc, List.takeWhile_append_dropWhile] at front
  simp only [text, bind, Except.bind, slice_behind, least, front]

theorem textStep_eq (first : Char) (rest : List Char) (offset : Nat) :
    ofStep (textStep first rest offset) =
      .ok (.text (first :: rest.takeWhile isPlain), offset +
        Text.byteLength (first :: rest.takeWhile isPlain)) := by
  have same := Cursor.run_fst isPlain
    { rest, offset := offset + first.utf8Size }
  have moved := (Cursor.reaches_run isPlain
    { rest, offset := offset + first.utf8Size }).offset
  simp only [Cursor.run] at same moved
  rw [same] at moved
  simp only [textStep, ofStep, same, moved, Text.byteLength, Nat.add_assoc]

/-- A bracket that opens neither a comment nor a declaration nor an end
tag. -/
theorem token_bracket (declares : rest.head? ≠ some '!')
    (closes : rest.head? ≠ some '/')
    (window : IsWindow source stop { rest := '<' :: rest, offset }) :
    token source stop offset = ofStep (bracketStep '<' rest offset) := by
  have whole := slice_rest window
  have braces : ['{', '{'].isPrefixOf ('<' :: rest) = false := rfl
  have declaration : ['<', '!'].isPrefixOf ('<' :: rest) = false := by
    cases rest with
    | nil => rfl
    | cons next rest =>
        have different : next ≠ '!' := by simpa using declares
        simp [List.isPrefixOf, Ne.symm different]
  have comment : commentOpening.isPrefixOf ('<' :: rest) = false := by
    cases rest with
    | nil => rfl
    | cons next rest =>
        have different : next ≠ '!' := by simpa using declares
        simp [commentOpening, List.isPrefixOf, Ne.symm different]
  have ending : ['<', '/'].isPrefixOf ('<' :: rest) = false := by
    cases rest with
    | nil => rfl
    | cons next rest =>
        have different : next ≠ '/' := by simpa using closes
        simp [List.isPrefixOf, Ne.symm different]
  have opens : ['<'].isPrefixOf ('<' :: rest) = true := by
    simp [List.isPrefixOf]
  have one : Text.byteLength ['<'] = 1 := rfl
  have plain := text_eq ['<'] rest (by omega)
  rw [one, List.singleton_append] at plain
  simp only [token, whole, bind, Except.bind, braces, comment, declaration,
    ending, opens, Bool.false_eq_true, if_false, if_true, openTag_eq window,
    bracketStep]
  cases read : readOpenTag { rest := '<' :: rest, offset } with
  | error fault =>
      simp only [ofTag, faultStep, ofStep,
        halt_of_not_isFinal (isFinal_of_readOpenTag read)]
  | ok result =>
      cases result with
      | none =>
          simp only [ofTag, plain, textStep_eq]
          rfl
      | some found =>
          obtain ⟨tag, behind⟩ := found
          obtain ⟨taken, moved⟩ := reaches_readOpenTag read
          exact opened_eq (window.reaches moved) tag

theorem step_eq_bracketStep (declares : rest.head? ≠ some '!')
    (closes : rest.head? ≠ some '/') (offset : Nat) :
    step '<' rest offset = bracketStep '<' rest offset := by
  cases rest with
  | nil => rfl
  | cons next rest =>
      have first : next ≠ '!' := by simpa using declares
      have second : next ≠ '/' := by simpa using closes
      simp [step, List.isPrefixOf, Ne.symm first, Ne.symm second]

theorem prefix_of_ne {first : Char} {mark : List Char} {opening : Char}
    (different : first ≠ opening) (rest : List Char) :
    (opening :: mark).isPrefixOf (first :: rest) = false := by
  simp [List.isPrefixOf, Ne.symm different]

theorem token_plain {first : Char} (plain : isPlain first = true)
    (window : IsWindow source stop { rest := first :: rest, offset }) :
    token source stop offset = ofStep (textStep first rest offset) := by
  have whole := slice_rest window
  have taken : (first :: rest).takeWhile isPlain =
      first :: rest.takeWhile isPlain := List.takeWhile_cons_of_pos plain
  have positive := first.utf8Size_pos
  have nothing : Text.byteLength ([] : List Char) = 0 := rfl
  have read := text_eq [] (first :: rest) (by
    rw [taken]
    simp only [Text.byteLength]
    omega)
  simp only [isPlain, Bool.and_eq_true, decide_eq_true_eq] at plain
  rw [nothing, List.nil_append, List.nil_append, taken] at read
  simp only [token, whole, bind, Except.bind, commentOpening,
    prefix_of_ne plain.1, prefix_of_ne plain.2, Bool.false_eq_true, if_false,
    read, textStep_eq]
  rfl

/-- A single brace is a text of its own. -/
theorem token_brace (lone : rest.head? ≠ some '{')
    (window : IsWindow source stop { rest := '{' :: rest, offset }) :
    token source stop offset = .ok (.text ['{'], offset + 1) := by
  have whole := slice_rest window
  have braces : ['{', '{'].isPrefixOf ('{' :: rest) = false := by
    cases rest with
    | nil => rfl
    | cons next rest =>
        have different : next ≠ '{' := by simpa using lone
        simp [List.isPrefixOf, Ne.symm different]
  have other : '{' ≠ '<' := by decide
  have one : Text.byteLength ['{'] = 1 := rfl
  have searched := slice_behind [] ('{' :: rest)
  have front := slice_front ['{'] rest
  rw [one, List.singleton_append] at front
  have nothing : Text.byteLength ([] : List Char) = 0 := rfl
  rw [List.nil_append, nothing] at searched
  have stops : ('{' :: rest).takeWhile isPlain = [] :=
    List.takeWhile_cons_of_neg (by decide)
  have read : text ('{' :: rest) 0 = .ok ['{'] := by
    simp only [text, bind, Except.bind, searched, stops, nothing]
    exact front
  simp only [token, whole, bind, Except.bind, braces, commentOpening,
    prefix_of_ne other, Bool.false_eq_true, if_false, read]
  rfl

/-- Each step over a template is taken alike by offsets, but for a single
brace, which is taken together with the text behind it. -/
theorem token_eq {first : Char} (double : first = '{' → rest.head? = some '{')
    (window : IsWindow source stop { rest := first :: rest, offset }) :
    token source stop offset = ofStep (step first rest offset) := by
  by_cases brace : first = '{'
  · subst brace
    obtain ⟨more, rfl⟩ := List.head?_eq_some_iff.mp (double rfl)
    rw [step_interpolation]
    exact token_interpolation window
  · by_cases bracket : first = '<'
    · subst bracket
      by_cases declares : rest.head? = some '!'
      · obtain ⟨more, rfl⟩ := List.head?_eq_some_iff.mp declares
        by_cases comment : ['-', '-'].isPrefixOf more = true
        · obtain ⟨inner, rfl⟩ := List.isPrefixOf_iff_prefix.mp comment
          rw [List.cons_append, List.cons_append, List.nil_append, step_comment]
          exact token_comment window
        · have other := Bool.eq_false_iff.mpr comment
          rw [step_declaration other]
          exact token_declaration other window
      · by_cases closes : rest.head? = some '/'
        · obtain ⟨more, rfl⟩ := List.head?_eq_some_iff.mp closes
          rw [step_endTag]
          exact token_endTag window
        · rw [step_eq_bracketStep declares closes]
          exact token_bracket declares closes window
    · have plain : isPlain first = true := by
        simp [isPlain, brace, bracket]
      have markup : opensMarkup first rest.head? = false := by
        simp [opensMarkup, brace, bracket]
      rw [step_eq_textStep markup]
      exact token_plain plain window

end Steps

end Sliced

end Template

end SourceMark
