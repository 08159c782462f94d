import SourceMark.Proofs.Template.SlicedTags
import SourceMark.Proofs.Template.Tokens

/-!
# End tags searched in lower case

Searching a text in lower case for the mark of an end tag in lower case finds
the places at which the text has that mark in any case.  A mark whose name goes
on is passed over as a whole.
-/

namespace SourceMark

namespace Text

section Lower

variable {character : Char}

theorem val_toLower
    (upper : character.val ≥ 'A'.val ∧ character.val ≤ 'Z'.val) :
    character.toLower.val = character.val + ('a'.val - 'A'.val) :=
  congrArg Char.val (dif_pos upper)

theorem toLower_eq_self
    (other : ¬ (character.val ≥ 'A'.val ∧ character.val ≤ 'Z'.val)) :
    character.toLower = character :=
  dif_neg other

/-- No letter becomes a character that is no lower-case letter. -/
theorem toLower_eq_iff (character mark : Char) (same : mark.toLower = mark)
    (other : mark.isLower = false) :
    character.toLower = mark ↔ character = mark := by
  constructor
  · intro lowered
    by_cases upper : character.val ≥ 'A'.val ∧ character.val ≤ 'Z'.val
    · have least := UInt32.le_iff_toNat_le.mp upper.1
      have most := UInt32.le_iff_toNat_le.mp upper.2
      have small : 'A'.val.toNat = 65 := rfl
      have large : 'Z'.val.toNat = 90 := rfl
      have gap : ('a'.val - 'A'.val).toNat = 32 := rfl
      have value : mark.val.toNat = character.val.toNat + 32 := by
        rw [← lowered, val_toLower upper, UInt32.toNat_add, gap]
        omega
      have letter : mark.isLower =
          (decide ('a'.val ≤ mark.val) && decide (mark.val ≤ 'z'.val)) := rfl
      have first : 'a'.val.toNat = 97 := rfl
      have last : 'z'.val.toNat = 122 := rfl
      rw [other, eq_comm, Bool.and_eq_false_iff, decide_eq_false_iff_not,
        decide_eq_false_iff_not, UInt32.le_iff_toNat_le,
        UInt32.le_iff_toNat_le] at letter
      omega
    · rwa [toLower_eq_self upper] at lowered
  · rintro rfl
    exact same

theorem utf8Size_toLower (character : Char) :
    character.toLower.utf8Size = character.utf8Size := by
  by_cases upper : character.val ≥ 'A'.val ∧ character.val ≤ 'Z'.val
  · have most := UInt32.le_iff_toNat_le.mp upper.2
    have large : 'Z'.val.toNat = 90 := rfl
    have gap : ('a'.val - 'A'.val).toNat = 32 := rfl
    have bound : (127 : UInt32).toNat = 127 := rfl
    have one : character.utf8Size = 1 := by
      rw [Char.utf8Size_eq_one_iff, UInt32.le_iff_toNat_le]
      omega
    rw [one, Char.utf8Size_eq_one_iff, val_toLower upper,
      UInt32.le_iff_toNat_le, UInt32.toNat_add, gap]
    omega
  · rw [toLower_eq_self upper]

end Lower

theorem lowerAscii_append (first second : List Char) :
    lowerAscii (first ++ second) = lowerAscii first ++ lowerAscii second :=
  List.map_append

theorem byteLength_lowerAscii (text : List Char) :
    byteLength (lowerAscii text) = byteLength text := by
  induction text with
  | nil => rfl
  | cons character rest induction =>
      change character.toLower.utf8Size + byteLength (lowerAscii rest) = _
      rw [utf8Size_toLower, induction, byteLength]

/-- A text has a name up to case in front when both begin alike in lower
case. -/
theorem isPrefixOf_lowerAscii (name text : List Char) :
    (lowerAscii name).isPrefixOf (lowerAscii text) =
      sameIgnoringCase (text.take name.length) name := by
  have length : (lowerAscii name).length = name.length := List.length_map ..
  rw [Bool.eq_iff_iff, List.isPrefixOf_iff_prefix, List.prefix_iff_eq_take,
    length, sameIgnoringCase, beq_iff_eq]
  constructor
  · intro equality
    rw [equality, lowerAscii, lowerAscii, List.map_take]
  · intro equality
    rw [← equality, lowerAscii, lowerAscii, List.map_take]

end Text

namespace Template

namespace Sliced

open Cursor (IsWindow)

theorem isPrefixOf_endMark (name text : List Char) :
    (endMark name).isPrefixOf (Text.lowerAscii text) =
      startsEndMark name text := by
  match text with
  | [] => rfl
  | [first] =>
      have shorter : ¬ endMark name <+: Text.lowerAscii [first] := by
        intro leads
        have := leads.length_le
        simp [endMark, Text.lowerAscii] at this
      rw [startsEndMark, Bool.eq_false_iff, ne_eq, List.isPrefixOf_iff_prefix]
      · exact shorter
      · simp
  | first :: second :: rest =>
      have bracket := Text.toLower_eq_iff first '<'
        (by decide) (by decide)
      have slash := Text.toLower_eq_iff second '/'
        (by decide) (by decide)
      have named := Text.isPrefixOf_lowerAscii name rest
      have whole : (endMark name).isPrefixOf
            (Text.lowerAscii (first :: second :: rest)) =
          ('<' == first.toLower && ('/' == second.toLower &&
            (Text.lowerAscii name).isPrefixOf (Text.lowerAscii rest))) := rfl
      rw [whole, named]
      by_cases opens : first = '<' ∧ second = '/'
      · obtain ⟨rfl, rfl⟩ := opens
        rfl
      · rw [startsEndMark]
        · rw [← bracket, ← slash] at opens
          rw [Bool.eq_false_iff, ne_eq, Bool.and_eq_true, Bool.and_eq_true,
            beq_iff_eq, beq_iff_eq]
          rintro ⟨left, right, _⟩
          exact opens ⟨left.symm, right.symm⟩
        · intro later equality
          simp only [List.cons.injEq] at equality
          exact opens ⟨equality.1, equality.2.1⟩

theorem startsEndMark_of_startsEndTag {name text : List Char}
    (starts : startsEndTag name text = true) :
    startsEndMark name text = true := by
  rw [startsEndTag.eq_def] at starts
  split at starts
  · next rest =>
      simp only [Bool.and_eq_true] at starts
      exact starts.1
  · simp at starts

/-- Where no end tag starts, the search goes on behind one character. -/
theorem findEndTagBehind?_cons {name rest : List Char} {character : Char}
    (untagged : startsEndTag name (character :: rest) = false)
    (offset : Nat) :
    findEndTagBehind? name 0 offset (character :: rest) =
      (findEndTagBehind? name
        (if startsEndMark name (character :: rest) then name.length + 1 else 0)
        (offset + character.utf8Size) rest).map
          fun hit => (character :: hit.1, hit.2) := by
  rw [findEndTagBehind?]
  simp only [untagged, Bool.and_false, Bool.false_eq_true, if_false,
    passedBehind]
  generalize findEndTagBehind? name _ _ rest = found
  cases found with
  | none => rfl
  | some hit => rfl

/-- Without a mark in it a text has no end tag. -/
theorem findEndTagBehind?_eq_none {name text : List Char} {place : Nat}
    (missed : Cursor.find? (endMark name) place (Text.lowerAscii text) = none)
    (offset : Nat) : findEndTagBehind? name 0 offset text = none := by
  induction text generalizing place offset with
  | nil => rfl
  | cons character rest induction =>
      have shape : Text.lowerAscii (character :: rest) =
          character.toLower :: Text.lowerAscii rest := rfl
      rw [shape, Cursor.find?, ← shape, isPrefixOf_endMark] at missed
      split at missed
      · simp at missed
      · next unmarked =>
          split at missed
          · simp at missed
          · next later =>
              have untagged : startsEndTag name (character :: rest) = false :=
                Bool.eq_false_iff.mpr fun starts =>
                  unmarked (startsEndMark_of_startsEndTag starts)
              rw [findEndTagBehind?_cons untagged, if_neg unmarked,
                induction later]
              rfl

/-- The search for an end tag comes to the first mark. -/
theorem findEndTagBehind?_of_find? {name text before : List Char}
    {place : Nat} {cursor : Cursor}
    (found : Cursor.find? (endMark name) place (Text.lowerAscii text) =
      some (before, cursor)) (offset : Nat) :
    ∃ front later, text = front ++ later ∧ before = Text.lowerAscii front ∧
      startsEndMark name later = true ∧
      findEndTagBehind? name 0 offset text =
        (findEndTagBehind? name 0 (offset + Text.byteLength front) later).map
          fun hit => (front ++ hit.1, hit.2) := by
  induction text generalizing place offset before cursor with
  | nil =>
      have absent : endMark name ≠ [] := by simp [endMark]
      simp [Text.lowerAscii, Cursor.find?, absent] at found
  | cons character rest induction =>
      have shape : Text.lowerAscii (character :: rest) =
          character.toLower :: Text.lowerAscii rest := rfl
      rw [shape, Cursor.find?, ← shape, isPrefixOf_endMark] at found
      split at found
      · next marked =>
          obtain ⟨rfl, rfl⟩ := by simpa using found
          refine ⟨[], character :: rest, rfl, rfl, marked, ?_⟩
          simp [Text.byteLength]
      · next unmarked =>
          split at found
          · next inner later equality =>
              obtain ⟨rfl, rfl⟩ := by simpa using found
              obtain ⟨front, behind, rfl, rfl, marked, reads⟩ :=
                induction equality (offset + character.utf8Size)
              refine ⟨character :: front, behind, rfl, rfl, marked, ?_⟩
              have untagged : startsEndTag name
                  (character :: (front ++ behind)) = false :=
                Bool.eq_false_iff.mpr fun starts =>
                  unmarked (startsEndMark_of_startsEndTag starts)
              rw [findEndTagBehind?_cons untagged, if_neg unmarked, reads,
                Option.map_map, Text.byteLength, Nat.add_assoc]
              rfl
          · simp at found

/-- Characters that are passed over hold no end tag. -/
theorem findEndTagBehind?_passed (name taken rest : List Char)
    (offset : Nat) :
    findEndTagBehind? name taken.length offset (taken ++ rest) =
      (findEndTagBehind? name 0 (offset + Text.byteLength taken) rest).map
        fun hit => (taken ++ hit.1, hit.2) := by
  induction taken generalizing offset with
  | nil => simp [Text.byteLength]
  | cons character taken induction =>
      have fresh : (decide (taken.length + 1 = 0) &&
          startsEndTag name (character :: (taken ++ rest))) = false := by simp
      simp only [List.length_cons, List.cons_append, findEndTagBehind?,
        passedBehind, fresh, Bool.false_eq_true, if_false, induction,
        Text.byteLength, Nat.add_assoc]
      cases findEndTagBehind? name 0
          (offset + (character.utf8Size + Text.byteLength taken)) rest with
      | none => rfl
      | some hit => rfl

theorem isAsciiTest_endName : Text.IsAsciiTest endsEndName := by
  apply isAsciiTest_of_false
  intro character beyond
  simp [endsEndName, isAsciiBlank_of_le beyond,
    ne_of_le '>' beyond (by decide)]

theorem endsEndName_toLower (character : Char) :
    endsEndName character.toLower = endsEndName character := by
  have same (mark : Char) (still : mark.toLower = mark)
      (other : mark.isLower = false) :
      decide (character.toLower = mark) = decide (character = mark) := by
    rw [decide_eq_decide]
    exact Text.toLower_eq_iff _ _ still other
  simp only [endsEndName, Text.isAsciiBlank]
  rw [same '>' (by decide) (by decide),
    same ' ' (by decide) (by decide),
    same '\t' (by decide) (by decide),
    same '\n' (by decide) (by decide),
    same '\x0c' (by decide) (by decide),
    same '\r' (by decide) (by decide)]

theorem findEndTagBehind?_here {name text : List Char} {offset : Nat}
    (starts : startsEndTag name text = true) :
    findEndTagBehind? name 0 offset text =
      some ([], { rest := text, offset }) := by
  cases text with
  | nil => simp [startsEndTag] at starts
  | cons character rest =>
      rw [findEndTagBehind?]
      simp only [starts, decide_true, Bool.and_self, if_true]

theorem head?_lowerAscii_all (text : List Char) :
    (Text.lowerAscii text).head?.all endsEndName =
      text.head?.all endsEndName := by
  cases text with
  | nil => rfl
  | cons character rest => exact endsEndName_toLower character

theorem length_of_endMark {name mark : List Char}
    (same : Text.lowerAscii mark = endMark name) :
    mark.length = name.length + 2 := by
  have long := congrArg List.length same
  simpa [Text.lowerAscii, endMark] using long

/-- A mark is an end tag when its name ends behind it; else the search goes on
there. -/
theorem parts_of_startsEndMark {name text : List Char}
    (marked : startsEndMark name text = true) (offset : Nat) :
    ∃ taken rest, text = taken ++ rest ∧
      Text.lowerAscii taken = endMark name ∧
      startsEndTag name text = rest.head?.all endsEndName ∧
      (startsEndTag name text = false →
        findEndTagBehind? name 0 offset text =
          (findEndTagBehind? name 0 (offset + Text.byteLength taken)
            rest).map fun hit => (taken ++ hit.1, hit.2)) := by
  rw [startsEndMark.eq_def] at marked
  split at marked
  · next tail =>
      have equality : Text.lowerAscii (tail.take name.length) =
          Text.lowerAscii name := by
        simpa [Text.sameIgnoringCase] using marked
      have length : (tail.take name.length).length = name.length := by
        have := congrArg List.length equality
        simpa [Text.lowerAscii] using this
      refine ⟨'<' :: '/' :: tail.take name.length, tail.drop name.length, ?_, ?_,
        ?_, ?_⟩
      · simp
      · rw [endMark, ← equality]
        rfl
      · rw [startsEndTag, marked, Bool.true_and]
        cases tail.drop name.length with
        | nil => rfl
        | cons character rest => rfl
      · intro goesOn
        have again : startsEndMark name ('<' :: '/' :: tail) = true := marked
        have passed := findEndTagBehind?_passed name
          ('/' :: tail.take name.length) (tail.drop name.length)
          (offset + '<'.utf8Size)
        rw [List.length_cons, length, List.cons_append,
          List.take_append_drop] at passed
        rw [findEndTagBehind?_cons goesOn, if_pos again, passed, Option.map_map]
        simp only [Text.byteLength, Nat.add_assoc]
        rfl
  · simp at marked

theorem window_lowerAscii (front rest : List Char) :
    IsWindow (Text.lowerAscii (front ++ rest))
      (Text.byteLength (Text.lowerAscii (front ++ rest)))
      { rest := Text.lowerAscii rest, offset := Text.byteLength front } := by
  refine ⟨Text.lowerAscii front, [], ?_, ?_, ?_⟩
  · rw [Text.lowerAscii_append, List.append_nil]
  · rw [Text.byteLength_lowerAscii]
  · rw [Text.byteLength_lowerAscii, Text.byteLength_lowerAscii,
      Text.byteLength_append]

theorem endTagRound_of_find? {name front passed taken behind : List Char}
    {cursor : Cursor}
    (found : Cursor.find? (endMark name) 0
      (Text.lowerAscii (passed ++ (taken ++ behind))) =
        some (Text.lowerAscii passed, cursor))
    (mark : Text.lowerAscii taken = endMark name) :
    endTagRound
        (Text.lowerAscii (front ++ (passed ++ (taken ++ behind))))
        (endMark name) (Text.byteLength front) () =
      if behind.head?.all endsEndName then
        .ok (.done (some (Text.byteLength front + Text.byteLength passed)))
      else
        .ok (.next (Text.byteLength front + Text.byteLength passed +
          Text.byteLength taken) ()) := by
  have whole := slice_rest
    (window_lowerAscii front (passed ++ (taken ++ behind)))
  have search := find?_eq (endMark name)
    (Text.lowerAscii (passed ++ (taken ++ behind))) 0
  have wide : Text.byteLength (endMark name) = Text.byteLength taken := by
    rw [← mark, Text.byteLength_lowerAscii]
  have beyond := window_lowerAscii (front ++ (passed ++ taken)) behind
  simp only [List.append_assoc, Text.byteLength_append, ← Nat.add_assoc]
    at beyond
  have condition := beyond.ends_whole isAsciiTest_endName
  simp only [head?_lowerAscii_all] at condition
  simp only at whole
  simp only [endTagRound, whole, search, found, bind, Except.bind, pure,
    Except.pure, Option.map_some, Text.byteLength_lowerAscii passed, wide,
    condition]

/-- The loop over the marks of end tags finds the first end tag. -/
theorem loop_endTagRound (name front rest : List Char) (base : Nat) :
    loop (Text.byteLength (Text.lowerAscii (front ++ rest)))
        (endTagRound (Text.lowerAscii (front ++ rest)) (endMark name))
        (Text.byteLength front) () =
      .ok ((findEndTagBehind? name 0 base rest).map fun hit =>
        Text.byteLength front + Text.byteLength hit.1) := by
  induction length : rest.length using Nat.strongRecOn
    generalizing front rest base with
  | _ length induction =>
  subst length
  cases found : Cursor.find? (endMark name) 0 (Text.lowerAscii rest) with
  | none =>
      have whole := slice_rest (window_lowerAscii front rest)
      have search := find?_eq (endMark name) (Text.lowerAscii rest) 0
      have round : endTagRound (Text.lowerAscii (front ++ rest)) (endMark name)
          (Text.byteLength front) () = .ok (.done none) := by
        simp only at whole
        simp only [endTagRound, whole, search, found, bind, Except.bind, pure,
          Except.pure, Option.map_none]
      rw [loop_done round, findEndTagBehind?_eq_none found]
      rfl
  | some hit =>
      obtain ⟨before, cursor⟩ := hit
      obtain ⟨passed, later, rfl, rfl, marked, reads⟩ :=
        findEndTagBehind?_of_find? found base
      obtain ⟨taken, behind, rfl, mark, ends, goesOn⟩ :=
        parts_of_startsEndMark marked (base + Text.byteLength passed)
      have round := @endTagRound_of_find? name front passed taken behind cursor
        found mark
      -- What follows the mark decides whether the search goes on behind it.
      by_cases closes : behind.head?.all endsEndName = true
      · rw [if_pos closes] at round
        rw [loop_done round, reads,
          findEndTagBehind?_here (ends.trans closes)]
        simp
      · rw [if_neg closes] at round
        have untagged : startsEndTag name (taken ++ behind) = false := by
          rw [ends, Bool.eq_false_iff]
          exact closes
        have long : 2 ≤ taken.length := by
          rw [length_of_endMark mark]
          omega
        have bytes := Text.length_le_byteLength taken
        have within := (window_lowerAscii (front ++ (passed ++ taken))
          behind).le
        have again := induction behind.length
          (by simp only [List.length_append]; omega)
          (front ++ (passed ++ taken)) behind
          (base + Text.byteLength passed + Text.byteLength taken) rfl
        simp only [List.append_assoc, Text.byteLength_append,
          ← Nat.add_assoc] at again within
        rw [loop_next round (by omega) within, again, reads,
          goesOn untagged, Option.map_map, Option.map_map]
        simp only [Function.comp_def, Text.byteLength_append, Nat.add_assoc]

theorem endTag_eq {source : List Char} {stop : Nat} {cursor : Cursor}
    (window : IsWindow source stop cursor) (name : List Char) :
    endTag source name stop cursor.offset =
      .ok ((findEndTag? name cursor.offset cursor.rest).map
        fun found => found.2.offset) := by
  have search := loop_endTagRound name [] cursor.rest cursor.offset
  simp only [List.nil_append, Text.byteLength, Nat.zero_add] at search
  simp only [endTag, slice_rest window, bind, Except.bind, search, pure,
    Except.pure, Except.ok.injEq, Option.map_map]
  cases found : findEndTagBehind? name 0 cursor.offset cursor.rest with
  | none => simp [findEndTag?, found]
  | some hit =>
      have moved := (reaches_findEndTagBehind? found).offset
      simp [findEndTag?, found, moved]

theorem behindEnd_eq {source : List Char} {stop : Nat} {cursor : Cursor}
    (window : IsWindow source stop cursor) :
    behindEnd source stop cursor.offset = .ok (behindBracket cursor).offset := by
  have search := find?_eq ['>'] cursor.rest cursor.offset
  simp only [behindEnd, slice_rest window, bind, Except.bind, search, pure,
    Except.pure, behindBracket]
  cases found : Cursor.find? ['>'] cursor.offset cursor.rest with
  | none =>
      obtain ⟨_, _, _, _, length⟩ := window
      simp [length]
  | some hit =>
      obtain ⟨before, bracket⟩ := hit
      have moved := (reaches_behind found).offset
      simp only [Text.byteLength_append] at moved
      simp only [Option.map_some, Except.ok.injEq]
      exact moved.symm

end Sliced

end Template

end SourceMark
