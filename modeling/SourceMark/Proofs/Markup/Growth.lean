import SourceMark.Proofs.Markup.Symbols
import SourceMark.Proofs.Text.Insertions

/-!
# Literals that grow

Marks come into a literal in front of the bracket or the slash that closes a
tag, and a blank comes first in every mark.  So what a mark splits, if
anything, is a backslash from the closing character that it escapes, and then
the blank is escaped in place of that character.  Nothing else of what the
literal says changes.
-/

namespace SourceMark

/-- The place of a byte offset in the text with insertions carried out.  What
is put in at the offset itself comes in front of it. -/
def Insertion.moved (insertions : List Insertion) (offset : Nat) : Nat :=
  offset + Text.byteLength
    ((insertions.filter fun insertion => insertion.offset ≤ offset).flatMap
      fun insertion => insertion.text.toList)

namespace Markup

open SourceMark.Markup.Symbol

/-- Marks that come in order in front of characters that close a tag, in a text
that starts at the given byte offset. -/
inductive Placed : (offset : Nat) → List Insertion → List Char → Prop where
  | none {offset : Nat} {text : List Char} : Placed offset [] text
  | next {offset : Nat} {before after rest : List Char} {closing : Char}
      {mark : Insertion} {marks : List Insertion} :
      closing = '>' ∨ closing = '/' → mark.text.toList = ' ' :: rest →
      mark.offset = offset + Text.byteLength before →
      Placed (mark.offset + closing.utf8Size) marks after →
      Placed offset (mark :: marks) (before ++ closing :: after)

namespace Placed

variable {offset : Nat} {marks : List Insertion} {text : List Char}

/-- Marks may have more text in front of them. -/
theorem behind (front : List Char)
    (placed : Placed (offset + Text.byteLength front) marks text) :
    Placed offset marks (front ++ text) := by
  cases placed with
  | none => exact .none
  | next closes begins place later =>
      rw [← List.append_assoc]
      apply next closes begins _ later
      rw [place, Text.byteLength_append, Nat.add_assoc]

theorem place_of_mem (placed : Placed offset marks text) {mark : Insertion}
    (member : mark ∈ marks) :
    ∃ before after, text = before ++ after ∧
      mark.offset = offset + Text.byteLength before := by
  induction placed with
  | none => simp at member
  | @next offset front back rest closing first marks closes begins place later
      induction =>
      rcases List.mem_cons.mp member with rfl | further
      · exact ⟨front, closing :: back, rfl, place⟩
      · obtain ⟨before, after, rfl, there⟩ := induction further
        refine ⟨front ++ closing :: before, after, by simp, ?_⟩
        rw [there, place, Text.byteLength_append, Text.byteLength]
        omega

theorem le_of_mem (placed : Placed offset marks text) {mark : Insertion}
    (member : mark ∈ marks) : offset ≤ mark.offset := by
  obtain ⟨before, _, _, place⟩ := placed.place_of_mem member
  omega

end Placed

/-! ## The marks one by one -/

/-- A mark as it has to be written between two such quotes. -/
def writtenMark (quote : Char) (mark : Insertion) : Insertion :=
  { mark with
    text := String.ofList (escapeWithin quote mark.text.toList) }

/-- The text of a literal with marks written into it. -/
def grown (quote : Char) (marks : List Insertion) (offset : Nat)
    (text : List Char) : List Char :=
  Insertion.interleave (marks.map (writtenMark quote)) offset text

/-- How many bytes a literal says up to a place of its text. -/
def saidLength (text : List Char) (place : Nat) : Nat :=
  match Text.cutAt? text place with
  | some (before, _) => Text.byteLength (said (ofText before))
  | none => 0

/-- A mark at the place in what a literal says that belongs to its place in the
text of the literal. -/
def saidMark (text : List Char) (offset base : Nat) (mark : Insertion) :
    Insertion :=
  { mark with offset := base + saidLength text (mark.offset - offset) }

theorem saidLength_append (before after : List Char) :
    saidLength (before ++ after) (Text.byteLength before) =
      Text.byteLength (said (ofText before)) := by
  simp only [saidLength, Text.cutAt?_append]

section Marks

variable {quote closing : Char} {offset : Nat} {mark : Insertion}
  {marks : List Insertion} {before after text rest : List Char}

theorem ne_of_isQuote (quoted : Literal.isQuote quote = true) :
    quote ≠ '\\' ∧ quote ≠ ' ' ∧ quote ≠ '>' ∧ quote ≠ '/' := by
  simp only [Literal.isQuote, Bool.or_eq_true, decide_eq_true_eq] at quoted
  rcases quoted with (rfl | rfl) | rfl
  · decide
  · decide
  · decide

theorem ne_of_closes (closes : closing = '>' ∨ closing = '/') :
    closing ≠ '\\' ∧ closing ≠ '{' ∧ closing.utf8Size = 1 := by
  rcases closes with rfl | rfl
  · decide
  · decide

theorem grown_next
    (place : mark.offset = offset + Text.byteLength before)
    (later : Placed (mark.offset + closing.utf8Size) marks after) :
    grown quote (mark :: marks) offset (before ++ closing :: after) =
      before ++ (escapeWithin quote mark.text.toList ++
        closing :: grown quote marks (mark.offset + closing.utf8Size)
          after) := by
  have beyond : ∀ insertion ∈ marks.map (writtenMark quote),
      mark.offset + Text.byteLength [closing] ≤ insertion.offset := by
    intro insertion member
    obtain ⟨other, inside, rfl⟩ := List.mem_map.mp member
    have := later.le_of_mem inside
    simpa [writtenMark, Text.byteLength] using this
  unfold grown
  rw [List.map_cons, Insertion.interleave_cons_of_cut]
  · have skipped := Insertion.interleave_skip after beyond
    simp only [List.singleton_append, Text.byteLength, Nat.add_zero] at skipped
    simp only [writtenMark, skipped, String.toList_ofList]
  · exact place.symm
  · intro insertion member
    have := beyond insertion member
    simp only [writtenMark]
    omega

/-- The symbols of a literal in front of and behind a mark. -/
theorem ofText_grown_next (quoted : Literal.isQuote quote = true)
    (closes : closing = '>' ∨ closing = '/')
    (begins : mark.text.toList = ' ' :: rest) (before after : List Char) :
    ofText (before ++ (escapeWithin quote mark.text.toList ++
        closing :: after)) =
      ofText before ++ ⟨dangles before, ' '⟩ ::
        (ofText (escapeWithin quote rest) ++
          ⟨false, closing⟩ :: ofText after) := by
  have others := ne_of_isQuote quoted
  have blank : escapeWithin quote (' ' :: rest) =
      ' ' :: escapeWithin quote rest := by
    simp [escapeWithin, Ne.symm others.2.1]
  rw [begins, blank, List.cons_append, ofText_append (by decide),
    ofText_append (ne_of_closes closes).1, dangles_escapeWithin]

/-! ## What stays as it is -/

theorem dangles_grown (placed : Placed offset marks text) :
    dangles (grown quote marks offset text) = dangles text := by
  induction placed with
  | none => simp [grown, Insertion.interleave_nil]
  | @next offset before after rest closing mark marks closes begins place later
      induction =>
      have plain := (ne_of_closes closes).1
      rw [grown_next place later, ← List.append_assoc,
        dangles_append plain, dangles_append plain, induction]

theorem quoteless_grown (quoted : Literal.isQuote quote = true)
    (placed : Placed offset marks text)
    (quoteless : Quoteless quote (ofText text)) :
    Quoteless quote (ofText (grown quote marks offset text)) := by
  induction placed with
  | none => simpa [grown, Insertion.interleave_nil] using quoteless
  | @next offset before after rest closing mark marks closes begins place later
      induction =>
      obtain ⟨solid, blank, bracket, slash⟩ := ne_of_isQuote quoted
      have differs : quote ≠ closing := by
        rcases closes with rfl | rfl
        · exact bracket
        · exact slash
      rw [ofText_append (ne_of_closes closes).1] at quoteless
      have front : Quoteless quote (ofText before) := fun member =>
        quoteless (List.mem_append_left _ member)
      have back : Quoteless quote (ofText after) := fun member =>
        quoteless (List.mem_append_right _ (List.mem_cons_of_mem _ member))
      have inner := quoteless_escapeWithin quote rest
      have outer := induction back
      unfold Quoteless at front inner outer
      rw [grown_next place later, ofText_grown_next quoted closes begins]
      simp [Quoteless, front, inner, outer, blank, differs]

/-- A grown literal says what it said before, with the marks themselves put in
at the places that belong to theirs. -/
theorem said_grown (quoted : Literal.isQuote quote = true)
    (placed : Placed offset marks text) (base : Nat) :
    said (ofText (grown quote marks offset text)) =
      Insertion.interleave (marks.map (saidMark text offset base)) base
        (said (ofText text)) := by
  induction placed generalizing base with
  | none => simp [grown, Insertion.interleave_nil]
  | @next offset before after rest closing mark marks closes begins place later
      induction =>
      have plain := (ne_of_closes closes).1
      have head : saidMark (before ++ closing :: after) offset base mark =
          { mark with
            offset := base + Text.byteLength (said (ofText before)) } := by
        simp only [saidMark, place, Nat.add_sub_cancel_left, saidLength_append]
      have tail : marks.map (saidMark (before ++ closing :: after) offset base) =
          marks.map (saidMark after (mark.offset + closing.utf8Size)
            (base + Text.byteLength (said (ofText before)) +
              closing.utf8Size)) := by
        apply List.map_congr_left
        intro other member
        obtain ⟨front, back, rfl, there⟩ := later.place_of_mem member
        have whole : other.offset - offset =
            Text.byteLength (before ++ closing :: front) := by
          rw [there, place, Text.byteLength_append, Text.byteLength]
          omega
        have part : other.offset - (mark.offset + closing.utf8Size) =
            Text.byteLength front := by
          rw [there, Nat.add_sub_cancel_left]
        have split : before ++ closing :: (front ++ back) =
            before ++ closing :: front ++ back := by simp
        simp only [saidMark, Insertion.mk.injEq, and_true]
        rw [part, whole, split, saidLength_append, saidLength_append,
          ofText_append plain, said_append, said_cons, Text.byteLength_append,
          Text.byteLength]
        simp only [Nat.add_assoc]
      have beyond : ∀ insertion ∈ marks.map
          (saidMark after (mark.offset + closing.utf8Size)
            (base + Text.byteLength (said (ofText before)) +
              closing.utf8Size)),
          base + Text.byteLength (said (ofText before)) +
            Text.byteLength [closing] ≤ insertion.offset := by
        intro insertion member
        obtain ⟨other, _, rfl⟩ := List.mem_map.mp member
        simp only [saidMark, Text.byteLength]
        omega
      have skipped := Insertion.interleave_skip (said (ofText after)) beyond
      rw [List.singleton_append] at skipped
      rw [grown_next place later, ofText_grown_next quoted closes begins,
        ofText_append plain, List.map_cons, head, tail, said_append, said_append,
        said_cons, said_cons, said_append, said_cons, said_escapeWithin,
        Insertion.interleave_cons_of_cut _ rfl]
      · rw [skipped, begins, induction
          (base + Text.byteLength (said (ofText before)) + closing.utf8Size)]
        simp [Text.byteLength]
      · intro insertion member
        have := beyond insertion member
        simp only
        omega

/-! ## Substitutions -/

theorem substitutions_shift (growth offset : Nat) (symbols : List Symbol) :
    substitutions (growth + offset) symbols =
      (substitutions offset symbols).map (growth + ·) := by
  fun_induction substitutions offset symbols with
  | case1 offset rest induction =>
      rw [substitutions, Nat.add_assoc, induction, List.map_cons]
  | case2 offset given rest different induction =>
      rw [substitutions, Nat.add_assoc, induction]
      exact different
  | case3 offset => rfl

theorem moved_cons_of_le (first : mark.offset ≤ offset)
    (marks : List Insertion) :
    Insertion.moved (mark :: marks) offset =
      Text.byteLength mark.text.toList + Insertion.moved marks offset := by
  simp only [Insertion.moved, List.filter_cons, decide_eq_true first, if_true,
    List.flatMap_cons, Text.byteLength_append]
  omega

theorem moved_of_lt (beyond : ∀ mark ∈ marks, offset < mark.offset) :
    Insertion.moved marks offset = offset := by
  have none : marks.filter (fun mark => mark.offset ≤ offset) = [] := by
    rw [List.filter_eq_nil_iff]
    intro mark member
    have := beyond mark member
    simp only [decide_eq_true_eq]
    omega
  simp [Insertion.moved, none, Text.byteLength]

theorem substitutions_cons {symbol : Symbol} (other : symbol.character ≠ '$')
    (offset : Nat) (symbols : List Symbol) :
    substitutions offset (symbol :: symbols) =
      substitutions (offset + symbol.size) symbols := by
  rw [substitutions]
  rintro rest rfl
  simp at other

/-- Where a text with a character that closes a tag begins substitutions. -/
theorem substitutions_append_closing (closes : closing = '>' ∨ closing = '/')
    (offset : Nat) (before after : List Char) :
    substitutions offset (ofText (before ++ closing :: after)) =
      substitutions offset (ofText before) ++
        substitutions (offset + Text.byteLength before + closing.utf8Size)
          (ofText after) := by
  obtain ⟨plain, brace, _⟩ := ne_of_closes closes
  have dollar : closing ≠ '$' := by
    rcases closes with rfl | rfl
    · decide
    · decide
  rw [ofText_append plain, substitutions_append brace,
    substitutions_cons dollar]
  congr 2
  rw [byteLength_eq, size]
  simp only
  omega

/-- Between two backticks a mark begins no substitution. -/
theorem substitutions_mark (begins : mark.text.toList = ' ' :: rest)
    (offset : Nat) (before : List Char) :
    substitutions offset
        (ofText (before ++ escapeWithin '\x60' mark.text.toList)) =
      substitutions offset (ofText before) := by
  have blank : escapeWithin '\x60' (' ' :: rest) =
      ' ' :: escapeWithin '\x60' rest := by
    simp [escapeWithin]
  rw [begins, blank, ofText_append (by decide),
    substitutions_append (by simp), substitutions_cons (by simp),
    substitutions_escapeWithin, List.append_nil]

/-- Between two backticks a grown literal begins the substitutions that it
began before, moved by the marks in front of them. -/
theorem substitutions_grown (placed : Placed offset marks text) :
    substitutions offset (ofText (grown '\x60' marks offset text)) =
      (substitutions offset (ofText text)).map
        (Insertion.moved (marks.map (writtenMark '\x60'))) := by
  induction placed with
  | none =>
      have still : Insertion.moved [] = id := rfl
      simp [grown, Insertion.interleave_nil, still]
  | @next offset before after rest closing mark marks closes begins place later
      induction =>
      have ahead : (substitutions offset (ofText before)).map
            (Insertion.moved ((mark :: marks).map (writtenMark '\x60'))) =
          substitutions offset (ofText before) := by
        conv => rhs; rw [← List.map_id (substitutions offset (ofText before))]
        apply List.map_congr_left
        intro start member
        have within := (mem_substitutions member).2
        have length := byteLength_eq before
        apply moved_of_lt
        intro insertion inserted
        obtain ⟨other, inside, rfl⟩ := List.mem_map.mp inserted
        simp only [writtenMark]
        rcases List.mem_cons.mp inside with rfl | further
        · omega
        · have := later.le_of_mem further
          omega
      have behind : (substitutions (mark.offset + closing.utf8Size)
            (ofText after)).map
            (Insertion.moved ((mark :: marks).map (writtenMark '\x60'))) =
          (substitutions (mark.offset + closing.utf8Size)
            (ofText (grown '\x60' marks (mark.offset + closing.utf8Size)
              after))).map
            (Text.byteLength (escapeWithin '\x60' mark.text.toList) + ·) := by
        rw [induction, List.map_map]
        apply List.map_congr_left
        intro start member
        have beyond := (mem_substitutions member).1
        rw [List.map_cons, moved_cons_of_le]
        · simp [writtenMark]
        · simp only [writtenMark]
          omega
      rw [grown_next place later, ← List.append_assoc,
        substitutions_append_closing closes, substitutions_mark begins,
        substitutions_append_closing closes, List.map_append, ahead, ← place,
        behind, ← substitutions_shift]
      congr 2
      rw [Text.byteLength_append]
      omega

end Marks

end Markup

end SourceMark
