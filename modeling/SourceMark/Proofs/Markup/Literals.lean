import SourceMark.Proofs.Markup.Annotation
import SourceMark.Proofs.Markup.Growth

/-!
# Inline templates keep their literals

A script is rewritten inside the literals of its templates only.  Each literal
still ends at its own quote, and it says what it said before, with a mark in
front of the closing of every eligible tag.
-/

namespace SourceMark

/-- A pass around a part that has insertions of its own. -/
theorem Insertion.interleave_around {first others : List Insertion}
    {offset : Nat} {lead body closing : List Char} (later : List Char)
    (inside : ∀ insertion ∈ first,
      offset + Text.byteLength lead ≤ insertion.offset ∧
        insertion.offset <
          offset + Text.byteLength lead + Text.byteLength body)
    (beyond : ∀ insertion ∈ others,
      offset + Text.byteLength lead + Text.byteLength body +
        Text.byteLength closing ≤ insertion.offset) :
    interleave (first ++ others) offset
        (lead ++ (body ++ (closing ++ later))) =
      lead ++ (interleave first (offset + Text.byteLength lead) body ++
        (closing ++ interleave others (offset + Text.byteLength lead +
          Text.byteLength body + Text.byteLength closing) later)) := by
  have behind : ∀ insertion ∈ others,
      offset + Text.byteLength lead + Text.byteLength body ≤
        insertion.offset := by
    intro insertion member
    have := beyond insertion member
    omega
  rw [interleave_skip, interleave_append_of_cut, interleave_skip]
  · exact beyond
  · exact fun insertion member => (inside insertion member).2
  · exact behind
  · intro insertion member
    rcases List.mem_append.mp member with mine | further
    · exact (inside insertion mine).1
    · have := behind insertion further
      omega

namespace Markup

open SourceMark.Markup.Symbol

/-! ## The marks of a literal -/

namespace OpeningTag

/-- What closes a tag, behind the place for a mark. -/
theorem closing_eq (tag : OpeningTag) :
    ∃ closing others, tag.closing = closing :: others ∧
      (closing = '>' ∨ closing = '/') := by
  unfold closing Template.closing
  split
  · exact ⟨'/', ['>'], rfl, .inr rfl⟩
  · exact ⟨'>', [], rfl, .inl rfl⟩

/-- A blank comes first in every mark. -/
theorem mark_toList (filename : String) (source : List Char)
    (tag : OpeningTag) :
    ∃ rest, (tag.mark filename source).text.toList = ' ' :: rest := by
  have written := Marker.attributeText_toList Marker.combined
    (tag.location filename source)
  exact ⟨_, written⟩

theorem mark_offset (filename : String) (source : List Char)
    (tag : OpeningTag) :
    (tag.mark filename source).offset = tag.attributeOffset := rfl

/-- The marks of some of the tags that a scan finds come in order in front of
what closes the tags. -/
theorem placed_of_scan (filename : String) (source : List Char)
    (chosen : OpeningTag → Bool) (offset : Nat) (text : List Char) :
    Placed offset (((scan offset text).filter chosen).map
      (mark filename source)) text := by
  have open_ : '<'.utf8Size = 1 := rfl
  fun_induction scan offset text with
  | case1 => exact .none
  | case2 offset rest tag later found induction =>
      obtain ⟨start, whole, _⟩ := isFound_of_read? found
      rw [whole]
      by_cases eligible : chosen tag = true
      · obtain ⟨closing, others, closed, closes⟩ := tag.closing_eq
        obtain ⟨rest, begins⟩ := mark_toList filename source tag
        have place : (tag.mark filename source).offset =
            offset + Text.byteLength ('<' :: (tag.name ++ tag.unslashed)) := by
          rw [mark_offset, attributeOffset_eq, start]
        have ends : tag.stop = (tag.mark filename source).offset +
            closing.utf8Size + Text.byteLength others := by
          rw [stop_eq, text_eq, place, start, closed]
          simp only [Text.byteLength, Text.byteLength_append]
          omega
        have split : tag.text ++ later =
            '<' :: (tag.name ++ tag.unslashed) ++
              closing :: (others ++ later) := by
          rw [text_eq, closed]
          simp
        have behind : Placed ((tag.mark filename source).offset +
            closing.utf8Size) (((scan tag.stop later).filter chosen).map
              (mark filename source)) (others ++ later) := by
          apply Placed.behind others
          rw [← ends]
          exact induction
        rw [List.filter_cons_of_pos eligible, List.map_cons, split]
        exact .next closes begins place behind
      · rw [List.filter_cons_of_neg eligible]
        apply Placed.behind tag.text
        rw [← start, ← stop_eq]
        exact induction
  | case3 offset rest missed induction =>
      apply Placed.behind ['<']
      simpa [Text.byteLength, open_] using induction
  | case4 offset character rest other induction =>
      apply Placed.behind [character]
      simpa [Text.byteLength] using induction

end OpeningTag

namespace Literal

/-- The byte offset behind the body. -/
def stop (literal : Literal) : Nat :=
  literal.start + Text.byteLength literal.body

/-- The tags of a literal that get a mark. -/
def tags (options : FileOptions) (literal : Literal) : List OpeningTag :=
  (OpeningTag.scan literal.start literal.body).filter (isEligible options)

/-- The marks of a literal, before they are escaped. -/
def marks (options : FileOptions) (source : List Char) (literal : Literal) :
    List Insertion :=
  (literal.tags options).map (OpeningTag.mark options.filename source)

/-- The body of a literal after its script has been marked. -/
def marked (options : FileOptions) (source : List Char) (literal : Literal) :
    List Char :=
  splice literal.start literal.body
    (literalInsertions (LineIndex.ofText source) options literal)

theorem literalInsertions_eq (options : FileOptions) (source : List Char)
    (literal : Literal) :
    literalInsertions (LineIndex.ofText source) options literal =
      (literal.marks options source).map (writtenMark literal.quote) := by
  simp only [literalInsertions, markedTags, marks, tags, List.map_map]
  rfl

theorem placed_marks (options : FileOptions) (source : List Char)
    (literal : Literal) :
    Placed literal.start (literal.marks options source) literal.body :=
  OpeningTag.placed_of_scan options.filename source _ _ _

end Literal

namespace Placed

variable {offset : Nat} {marks : List Insertion} {text : List Char}

theorem pairwise (placed : Placed offset marks text) :
    marks.Pairwise fun first second => first.offset < second.offset := by
  induction placed with
  | none => exact List.Pairwise.nil
  | @next offset before after rest closing mark marks closes begins place later
      induction =>
      have positive := closing.utf8Size_pos
      apply List.pairwise_cons.mpr
      refine ⟨?_, induction⟩
      intro other member
      have := later.le_of_mem member
      omega

theorem lt_of_mem (placed : Placed offset marks text) {mark : Insertion}
    (member : mark ∈ marks) :
    mark.offset < offset + Text.byteLength text := by
  induction placed with
  | none => simp at member
  | @next offset before after rest closing first marks closes begins place later
      induction =>
      have positive := closing.utf8Size_pos
      rw [Text.byteLength_append, Text.byteLength]
      rcases List.mem_cons.mp member with rfl | further
      · omega
      · have := induction further
        omega

theorem splice_eq_grown (placed : Placed offset marks text) (quote : Char) :
    splice offset text (marks.map (writtenMark quote)) =
      grown quote marks offset text := by
  apply splice_eq_interleave
  · intro insertion member
    obtain ⟨mark, inside, rfl⟩ := List.mem_map.mp member
    simpa [writtenMark] using placed.place_of_mem inside
  · rw [List.pairwise_map]
    exact placed.pairwise.imp fun before => Nat.le_of_lt before

end Placed

/-! ## The literals of a script -/

namespace Literal

/-- One text is the other one with the bodies of its literals rewritten. -/
inductive RewritesBodies (rewrite : Literal → List Char) :
    (offset : Nat) → List Literal → (source out : List Char) → Prop where
  | rest {offset : Nat} {text : List Char} :
      RewritesBodies rewrite offset [] text text
  | literal {offset : Nat} {lead source out : List Char} {literal : Literal}
      {literals : List Literal} :
      literal.start = offset + Text.byteLength (lead ++ [literal.quote]) →
      RewritesBodies rewrite (literal.stop + literal.quote.utf8Size) literals
        source out →
      RewritesBodies rewrite offset (literal :: literals)
        (lead ++ literal.quote :: (literal.body ++ literal.quote :: source))
        (lead ++ literal.quote :: (rewrite literal ++ literal.quote :: out))

theorem size_of_isQuote {quote : Char} (quoted : isQuote quote = true) :
    quote.utf8Size = 1 := by
  simp only [isQuote, Bool.or_eq_true, decide_eq_true_eq] at quoted
  rcases quoted with (rfl | rfl) | rfl
  · rfl
  · rfl
  · rfl

theorem RewritesBodies.behind {rewrite : Literal → List Char} {offset : Nat}
    {literals : List Literal} {source out : List Char} (front : List Char)
    (rewrites : RewritesBodies rewrite (offset + Text.byteLength front)
      literals source out) :
    RewritesBodies rewrite offset literals (front ++ source)
      (front ++ out) := by
  cases rewrites with
  | rest => exact .rest
  | literal start later =>
      rw [← List.append_assoc, ← List.append_assoc]
      apply literal _ later
      rw [start, List.append_assoc, Text.byteLength_append front, Nat.add_assoc]

/-- A literal that is read stands behind its quote and in front of another
one, at which it is read again. -/
theorem parts_of_read? {text lead body rest : List Char} {quote : Char}
    (found : read? text = some (lead, quote, body, rest)) :
    isQuote quote = true ∧ (∃ front, lead = front ++ [quote]) ∧
      text = lead ++ (body ++ quote :: rest) ∧
      Quoteless quote (ofText body) ∧ dangles body = false := by
  simp only [read?] at found
  split at found
  · next named =>
      split at found
      · next valued behindName =>
          split at found
          · next opening later behindColon =>
              split at found
              · next quoted =>
                  obtain ⟨⟨inner, after⟩, closed, result⟩ :=
                    Option.map_eq_some_iff.mp found
                  simp only [Prod.mk.injEq] at result
                  obtain ⟨rfl, rfl, rfl, rfl⟩ := result
                  obtain ⟨whole, quoteless, settled⟩ :=
                    settled_of_body? (ne_of_isQuote quoted).1 closed
                  refine ⟨quoted, ⟨_, rfl⟩, ?_, quoteless, settled⟩
                  obtain ⟨later', whole'⟩ := List.isPrefixOf_iff_prefix.mp named
                  have gap := List.takeWhile_append_dropWhile
                    (p := Text.isBlank) (l := text.drop property.length)
                  have space := List.takeWhile_append_dropWhile
                    (p := Text.isBlank) (l := valued)
                  rw [behindName] at gap
                  rw [behindColon, whole] at space
                  rw [← whole', List.drop_left] at gap ⊢
                  simp only [List.append_assoc, List.cons_append,
                    List.nil_append, space, gap]
              · simp at found
          · simp at found
      · simp at found
  · simp at found

/-- Every literal that a scan finds stands in the text. -/
theorem mem_scan {offset : Nat} {text : List Char} {literal : Literal}
    (member : literal ∈ scan offset text) :
    isQuote literal.quote = true ∧
      Quoteless literal.quote (ofText literal.body) ∧
      dangles literal.body = false ∧
      ∃ before after, text = before ++ (literal.body ++ after) ∧
        literal.start = offset + Text.byteLength before := by
  fun_induction scan offset text with
  | case1 => simp at member
  | case2 offset character rest lead quote body later found start induction =>
      obtain ⟨quoted, _, whole, quoteless, settled⟩ := parts_of_read? found
      rcases List.mem_cons.mp member with rfl | member
      · exact ⟨quoted, quoteless, settled, lead, quote :: later, whole, rfl⟩
      · obtain ⟨inner, loose, ends, before, after, rfl, place⟩ :=
          induction member
        refine ⟨inner, loose, ends, lead ++ (body ++ quote :: before), after, ?_,
          ?_⟩
        · rw [whole]
          simp
        · have one : quote.utf8Size = 1 := size_of_isQuote quoted
          rw [place]
          simp only [Text.byteLength_append, Text.byteLength, one, start]
          omega
  | case3 offset character rest missed induction =>
      obtain ⟨inner, loose, ends, before, after, rfl, place⟩ := induction member
      refine ⟨inner, loose, ends, character :: before, after, rfl, ?_⟩
      rw [place, Text.byteLength, Nat.add_assoc]

theorem le_start_of_mem_scan {offset : Nat} {text : List Char}
    {literal : Literal} (member : literal ∈ scan offset text) :
    offset ≤ literal.start := by
  obtain ⟨_, _, _, before, _, _, place⟩ := mem_scan member
  omega

/-- Literals come one behind the other. -/
theorem scan_pairwise (offset : Nat) (text : List Char) :
    (scan offset text).Pairwise
      fun first second => first.stop ≤ second.start := by
  fun_induction scan offset text with
  | case1 => exact List.Pairwise.nil
  | case2 offset character rest lead quote body later found start induction =>
      apply List.pairwise_cons.mpr
      refine ⟨?_, induction⟩
      intro other member
      have := le_start_of_mem_scan member
      simp only [stop]
      omega
  | case3 offset character rest missed induction => exact induction

section Script

variable (options : FileOptions) (source : List Char)

theorem bounds_of_mem {literal : Literal} {insertion : Insertion}
    (member : insertion ∈
      literalInsertions (LineIndex.ofText source) options literal) :
    literal.start ≤ insertion.offset ∧ insertion.offset < literal.stop := by
  rw [literalInsertions_eq] at member
  obtain ⟨mark, inside, rfl⟩ := List.mem_map.mp member
  have placed := literal.placed_marks options source
  have after := placed.le_of_mem inside
  have before := placed.lt_of_mem inside
  exact ⟨after, before⟩

theorem marked_eq_grown (literal : Literal) :
    literal.marked options source =
      grown literal.quote (literal.marks options source) literal.start
        literal.body := by
  rw [marked, literalInsertions_eq]
  exact (literal.placed_marks options source).splice_eq_grown literal.quote

/-- The insertions for the literals behind a place come behind it. -/
theorem le_of_mem_insertions {offset : Nat} {text : List Char}
    {insertion : Insertion}
    (member : insertion ∈ (scan offset text).flatMap
      (literalInsertions (LineIndex.ofText source) options)) :
    offset ≤ insertion.offset := by
  obtain ⟨literal, found, inside⟩ := List.mem_flatMap.mp member
  have first := le_start_of_mem_scan found
  have second := (bounds_of_mem options source inside).1
  omega

/-- The insertions for the literals of a text from a byte offset on. -/
def scanInsertions (offset : Nat) (text : List Char) : List Insertion :=
  (scan offset text).flatMap
    (literalInsertions (LineIndex.ofText source) options)

/-- A pass over a literal writes its marks and goes on behind its closing
quote. -/
theorem interleave_of_read? {offset start : Nat}
    {text lead body later : List Char} {quote : Char}
    (found : read? text = some (lead, quote, body, later))
    (place : start = offset + Text.byteLength lead) :
    Insertion.interleave
        (literalInsertions (LineIndex.ofText source) options
            { quote, start, body } ++
          scanInsertions options source (start + Text.byteLength body + 1)
            later) offset text =
      lead ++ (marked options source { quote, start, body } ++ quote ::
        Insertion.interleave
          (scanInsertions options source (start + Text.byteLength body + 1)
            later) (start + Text.byteLength body + 1) later) := by
  obtain ⟨quoted, _, whole, _, _⟩ := parts_of_read? found
  have one : quote.utf8Size = 1 := size_of_isQuote quoted
  let literal : Literal := { quote, start, body }
  let first := literalInsertions (LineIndex.ofText source) options literal
  let others :=
    scanInsertions options source (start + Text.byteLength body + 1) later
  have inside : ∀ insertion ∈ first, start ≤ insertion.offset ∧
      insertion.offset < start + Text.byteLength body := by
    intro insertion member
    exact bounds_of_mem options source member
  have beyond : ∀ insertion ∈ others,
      start + Text.byteLength body + 1 ≤ insertion.offset := by
    intro insertion member
    exact le_of_mem_insertions options source member
  have mine : literal.marked options source =
      Insertion.interleave first start body := by
    simp only [first, marked_eq_grown, grown, literalInsertions_eq]
    rfl
  have width : Text.byteLength [quote] = 1 := by
    rw [Text.byteLength, one]
    rfl
  have around := @Insertion.interleave_around first others offset lead body
    [quote] later (by rwa [← place]) (by rwa [← place, width])
  rw [width, ← place, ← mine, List.singleton_append,
    List.singleton_append] at around
  rw [whole, around]

/-- In front of the literals of a text, nothing changes. -/
theorem interleave_scanInsertions_cons (offset : Nat) (character : Char)
    (rest : List Char) :
    Insertion.interleave
        (scanInsertions options source (offset + character.utf8Size) rest)
        offset (character :: rest) =
      character :: Insertion.interleave
        (scanInsertions options source (offset + character.utf8Size) rest)
        (offset + character.utf8Size) rest := by
  have skipped := @Insertion.interleave_skip
    (scanInsertions options source (offset + character.utf8Size) rest) offset
    [character] rest
  simp only [Text.byteLength, Nat.add_zero, List.singleton_append] at skipped
  exact skipped fun insertion member =>
    le_of_mem_insertions options source member

/-- One pass over a text puts every mark into its literal. -/
theorem rewritesBodies_scan (offset : Nat) (text : List Char) :
    RewritesBodies (marked options source) offset (scan offset text) text
      (Insertion.interleave ((scan offset text).flatMap
        (literalInsertions (LineIndex.ofText source) options)) offset
        text) := by
  fun_induction scan offset text with
  | case1 offset =>
      rw [List.flatMap_nil, Insertion.interleave_nil]
      exact .rest
  | case2 offset character rest lead quote body later found start induction =>
      obtain ⟨quoted, ⟨front, rfl⟩, whole, _, _⟩ := parts_of_read? found
      have one : quote.utf8Size = 1 := size_of_isQuote quoted
      have pass := interleave_of_read? options source found
        (show start = _ from rfl)
      rw [scanInsertions, whole, List.append_assoc, List.append_assoc,
        List.singleton_append, List.singleton_append] at pass
      rw [List.flatMap_cons, whole, List.append_assoc, List.singleton_append,
        pass]
      apply RewritesBodies.literal
      · rfl
      · simpa only [stop, one] using induction
  | case3 offset character rest missed induction =>
      have pass := interleave_scanInsertions_cons options source offset
        character rest
      simp only [scanInsertions] at pass
      rw [pass]
      apply RewritesBodies.behind [character]
      simpa [Text.byteLength] using induction

end Script

end Literal

end Markup

end SourceMark
