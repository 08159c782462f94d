import SourceMark.Proofs.Markup.Components
import SourceMark.Proofs.Markup.SecondScans

/-!
# Reading marked literals again

A literal is opened by what stands in front of it, which marks leave alone, and
ends where it ended before.  So the literals of a marked script are those of
the script, each moved by the marks in front of it, as long as every literal
that the script opens is also closed; and no tag in them is still to be marked.
-/

namespace SourceMark

/-- How many bytes are put in. -/
def Insertion.growth (insertions : List Insertion) : Nat :=
  Text.byteLength (insertions.flatMap fun insertion => insertion.text.toList)

namespace Insertion

theorem growth_append (first second : List Insertion) :
    growth (first ++ second) = growth first + growth second := by
  simp [growth]

/-- A place is moved by the insertions up to it. -/
theorem moved_append {earlier later : List Insertion} {offset : Nat}
    (before : ∀ insertion ∈ earlier, insertion.offset ≤ offset)
    (behind : ∀ insertion ∈ later, offset < insertion.offset) :
    moved (earlier ++ later) offset = offset + growth earlier := by
  have all : earlier.filter (fun insertion => insertion.offset ≤ offset) =
      earlier := by
    simpa using before
  have none : later.filter (fun insertion => insertion.offset ≤ offset) =
      [] := by
    simpa using behind
  rw [moved, List.filter_append, all, none, List.append_nil, growth]

end Insertion

namespace Markup

open SourceMark.Markup.Symbol

/-! ## Escaped marks -/

/-- Escaping brings in no characters but backslashes. -/
theorem mem_of_mem_escapeWithin {quote character : Char} {text : List Char}
    (member : character ∈ escapeWithin quote text) :
    character ∈ text ∨ character = '\\' := by
  induction text with
  | nil => simp [escapeWithin] at member
  | cons first rest induction =>
      rw [escapeWithin] at member
      split at member
      · next solidus => grind
      · split at member
        · grind
        · split at member
          · grind
          · grind

/-- What needs no escape is written as it is. -/
theorem escapeWithin_append {quote : Char} {front : List Char}
    (plain : ∀ character ∈ front,
      character ≠ '\\' ∧ character ≠ quote ∧ character ≠ '$')
    (rest : List Char) :
    escapeWithin quote (front ++ rest) = front ++ escapeWithin quote rest := by
  induction front with
  | nil => rfl
  | cons character front induction =>
      obtain ⟨solidus, closes, dollar⟩ := plain character (by simp)
      rw [List.cons_append, escapeWithin, if_neg solidus, if_neg closes]
      simp [dollar, induction fun other member => plain other (by simp [member])]

/-- A mark is still one when it is escaped for a literal. -/
theorem IsMark.escapeWithin {quote : Char} {text : List Char}
    (isMark : IsMark text) (quoted : Literal.isQuote quote = true) :
    IsMark (escapeWithin quote text) where
  leads := by
    obtain ⟨value, rfl⟩ := isMark.leads
    have plain : ∀ character ∈ markLead,
        character ≠ '\\' ∧ character ≠ quote ∧ character ≠ '$' := by
      intro character member
      have all : markLead.all (fun character => character ≠ '\\' &&
          character ≠ '$' && !Literal.isQuote character) = true := by decide
      have test := List.all_eq_true.mp all character member
      simp only [Bool.and_eq_true, decide_eq_true_eq, Bool.not_eq_true']
        at test
      refine ⟨test.1.1, ?_, test.1.2⟩
      rintro rfl
      simp [quoted] at test
    rw [escapeWithin_append plain]
    exact List.prefix_append _ _
  opensNothing := by
    intro member
    rcases mem_of_mem_escapeWithin member with inside | solidus
    · exact isMark.opensNothing inside
    · exact absurd solidus (by decide)

theorem Placed.byteLength_grown {offset : Nat} {marks : List Insertion}
    {text : List Char} (placed : Placed offset marks text) (quote : Char) :
    Text.byteLength (grown quote marks offset text) =
      Text.byteLength text +
        Insertion.growth (marks.map (writtenMark quote)) := by
  induction placed with
  | none =>
      simp [grown, Insertion.interleave_nil, Insertion.growth, Text.byteLength]
  | @next offset before after rest closing mark marks closes begins place later
      induction =>
      have split := Insertion.growth_append [writtenMark quote mark]
        (marks.map (writtenMark quote))
      have own : Insertion.growth [writtenMark quote mark] =
          Text.byteLength (escapeWithin quote mark.text.toList) := by
        simp [Insertion.growth, writtenMark]
      rw [List.singleton_append, own] at split
      rw [grown_next place later, List.map_cons, split]
      simp only [Text.byteLength_append, Text.byteLength, induction]
      omega

/-! ## Where literals are opened -/

namespace Literal

/-- The text opens a literal: it begins with `template`, a colon and a quote,
between which blanks may stand. -/
def Opens (text : List Char) : Prop :=
  ∃ gap space quote later,
    text = property ++ (gap ++ ':' :: (space ++ quote :: later)) ∧
      (∀ character ∈ gap, Text.isBlank character = true) ∧
      (∀ character ∈ space, Text.isBlank character = true) ∧
      isQuote quote = true

theorem isBlank_of_isQuote {quote : Char} (quoted : isQuote quote = true) :
    Text.isBlank quote = false := by
  simp only [isQuote, Bool.or_eq_true, decide_eq_true_eq] at quoted
  rcases quoted with (rfl | rfl) | rfl
  · decide
  · decide
  · decide

/-- How what opens a literal is read. -/
theorem read?_opening {gap space : List Char} {quote : Char}
    (gapBlank : ∀ character ∈ gap, Text.isBlank character = true)
    (spaceBlank : ∀ character ∈ space, Text.isBlank character = true)
    (quoted : isQuote quote = true) (later : List Char) :
    read? (property ++ (gap ++ ':' :: (space ++ quote :: later))) =
      (body? quote later).map fun read =>
        (property ++ gap ++ [':'] ++ space ++ [quote], quote, read.1,
          read.2) := by
  have colon : Text.isBlank ':' = false := by decide
  have named := span_append Text.isBlank (':' :: (space ++ quote :: later))
    gapBlank (by simpa using colon)
  have valued := span_append Text.isBlank (quote :: later) spaceBlank
    (by simpa using isBlank_of_isQuote quoted)
  have leads : property.isPrefixOf
      (property ++ (gap ++ ':' :: (space ++ quote :: later))) = true :=
    List.isPrefixOf_iff_prefix.mpr (List.prefix_append _ _)
  simp only [read?, leads, if_true, List.drop_left, named.1, named.2, valued.1,
    valued.2, quoted]

/-- A literal that is read has been opened and is closed. -/
theorem opening_of_read? {text lead body rest : List Char} {quote : Char}
    (found : read? text = some (lead, quote, body, rest)) :
    ∃ gap space later,
      text = property ++ (gap ++ ':' :: (space ++ quote :: later)) ∧
        (∀ character ∈ gap, Text.isBlank character = true) ∧
        (∀ character ∈ space, Text.isBlank character = true) ∧
        isQuote quote = true ∧
        lead = property ++ gap ++ [':'] ++ space ++ [quote] ∧
        body? quote later = some (body, rest) := by
  simp only [read?] at found
  split at found
  · next named =>
      obtain ⟨behind, rfl⟩ := List.isPrefixOf_iff_prefix.mp named
      rw [List.drop_left] at found
      have gap := List.takeWhile_append_dropWhile
        (p := Text.isBlank) (l := behind)
      split at found
      · next valued behindName =>
          have space := List.takeWhile_append_dropWhile
            (p := Text.isBlank) (l := valued)
          split at found
          · next opening later behindColon =>
              split at found
              · next quoted =>
                  obtain ⟨⟨inner, after⟩, closed, result⟩ :=
                    Option.map_eq_some_iff.mp found
                  simp only [Prod.mk.injEq] at result
                  obtain ⟨rfl, rfl, rfl, rfl⟩ := result
                  rw [behindName] at gap
                  rw [behindColon] at space
                  refine ⟨_, _, later, ?_, ?_, ?_, quoted, rfl, closed⟩
                  · rw [space, gap]
                  · exact fun character member =>
                      List.all_eq_true.mp List.all_takeWhile character member
                  · exact fun character member =>
                      List.all_eq_true.mp List.all_takeWhile character member
              · simp at found
          · simp at found
      · simp at found
  · simp at found

/-- A literal is read again with another body. -/
theorem read?_again {text lead body rest : List Char} {quote : Char}
    (found : read? text = some (lead, quote, body, rest))
    {other later : List Char}
    (closed : body? quote (other ++ quote :: later) = some (other, later)) :
    read? (lead ++ (other ++ quote :: later)) =
      some (lead, quote, other, later) := by
  obtain ⟨gap, space, _, _, gapBlank, spaceBlank, quoted, rfl, _⟩ :=
    opening_of_read? found
  have again := read?_opening gapBlank spaceBlank quoted
    (other ++ quote :: later)
  rw [closed] at again
  simpa using again

theorem read?_eq_none_of_not_opens {text : List Char}
    (unopened : ¬ Opens text) : read? text = none := by
  cases found : read? text with
  | none => rfl
  | some read =>
      obtain ⟨lead, quote, body, rest⟩ := read
      obtain ⟨gap, space, later, whole, gapBlank, spaceBlank, quoted, _⟩ :=
        opening_of_read? found
      exact absurd ⟨gap, space, quote, later, whole, gapBlank, spaceBlank,
        quoted⟩ unopened

/-- Whether a literal is opened is decided up to the first quote. -/
theorem opens_congr {front : List Char} {quote : Char}
    (quoted : isQuote quote = true) {first second : List Char}
    (opens : Opens (front ++ quote :: first)) :
    Opens (front ++ quote :: second) := by
  obtain ⟨gap, space, opening, later, whole, gapBlank, spaceBlank, opened⟩ :=
    opens
  let lead := property ++ (gap ++ ':' :: space)
  have quoteless : ∀ character ∈ lead, isQuote character = false := by
    intro character member
    simp only [lead, List.mem_append, List.mem_cons] at member
    have blank (other : Text.isBlank character = true) :
        isQuote character = false := by
      cases also : isQuote character with
      | false => rfl
      | true => rw [isBlank_of_isQuote also] at other; cases other
    rcases member with named | inner | rfl | outer
    · have all : property.all (fun character => !isQuote character) = true := by
        decide
      simpa using List.all_eq_true.mp all character named
    · exact blank (gapBlank character inner)
    · decide
    · exact blank (spaceBlank character outer)
  have split : front ++ quote :: first = lead ++ opening :: later := by
    simpa [lead] using whole
  have spelled (back : List Char) (closing : Char)
      (closes : isQuote closing = true) : Opens (lead ++ closing :: back) :=
    ⟨gap, space, closing, back, by simp [lead], gapBlank, spaceBlank, closes⟩
  rcases List.append_eq_append_iff.mp split with
    ⟨between, inside, rest⟩ | ⟨between, rfl, rest⟩
  · cases between with
    | nil =>
        rw [List.append_nil] at inside
        rw [← inside]
        exact spelled second quote quoted
    | cons character others =>
        obtain ⟨rfl, -⟩ := List.cons.inj rest
        have clash := quoteless quote (by simp [inside])
        simp [quoted] at clash
  · cases between with
    | nil =>
        rw [List.append_nil]
        exact spelled second quote quoted
    | cons character others =>
        obtain ⟨rfl, -⟩ := List.cons.inj rest
        rw [List.append_assoc, List.cons_append]
        exact spelled _ opening opened

/-- What opens a literal is seen from the first characters behind blanks. -/
theorem opens_iff (text : List Char) :
    Opens text ↔ property <+: text ∧
      let named := (text.drop property.length).dropWhile Text.isBlank
      named.head? = some ':' ∧
        (named.tail.dropWhile Text.isBlank).head?.any isQuote = true := by
  constructor
  · rintro ⟨gap, space, quote, later, rfl, gapBlank, spaceBlank, quoted⟩
    have colon : Text.isBlank ':' = false := by decide
    have named := span_append Text.isBlank (':' :: (space ++ quote :: later))
      gapBlank (by simpa using colon)
    have valued := span_append Text.isBlank (quote :: later) spaceBlank
      (by simpa using isBlank_of_isQuote quoted)
    refine ⟨List.prefix_append _ _, ?_⟩
    rw [List.drop_left, named.2]
    simp [valued.2, quoted]
  · rintro ⟨⟨behind, rfl⟩, colon, follows⟩
    rw [List.drop_left] at colon follows
    obtain ⟨valued, behindName⟩ := List.head?_eq_some_iff.mp colon
    rw [behindName, List.tail_cons] at follows
    obtain ⟨quote, opening, quoted⟩ := by
      simpa only [Option.any_eq_true] using follows
    obtain ⟨later, behindColon⟩ := List.head?_eq_some_iff.mp opening
    have gap := List.takeWhile_append_dropWhile (p := Text.isBlank) (l := behind)
    have space := List.takeWhile_append_dropWhile (p := Text.isBlank)
      (l := valued)
    rw [behindName] at gap
    rw [behindColon] at space
    refine ⟨behind.takeWhile Text.isBlank, valued.takeWhile Text.isBlank, quote,
      later, ?_, ?_, ?_, quoted⟩
    · rw [space, gap]
    · exact List.all_eq_true.mp List.all_takeWhile
    · exact List.all_eq_true.mp List.all_takeWhile

instance (text : List Char) : Decidable (Opens text) :=
  decidable_of_iff _ (opens_iff text).symm

/-- A rewritten text opens a literal only where the text does. -/
theorem RewritesBodies.opens {rewrite : Literal → List Char} {offset : Nat}
    {literals : List Literal} {source out : List Char}
    (rewrites : RewritesBodies rewrite offset literals source out)
    (quoted : ∀ literal ∈ literals, isQuote literal.quote = true)
    (opens : Opens out) : Opens source := by
  cases rewrites with
  | rest => exact opens
  | literal start later => exact opens_congr (quoted _ (by simp)) opens

/-! ## The literals of a marked script -/

/-- From a byte offset on, every literal that the text opens is closed, those
apart that would be opened inside another one. -/
def ClosesFrom (offset : Nat) (text : List Char) : Prop :=
  ∀ before after, text = before ++ after → Opens after →
    (∀ literal ∈ scan offset text,
      ¬ (literal.start ≤ offset + Text.byteLength before ∧
        offset + Text.byteLength before < literal.stop)) →
    (read? after).isSome = true

instance (offset : Nat) (text : List Char) :
    Decidable (ClosesFrom offset text) :=
  decidable_of_iff (∀ index < text.length + 1,
      Opens (text.drop index) →
      (∀ literal ∈ scan offset text,
        ¬ (literal.start ≤ offset + Text.byteLength (text.take index) ∧
          offset + Text.byteLength (text.take index) < literal.stop)) →
      (read? (text.drop index)).isSome = true) (by
    constructor
    · rintro all before after rfl
      have inside : before.length < (before ++ after).length + 1 := by
        rw [List.length_append]
        omega
      have here := all before.length inside
      rwa [List.drop_left, List.take_left] at here
    · intro closes index _
      exact closes _ _ (List.take_append_drop index text).symm)

theorem scan_of_read? {offset : Nat} {text lead body later : List Char}
    {quote : Char} (found : read? text = some (lead, quote, body, later)) :
    scan offset text =
      { quote, start := offset + Text.byteLength lead, body } ::
        scan (offset + Text.byteLength lead + Text.byteLength body + 1)
          later := by
  cases text with
  | nil => exact absurd (length_read? found) (Nat.not_lt_zero _)
  | cons character rest =>
      rw [scan]
      split
      · next read =>
          rw [found] at read
          simp only [Option.some.injEq, Prod.mk.injEq] at read
          obtain ⟨rfl, rfl, rfl, rfl⟩ := read
          rfl
      · next missed => simp [found] at missed

theorem scan_of_missed {offset : Nat} {character : Char} {rest : List Char}
    (missed : read? (character :: rest) = none) :
    scan offset (character :: rest) =
      scan (offset + character.utf8Size) rest := by
  rw [scan]
  split
  · next read => simp [missed] at read
  · rfl

namespace ClosesFrom

variable {offset : Nat}

theorem tail {character : Char} {rest : List Char}
    (closes : ClosesFrom offset (character :: rest))
    (missed : read? (character :: rest) = none) :
    ClosesFrom (offset + character.utf8Size) rest := by
  intro before after whole opens outside
  apply closes (character :: before) after (by rw [whole, List.cons_append])
    opens
  rw [scan_of_missed missed, Text.byteLength, ← Nat.add_assoc]
  exact outside

theorem behind {text lead body later : List Char} {quote : Char}
    (closes : ClosesFrom offset text)
    (found : read? text = some (lead, quote, body, later)) :
    ClosesFrom (offset + Text.byteLength lead + Text.byteLength body + 1)
      later := by
  obtain ⟨quoted, _, whole, _, _⟩ := parts_of_read? found
  have one : quote.utf8Size = 1 := size_of_isQuote quoted
  intro before after split opens outside
  have place : offset + Text.byteLength (lead ++ (body ++ quote :: before)) =
      offset + Text.byteLength lead + Text.byteLength body + 1 +
        Text.byteLength before := by
    simp only [Text.byteLength_append, Text.byteLength, one]
    omega
  refine closes (lead ++ (body ++ quote :: before)) after ?_ opens ?_
  · rw [whole, split]
    simp
  · rw [scan_of_read? found, place]
    intro literal member
    rcases List.mem_cons.mp member with rfl | further
    · simp only [stop]
      omega
    · exact outside literal further

/-- A literal that is not read has not been opened. -/
theorem not_opens {character : Char} {rest : List Char}
    (closes : ClosesFrom offset (character :: rest))
    (missed : read? (character :: rest) = none) :
    ¬ Opens (character :: rest) := by
  intro opens
  have read := closes [] (character :: rest) rfl opens ?_
  · simp [missed] at read
  · rw [scan_of_missed missed]
    intro literal member
    have start := le_start_of_mem_scan member
    have wide := character.utf8Size_pos
    simp only [Text.byteLength]
    omega

end ClosesFrom

section Marks

variable (options : FileOptions) (source : List Char)

theorem lt_offset_of_mem {literal : Literal} {insertion : Insertion}
    (member : insertion ∈
      literalInsertions (LineIndex.ofText source) options literal) :
    literal.start < insertion.offset := by
  rw [literalInsertions_eq, marks, List.map_map] at member
  obtain ⟨tag, inside, rfl⟩ := List.mem_map.mp member
  obtain ⟨before, _, _, start, _⟩ :=
    OpeningTag.mem_scan (List.mem_filter.mp inside).1
  have place := tag.attributeOffset_eq
  have open_ : '<'.utf8Size = 1 := rfl
  simp only [Function.comp, writtenMark, OpeningTag.mark, place,
    Text.byteLength, open_]
  omega

theorem byteLength_marked (literal : Literal) :
    Text.byteLength (literal.marked options source) =
      Text.byteLength literal.body + Insertion.growth
        (literalInsertions (LineIndex.ofText source) options literal) := by
  rw [marked_eq_grown, literalInsertions_eq]
  exact (literal.placed_marks options source).byteLength_grown literal.quote

/-- A literal as it stands in a text with marks: moved, and with its own
marks. -/
def rewritten (insertions : List Insertion) (literal : Literal) : Literal where
  quote := literal.quote
  start := Insertion.moved insertions literal.start
  body := literal.marked options source

/-- A literal in front of which some insertions stand is moved by those. -/
theorem rewritten_append {earlier later : List Insertion} {literal : Literal}
    (before : ∀ insertion ∈ earlier, insertion.offset ≤ literal.start)
    (behind : ∀ insertion ∈ later, literal.start < insertion.offset) :
    rewritten options source (earlier ++ later) literal =
      { quote := literal.quote
        start := literal.start + Insertion.growth earlier
        body := literal.marked options source } := by
  rw [rewritten, Insertion.moved_append before behind]

theorem scanInsertions_of_read? {offset : Nat} {text lead body later : List Char}
    {quote : Char} (found : read? text = some (lead, quote, body, later)) :
    scanInsertions options source offset text =
      literalInsertions (LineIndex.ofText source) options
          { quote, start := offset + Text.byteLength lead, body } ++
        scanInsertions options source
          (offset + Text.byteLength lead + Text.byteLength body + 1) later := by
  rw [scanInsertions, scan_of_read? found, List.flatMap_cons]
  rfl

theorem scanInsertions_of_missed {offset : Nat} {character : Char}
    {rest : List Char} (missed : read? (character :: rest) = none) :
    scanInsertions options source offset (character :: rest) =
      scanInsertions options source (offset + character.utf8Size) rest := by
  rw [scanInsertions, scan_of_missed missed]
  rfl

/-- A literal is found again with its marks. -/
theorem scan_marked_of_read? {offset start : Nat}
    {text lead body later : List Char} {quote : Char}
    (found : read? text = some (lead, quote, body, later))
    (place : start = offset + Text.byteLength lead) (restart : Nat) :
    scan restart (Insertion.interleave
        (scanInsertions options source offset text) offset text) =
      { quote
        start := restart + Text.byteLength lead
        body := marked options source { quote, start, body } } ::
        scan (restart + Text.byteLength lead + Text.byteLength
            (marked options source { quote, start, body }) + 1)
          (Insertion.interleave (scanInsertions options source
            (start + Text.byteLength body + 1) later)
            (start + Text.byteLength body + 1) later) := by
  obtain ⟨quoted, _, _, quoteless, settled⟩ := parts_of_read? found
  have keepsQuotes : Quoteless quote
      (ofText (marked options source { quote, start, body })) :=
    quoteless_marked options source quoted quoteless
  have staysSettled : dangles (marked options source { quote, start, body }) =
      false := settled_marked options source settled
  have closed := body?_of_settled (ne_of_isQuote quoted).1 keepsQuotes
    staysSettled
  rw [scanInsertions_of_read? options source found, ← place,
    interleave_of_read? options source found place]
  exact scan_of_read? (read?_again found (closed _))

/-- Where no literal is read, none is read with the marks. -/
theorem scan_marked_of_missed {offset : Nat} {character : Char}
    {rest : List Char} (closes : ClosesFrom offset (character :: rest))
    (missed : read? (character :: rest) = none) (restart : Nat) :
    scan restart (Insertion.interleave
        (scanInsertions options source offset (character :: rest)) offset
        (character :: rest)) =
      scan (restart + character.utf8Size) (Insertion.interleave
        (scanInsertions options source (offset + character.utf8Size) rest)
        (offset + character.utf8Size) rest) := by
  have rewrites := rewritesBodies_scan options source offset
    (character :: rest)
  have unread : read? (Insertion.interleave (scanInsertions options source
      offset (character :: rest)) offset (character :: rest)) = none := by
    apply read?_eq_none_of_not_opens
    intro opens
    exact closes.not_opens missed
      (rewrites.opens (fun literal member => (mem_scan member).1) opens)
  rw [scanInsertions_of_missed options source missed,
    interleave_scanInsertions_cons] at unread ⊢
  rw [scan_of_missed unread]

/-- A scan of a marked text finds the literals of the text, each with its
marks and moved by those in front of it. -/
theorem scan_interleave {offset : Nat} {text : List Char}
    (closes : ClosesFrom offset text) {earlier : List Insertion}
    (before : ∀ insertion ∈ earlier, insertion.offset ≤ offset) :
    scan (offset + Insertion.growth earlier)
        (Insertion.interleave (scanInsertions options source offset text)
          offset text) =
      (scan offset text).map (rewritten options source
        (earlier ++ scanInsertions options source offset text)) := by
  fun_induction scan offset text generalizing earlier with
  | case1 offset => simp [scanInsertions, Insertion.interleave_nil, scan]
  | case2 offset character rest lead quote body later found start induction =>
      let literal : Literal := { quote, start, body }
      let first := literalInsertions (LineIndex.ofText source) options literal
      let others := scanInsertions options source
        (start + Text.byteLength body + 1) later
      have mine : scanInsertions options source offset (character :: rest) =
          first ++ others := scanInsertions_of_read? options source found
      -- The marks of earlier literals stand in front of this one, its own
      -- inside its body, and those of later ones behind its closing quote.
      have reaches : ∀ insertion ∈ earlier, insertion.offset ≤ start := by
        intro insertion member
        exact Nat.le_trans (before insertion member) (Nat.le_add_right _ _)
      have behind : ∀ insertion ∈ first ++ others,
          literal.start < insertion.offset := by
        intro insertion member
        rcases List.mem_append.mp member with own | other
        · exact lt_offset_of_mem options source own
        · have further := le_of_mem_insertions options source other
          simp only [literal]
          omega
      have passed : ∀ insertion ∈ earlier ++ first,
          insertion.offset ≤ start + Text.byteLength body + 1 := by
        intro insertion member
        rcases List.mem_append.mp member with front | own
        · have := reaches insertion front
          omega
        · have : insertion.offset < start + Text.byteLength body :=
            (bounds_of_mem options source own).2
          omega
      have tail := induction (closes.behind found) passed
      have wide : Text.byteLength (literal.marked options source) =
          Text.byteLength body + Insertion.growth first :=
        byteLength_marked options source literal
      have place : offset + Insertion.growth earlier + Text.byteLength lead +
            Text.byteLength (literal.marked options source) + 1 =
          start + Text.byteLength body + 1 +
            Insertion.growth (earlier ++ first) := by
        rw [wide, Insertion.growth_append]
        simp only [start]
        omega
      rw [scan_marked_of_read? options source found (show start = _ from rfl),
        mine, List.map_cons, rewritten_append options source reaches behind,
        place]
      simp only [start] at tail ⊢
      rw [List.append_assoc] at tail
      rw [tail, Nat.add_right_comm]
  | case3 offset character rest missed induction =>
      have passed : ∀ insertion ∈ earlier,
          insertion.offset ≤ offset + character.utf8Size := by
        intro insertion member
        exact Nat.le_trans (before insertion member) (Nat.le_add_right _ _)
      have tail := induction (closes.tail missed) passed
      rw [scan_marked_of_missed options source closes missed,
        scanInsertions_of_missed options source missed, ← tail,
        Nat.add_right_comm]

variable {options}

/-- What a marked script says in a literal is the marked text of what it said
there. -/
theorem remarked_marked (plain : '<' ∉ options.filename.toList)
    {literal : Literal} (quoted : isQuote literal.quote = true) :
    Remarked options literal.start literal.body
      (literal.marked options source) := by
  let write (tag : OpeningTag) : String :=
    String.ofList (escapeWithin literal.quote (Marker.attributeText
      Marker.combined (tag.location options.filename source)).toList)
  have isMark (tag : OpeningTag) : IsMark (write tag).toList := by
    rw [String.toList_ofList]
    exact (isMark_attributeText plain).escapeWithin quoted
  have marks : (literal.marks options source).map (writtenMark literal.quote) =
      OpeningTag.insertions options write literal.start literal.body := by
    rw [Literal.marks, tags, List.map_map]
    rfl
  rw [marked_eq_grown, grown, marks]
  exact OpeningTag.remarked_insertions options isMark literal.start literal.body

end Marks

end Literal

/-- A script whose literals have been marked keeps them, and stays as it is when
it is marked for whatever file, if the first file has no bracket in its name and
every literal that the script opens is closed. -/
theorem annotateComponent_of_marked {options again : FileOptions}
    {source out : String} (plain : '<' ∉ options.filename.toList)
    (ignored : again.ignored = options.ignored) (named : again.filename ≠ "")
    (closes : Literal.ClosesFrom 0 source.toList)
    (done : annotateComponent source options = .ok (some out)) :
    Literal.scan 0 out.toList = (Literal.scan 0 source.toList).map
        (Literal.rewritten options source.toList
          (componentInsertions source.toList options)) ∧
      annotateComponent out again = .ok none := by
  have reread : Literal.scan 0 out.toList =
      (Literal.scan 0 source.toList).map (Literal.rewritten options
        source.toList (componentInsertions source.toList options)) := by
    rw [interleave_of_annotateComponent done]
    have nothing : ∀ insertion ∈ ([] : List Insertion),
        insertion.offset ≤ 0 := by simp
    exact Literal.scan_interleave options source.toList closes nothing
  refine ⟨reread, ?_⟩
  have nothing : componentInsertions out.toList again = [] := by
    rw [componentInsertions, reread, List.flatMap_map,
      List.flatMap_eq_nil_iff]
    intro literal member
    have remarked := Literal.remarked_marked source.toList plain
      (Literal.mem_scan member).1
    rw [literalInsertions, Literal.rewritten,
      markedTags_of_remarked ignored remarked, List.map_nil]
  rw [annotateComponent, FileOptions.requireFilename_of_named named, nothing]
  rfl

/-- A file whose name holds all quotes, an opened substitution and an opened
literal, and a literal in which another one is opened. -/
theorem annotateComponent_of_marked_named :
    let options : FileOptions :=
      { filename := "a>\"'\x60$\x7b\\template: '.ts", ignored := ["hr"] }
    let source := "template: \x60<p a>$\x7bb\x7d</p><hr>\x60,\n" ++
      "template :'<br/>template: \"<i >it\\'s'"
    let out := "template: \x60<p a data-locatorjs=" ++
      "\"a>&quot;'\\\x60\\$\x7b\\\\template: '.ts:1:11\">" ++
      "$\x7bb\x7d</p><hr>\x60,\n" ++
      "template :'<br data-locatorjs=" ++
      "\"a>&quot;\\'\x60$\x7b\\\\template: \\'.ts:2:11\"/>" ++
      "template: \"<i  data-locatorjs=" ++
      "\"a>&quot;\\'\x60$\x7b\\\\template: \\'.ts:2:27\">it\\'s'"
    '<' ∉ options.filename.toList ∧ options.filename ≠ "" ∧
      Literal.ClosesFrom 0 source.toList ∧
      annotateComponent source options = .ok (some out) ∧
      Literal.scan 0 out.toList = (Literal.scan 0 source.toList).map
        (Literal.rewritten options source.toList
          (componentInsertions source.toList options)) ∧
      annotateComponent out options = .ok none := by
  intro options source out
  have plain : '<' ∉ options.filename.toList := by decide
  have named : options.filename ≠ "" := by decide
  have closes : Literal.ClosesFrom 0 source.toList := by decide +kernel
  have done : annotateComponent source options = .ok (some out) :=
    eq_ok_of_toOption (by decide +kernel)
  exact ⟨plain, named, closes, done,
    annotateComponent_of_marked plain rfl named closes done⟩

end Markup

end SourceMark
