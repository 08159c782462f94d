import SourceMark.Text.Cut

/-!
# Searches from the left

A search goes through a text from the left: where an item stands it is taken and
the search goes on behind it, and elsewhere one character is passed over.  What
stands at a place may be told by an expression.  The ways to match an expression
come in an order of preference, the one that is tried first in front, and the
first of them is the one that counts.
-/

namespace SourceMark

namespace Text

/-! ## What a search finds -/

section Searches

variable {Item : Type} {stands : Nat → List Char → Item → List Char → Prop}

/-- The items that a search finds in a text from a byte offset on.  Which item
stands at the start of a text at an offset, and what is left behind it, is told
by `stands`. -/
inductive Finds (stands : Nat → List Char → Item → List Char → Prop) :
    Nat → List Char → List Item → Prop where
  | nothing {offset : Nat} : Finds stands offset [] []
  | found {offset : Nat} {text taken rest : List Char} {item : Item}
      {items : List Item} (here : stands offset text item rest)
      (split : text = taken ++ rest) (further : taken ≠ [])
      (later : Finds stands (offset + byteLength taken) rest items) :
      Finds stands offset text (item :: items)
  | passed {offset : Nat} {first : Char} {rest : List Char} {items : List Item}
      (none : ∀ item after, ¬ stands offset (first :: rest) item after)
      (later : Finds stands (offset + first.utf8Size) rest items) :
      Finds stands offset (first :: rest) items

/-- At most one item stands at a place. -/
def IsDetermined (stands : Nat → List Char → Item → List Char → Prop) : Prop :=
  ∀ offset text item rest other after, stands offset text item rest →
    stands offset text other after → item = other ∧ rest = after

/-- Where one item at most stands at a place, a search has one result. -/
theorem Finds.unique (determined : IsDetermined stands)
    {offset : Nat} {text : List Char} {items others : List Item}
    (left : Finds stands offset text items)
    (right : Finds stands offset text others) : items = others := by
  induction left generalizing others with
  | nothing =>
      cases right with
      | nothing => rfl
      | found here split further later =>
          exact absurd (List.append_eq_nil_iff.mp split.symm).1 further
  | found here split further later induction =>
      cases right with
      | nothing => exact absurd (List.append_eq_nil_iff.mp split.symm).1 further
      | found there otherSplit _ behind =>
          obtain ⟨rfl, rfl⟩ := determined _ _ _ _ _ _ here there
          obtain rfl := List.append_cancel_right (split.symm.trans otherSplit)
          rw [induction behind]
      | passed none behind => exact absurd here (none _ _)
  | passed none later induction =>
      cases right with
      | found there => exact absurd there (none _ _)
      | passed _ behind => exact induction behind

/-- A search has this result and no other one. -/
theorem Finds.iff_eq (determined : IsDetermined stands) {offset : Nat}
    {text : List Char} {items : List Item}
    (finds : Finds stands offset text items) (others : List Item) :
    Finds stands offset text others ↔ others = items := by
  constructor
  · exact fun again => again.unique determined finds
  · rintro rfl
    exact finds

/-- What a search finds stands in the text. -/
theorem Finds.stands_of_mem {offset : Nat} {text : List Char}
    {items : List Item} (finds : Finds stands offset text items) {item : Item}
    (member : item ∈ items) :
    ∃ before here rest, text = before ++ here ∧
      stands (offset + byteLength before) here item rest := by
  induction finds with
  | nothing => cases member
  | @found offset text taken rest first items here split further later
      induction =>
      rcases List.mem_cons.mp member with rfl | behind
      · exact ⟨[], text, rest, rfl, here⟩
      · obtain ⟨before, there, after, rfl, stands⟩ := induction behind
        refine ⟨taken ++ before, there, after, ?_, ?_⟩
        · rw [split, List.append_assoc]
        · rwa [byteLength_append, ← Nat.add_assoc]
  | @passed offset first rest items none later induction =>
      obtain ⟨before, there, after, rfl, stands⟩ := induction member
      exact ⟨first :: before, there, after, rfl, by
        rwa [byteLength, ← Nat.add_assoc]⟩

/-- A search for other items finds what belongs to the items, if they stand at
the same places. -/
theorem Finds.map {Other : Type}
    {others : Nat → List Char → Other → List Char → Prop}
    {change : Item → Other}
    (same : ∀ {offset text item rest}, stands offset text item rest →
      others offset text (change item) rest)
    (back : ∀ {offset text other rest}, others offset text other rest →
      ∃ item after, stands offset text item after)
    {offset : Nat} {text : List Char} {items : List Item}
    (finds : Finds stands offset text items) :
    Finds others offset text (items.map change) := by
  induction finds with
  | nothing => exact .nothing
  | found here split further later induction =>
      exact .found (same here) split further induction
  | passed none later induction =>
      refine .passed (fun other rest stands => ?_) induction
      obtain ⟨item, after, here⟩ := back stands
      exact none item after here

end Searches

/-! ## Expressions -/

/-- An expression that is tried on the front of a text. -/
inductive SearchExpression where
  | one (test : Char → Bool)
  /-- Characters that pass a test, rather more of them than fewer. -/
  | most (test : Char → Bool)
  /-- Characters that pass a test, rather fewer of them than more. -/
  | fewest (test : Char → Bool)
  /-- The body rather than nothing. -/
  | optional (body : SearchExpression)
  | sequence (first second : SearchExpression)
  /-- A part whose text is asked for. -/
  | part (body : SearchExpression)

/-- A way to take the front of a text: what is taken, the parts of it that are
asked for, and what is left. -/
structure Way where
  taken : List Char
  parts : List (List Char)
  rest : List Char
deriving Repr, DecidableEq

/-- A match of an expression: the byte offset at which it starts, what it takes
and the parts of it that are asked for. -/
structure Occurrence where
  start : Nat
  taken : List Char
  parts : List (List Char)
deriving Repr, DecidableEq

namespace Way

/-- Nothing is taken of a text. -/
def nothing (text : List Char) : Way where
  taken := []
  parts := []
  rest := text

/-- A character is taken, and then what the way takes. -/
def behind (character : Char) (way : Way) : Way :=
  { way with taken := character :: way.taken }

/-- One way and then another one. -/
def join (first second : Way) : Way where
  taken := first.taken ++ second.taken
  parts := first.parts ++ second.parts
  rest := second.rest

/-- What is taken counts as a part. -/
def asPart (way : Way) : Way :=
  { way with parts := way.taken :: way.parts }

/-- All characters are taken up to the first one that does not pass. -/
def longest (test : Char → Bool) (text : List Char) : Way where
  taken := text.takeWhile test
  parts := []
  rest := text.dropWhile test

end Way

namespace SearchExpression

/-- The ways to take characters that pass a test, most of them first. -/
@[simp] def mostWays (test : Char → Bool) : List Char → List Way
  | [] => [.nothing []]
  | character :: rest =>
      (if test character then (mostWays test rest).map (.behind character)
        else []) ++ [.nothing (character :: rest)]

/-- The ways to take characters that pass a test, fewest of them first. -/
@[simp] def fewestWays (test : Char → Bool) : List Char → List Way
  | [] => [.nothing []]
  | character :: rest =>
      .nothing (character :: rest) ::
        if test character then (fewestWays test rest).map (.behind character)
        else []

/-- The ways to match an expression at the front of a text, in the order in
which they are tried. -/
@[simp] def ways : SearchExpression → List Char → List Way
  | one _, [] => []
  | one test, character :: rest =>
      if test character then [.behind character (.nothing rest)] else []
  | most test, text => mostWays test text
  | fewest test, text => fewestWays test text
  | optional body, text => ways body text ++ [.nothing text]
  | sequence first second, text =>
      (ways first text).flatMap fun way => (ways second way.rest).map way.join
  | part body, text => (ways body text).map .asPart

/-- The first way to match an expression with which what follows has an
answer, by that answer. -/
def answer {Answer : Type} (expression : SearchExpression) (text : List Char)
    (next : Way → Option Answer) : Option Answer :=
  (expression.ways text).findSome? next

/-- An expression matches at the front of a text in the way that is tried
first; the offset is the one of the text. -/
structure Matches (expression : SearchExpression) (offset : Nat)
    (text : List Char) (occurrence : Occurrence) (rest : List Char) : Prop where
  start : occurrence.start = offset
  first : expression.answer text some =
    some { taken := occurrence.taken, parts := occurrence.parts, rest }

theorem isDetermined_matches (expression : SearchExpression) :
    IsDetermined expression.Matches := by
  intro offset text occurrence rest other after left right
  obtain ⟨start, taken, parts⟩ := occurrence
  obtain ⟨otherStart, otherTaken, otherParts⟩ := other
  have starts := left.start.trans right.start.symm
  have ways := left.first.symm.trans right.first
  simp only [Option.some.injEq, Way.mk.injEq] at ways
  obtain ⟨rfl, rfl, rfl⟩ := ways
  exact ⟨by rw [show start = otherStart from starts], rfl⟩

theorem rest_suffix_of_mostWays {test : Char → Bool} {text : List Char}
    {way : Way} (member : way ∈ mostWays test text) : way.rest <:+ text := by
  induction text generalizing way with
  | nil =>
      obtain rfl : way = .nothing [] := by simpa using member
      exact List.suffix_refl []
  | cons character rest induction =>
      rw [mostWays] at member
      rcases List.mem_append.mp member with further | none
      · split at further
        · obtain ⟨other, inside, rfl⟩ := List.mem_map.mp further
          exact (induction inside).trans (List.suffix_cons character rest)
        · simp at further
      · obtain rfl := List.mem_singleton.mp none
        exact List.suffix_refl _

theorem rest_suffix_of_fewestWays {test : Char → Bool} {text : List Char}
    {way : Way} (member : way ∈ fewestWays test text) :
    way.rest <:+ text := by
  induction text generalizing way with
  | nil =>
      obtain rfl : way = .nothing [] := by simpa using member
      exact List.suffix_refl []
  | cons character rest induction =>
      rw [fewestWays] at member
      rcases List.mem_cons.mp member with rfl | further
      · exact List.suffix_refl _
      · split at further
        · obtain ⟨other, inside, rfl⟩ := List.mem_map.mp further
          exact (induction inside).trans (List.suffix_cons character rest)
        · simp at further

/-- Every way leaves an end of the text. -/
theorem rest_suffix {expression : SearchExpression} {text : List Char}
    {way : Way} (member : way ∈ expression.ways text) : way.rest <:+ text := by
  induction expression generalizing text way with
  | one test =>
      cases text with
      | nil => simp at member
      | cons character rest =>
          rw [ways] at member
          split at member
          · obtain rfl := List.mem_singleton.mp member
            exact List.suffix_cons character rest
          · simp at member
  | most test => exact rest_suffix_of_mostWays member
  | fewest test => exact rest_suffix_of_fewestWays member
  | optional body induction =>
      rcases List.mem_append.mp member with taken | none
      · exact induction taken
      · obtain rfl := List.mem_singleton.mp none
        exact List.suffix_refl _
  | sequence first second left right =>
      obtain ⟨front, leads, later⟩ := List.mem_flatMap.mp member
      obtain ⟨back, follows, rfl⟩ := List.mem_map.mp later
      exact (right follows).trans (left leads)
  | part body induction =>
      obtain ⟨inner, inside, rfl⟩ := List.mem_map.mp member
      have left : inner.rest <:+ text := induction inside
      exact left

section Answers

variable {Answer : Type} {next : Way → Option Answer} {text rest : List Char}
  {test : Char → Bool} {character : Char}

/-- There is no answer when what follows has none at any end of the text. -/
theorem answer_eq_none {expression : SearchExpression}
    (dead : ∀ way : Way, way.rest <:+ text → next way = none) :
    expression.answer text next = none := by
  rw [answer, List.findSome?_eq_none_iff]
  exact fun way member => dead way (rest_suffix member)

theorem answer_one_cons :
    (one test).answer (character :: rest) next =
      if test character then next (.behind character (.nothing rest))
      else none := by
  by_cases passes : test character = true
  · simp [answer, passes]
  · simp [answer, passes]

theorem answer_one_nil : (one test).answer [] next = none := rfl

theorem answer_part {body : SearchExpression} :
    (part body).answer text next = body.answer text (next ∘ Way.asPart) := by
  simp only [answer, ways, List.findSome?_map]

theorem answer_optional {body : SearchExpression} :
    (optional body).answer text next =
      (body.answer text next).or (next (.nothing text)) := by
  simp [answer]

theorem answer_sequence {first second : SearchExpression} :
    (sequence first second).answer text next =
      first.answer text fun way =>
        second.answer way.rest (next ∘ way.join) := by
  simp only [answer, ways]
  induction first.ways text with
  | nil => rfl
  | cons way others induction =>
      rw [List.flatMap_cons, List.findSome?_append, List.findSome?_map,
        induction, List.findSome?_cons]
      cases (second.ways way.rest).findSome? (next ∘ way.join) with
      | none => rfl
      | some result => rfl

theorem answer_most_nil : (most test).answer [] next = next (.nothing []) := by
  simp [answer]

theorem answer_most_cons :
    (most test).answer (character :: rest) next =
      (if test character then
        (most test).answer rest (next ∘ Way.behind character)
      else none).or (next (.nothing (character :: rest))) := by
  by_cases passes : test character = true
  · simp [answer, passes, List.findSome?_map]
  · simp [answer, passes]

theorem answer_fewest_nil :
    (fewest test).answer [] next = next (.nothing []) := by
  simp [answer]

theorem answer_fewest_cons :
    (fewest test).answer (character :: rest) next =
      (next (.nothing (character :: rest))).or
        (if test character then
          (fewest test).answer rest (next ∘ Way.behind character)
        else none) := by
  have tried : (fewest test).answer (character :: rest) next =
      (next (.nothing (character :: rest))).or
        (((if test character then
          (fewestWays test rest).map (Way.behind character)
        else []) : List Way).findSome? next) := by
    simp only [answer, ways, fewestWays, List.findSome?_cons]
    cases next (.nothing (character :: rest)) with
    | none => rfl
    | some result => rfl
  rw [tried]
  by_cases passes : test character = true
  · simp [passes, answer, List.findSome?_map]
  · simp [passes]

/-- Where no way goes on in front of a character that passes, as many of them
as there are is the only choice. -/
theorem answer_most_of_dead
    (dead : ∀ taken character rest, test character = true →
      next { taken, parts := [], rest := character :: rest } = none) :
    (most test).answer text next = next (.longest test text) := by
  induction text generalizing next with
  | nil => exact answer_most_nil
  | cons character rest induction =>
      rw [answer_most_cons]
      by_cases passes : test character = true
      · have stops : next (.nothing (character :: rest)) = none :=
          dead [] character rest passes
        rw [if_pos passes, stops, Option.or_none, induction]
        · simp [Way.longest, Way.behind, passes]
        · exact fun taken => dead (character :: taken)
      · simp [passes, Way.longest, Way.nothing]

/-- Where the way with as many characters as there are has an answer, it is
the first one. -/
theorem answer_most_of_longest {result : Answer}
    (answered : next (.longest test text) = some result) :
    (most test).answer text next = some result := by
  induction text generalizing next with
  | nil => exact answer_most_nil.trans answered
  | cons character rest induction =>
      rw [answer_most_cons]
      by_cases passes : test character = true
      · rw [if_pos passes, induction, Option.some_or]
        simpa [Way.longest, Way.behind, passes] using answered
      · simpa [passes, Way.longest, Way.nothing] using answered

end Answers

end SearchExpression

end Text

end SourceMark
