import SourceMark.Proofs.Template.Slices

/-!
# Tags read by byte offsets

Scanning the bytes of a tag and slicing out its parts gives the tag that is read
character by character, and no slice on the way breaks.
-/

namespace SourceMark

namespace Template

namespace Sliced

open Cursor (IsWindow)

/-! ## Slices, searches and loops -/

theorem slice_eq {source : List Char} {stop : Nat} {cursor later : Cursor}
    (window : IsWindow source stop cursor) {taken : List Char}
    (moved : Cursor.Reaches cursor taken later) :
    slice source cursor.offset later.offset = .ok taken := by
  rw [slice, window.slice?_eq moved]

theorem slice_rest {source : List Char} {stop : Nat} {cursor : Cursor}
    (window : IsWindow source stop cursor) :
    slice source cursor.offset stop = .ok cursor.rest := by
  rw [slice, window.slice?_rest]

/-- A search from any offset on finds the mark behind as many bytes. -/
theorem find?_eq (mark text : List Char) (offset : Nat) :
    find? mark text = (Cursor.find? mark offset text).map
      fun found => Text.byteLength found.1 := by
  have based (base : Nat) : (Cursor.find? mark base text).map
        (fun found => found.2.offset) =
      (Cursor.find? mark offset text).map
        fun found => base + Text.byteLength found.1 := by
    induction text generalizing base offset with
    | nil =>
        simp only [Cursor.find?]
        split
        · rfl
        · rfl
    | cons character rest induction =>
        simp only [Cursor.find?]
        split
        · rfl
        · have later := induction (offset + character.utf8Size)
            (base + character.utf8Size)
          cases here : Cursor.find? mark (base + character.utf8Size) rest with
          | none =>
              cases there : Cursor.find? mark (offset + character.utf8Size)
                  rest with
              | none => rfl
              | some found => simp [here, there] at later
          | some hit =>
              cases there : Cursor.find? mark (offset + character.utf8Size)
                  rest with
              | none => simp [here, there] at later
              | some found =>
                  simp only [here, there, Option.map_some,
                    Option.some.injEq] at later
                  simp only [Option.map_some, Option.some.injEq, later,
                    Text.byteLength]
                  omega
  simpa [find?] using based 0

theorem find?_behind (mark text : List Char) (offset : Nat) :
    (find? mark text).map (offset + · + Text.byteLength mark) =
      (Cursor.find? mark offset text).map
        fun found => (found.2.skip mark.length).offset := by
  rw [find?_eq mark text offset]
  cases found : Cursor.find? mark offset text with
  | none => rfl
  | some hit =>
      obtain ⟨before, close⟩ := hit
      have moved := (reaches_behind found).offset
      rw [Text.byteLength_append, ← Nat.add_assoc] at moved
      rw [Option.map_map, Option.map_some, Option.map_some, Option.some.injEq]
      exact moved.symm

section Loop

variable {State Result : Type} {limit offset later : Nat}
  {round : Nat → State → Except Halt (Round State Result)}
  {state following : State}

theorem loop_error {halt : Halt}
    (stops : round offset state = .error halt) :
    loop limit round offset state = .error halt := by
  rw [loop, stops]

theorem loop_done {result : Result}
    (ends : round offset state = .ok (.done result)) :
    loop limit round offset state = .ok result := by
  rw [loop, ends]

theorem loop_next (goes : round offset state = .ok (.next later following))
    (further : offset < later) (within : later ≤ limit) :
    loop limit round offset state = loop limit round later following := by
  rw [loop, goes]
  simp only [further, within, and_self, if_true]

/-- A round at a cursor ends with what is known of the loop, or it goes on at a
later cursor of which the same is known. -/
inductive Agrees (round : Nat → State → Except Halt (Round State Result))
    (answer : Cursor → State → Except Halt Result) (kept : State → Prop)
    (cursor : Cursor) (state : State) : Prop where
  | halts {halt : Halt}
      (stops : round cursor.offset state = .error halt)
      (known : answer cursor state = .error halt)
  | ends {result : Result}
      (done : round cursor.offset state = .ok (.done result))
      (known : answer cursor state = .ok result)
  | goes {behind : Cursor} {following : State} {taken : List Char}
      (next : round cursor.offset state = .ok (.next behind.offset following))
      (moved : Cursor.Reaches cursor taken behind) (more : taken ≠ [])
      (still : kept following)
      (known : answer cursor state = answer behind following)

/-- A round may first pass over what does not matter. -/
theorem Agrees.jump {round other : Nat → State → Except Halt (Round State Result)}
    {answer : Cursor → State → Except Halt Result} {kept : State → Prop}
    {cursor close : Cursor} {before : List Char} {state : State}
    (jumps : round cursor.offset state = other close.offset state)
    (moved : Cursor.Reaches cursor before close)
    (known : answer cursor state = answer close state)
    (agrees : Agrees other answer kept close state) :
    Agrees round answer kept cursor state := by
  cases agrees with
  | halts stops same => exact .halts (jumps.trans stops) (known.trans same)
  | ends done same => exact .ends (jumps.trans done) (known.trans same)
  | @goes behind following taken next passed more still same =>
      have some : before ++ taken ≠ [] := by simp [more]
      exact .goes (jumps.trans next) (moved.trans passed) some still
        (known.trans same)

/-- A loop whose rounds agree with an answer gives that answer. -/
theorem loop_eq {source : List Char}
    {answer : Cursor → State → Except Halt Result} {kept : State → Prop}
    (rounds : ∀ cursor state, IsWindow source limit cursor → kept state →
      Agrees round answer kept cursor state)
    {cursor : Cursor} (window : IsWindow source limit cursor)
    (start : kept state) :
    loop limit round cursor.offset state = answer cursor state := by
  induction length : cursor.rest.length using Nat.strongRecOn
    generalizing cursor state with
  | _ length induction =>
  subst length
  cases rounds cursor state window start with
  | halts stops known => rw [loop_error stops, known]
  | ends done known => rw [loop_done done, known]
  | @goes behind following taken next moved more still known =>
      -- Every round takes characters off the rest, which bounds the loop.
      have positive := List.length_pos_iff.mpr more
      have wide := Text.length_le_byteLength taken
      have place := moved.offset
      have fewer : behind.rest.length < cursor.rest.length := by
        rw [moved.rest, List.length_append]
        omega
      have later := window.reaches moved
      rw [loop_next next (by omega) later.le, known]
      exact induction behind.rest.length fewer later still rfl

end Loop

/-! ## ASCII tests -/

theorem isAsciiTest_of_false {test : Char → Bool}
    (beyond : ∀ character : Char, 128 ≤ character.toNat →
      test character = false) : Text.IsAsciiTest test := by
  intro first second high higher
  rw [beyond first high, beyond second higher]

theorem isAsciiTest_of_true {test : Char → Bool}
    (beyond : ∀ character : Char, 128 ≤ character.toNat →
      test character = true) : Text.IsAsciiTest test := by
  intro first second high higher
  rw [beyond first high, beyond second higher]

theorem ne_of_le {character : Char} (mark : Char)
    (beyond : 128 ≤ character.toNat) (ascii : mark.toNat < 128) :
    character ≠ mark := by
  rintro rfl
  omega

theorem isAsciiBlank_of_le {character : Char}
    (beyond : 128 ≤ character.toNat) :
    Text.isAsciiBlank character = false := by
  simp [Text.isAsciiBlank, ne_of_le ' ' beyond (by decide),
    ne_of_le '\t' beyond (by decide),
    ne_of_le '\n' beyond (by decide),
    ne_of_le '\x0c' beyond (by decide),
    ne_of_le '\r' beyond (by decide)]

theorem isAsciiTest_blank : Text.IsAsciiTest Text.isAsciiBlank :=
  isAsciiTest_of_false fun _ => isAsciiBlank_of_le

theorem isAsciiTest_eq {mark : Char} (ascii : mark.toNat < 128) :
    Text.IsAsciiTest (· = mark) :=
  isAsciiTest_of_false fun _ beyond => by simp [ne_of_le mark beyond ascii]

theorem isAsciiTest_ne {mark : Char} (ascii : mark.toNat < 128) :
    Text.IsAsciiTest (· != mark) :=
  isAsciiTest_of_true fun _ beyond => by simp [ne_of_le mark beyond ascii]

theorem isAsciiTest_mark : Text.IsAsciiTest fun character =>
    character = '/' || character = '=' := by
  apply isAsciiTest_of_false
  intro character beyond
  simp [ne_of_le '/' beyond (by decide),
    ne_of_le '=' beyond (by decide)]

/-- Whether an ASCII character comes next is seen from its byte. -/
theorem stands_mark {source : List Char} {stop : Nat} {cursor : Cursor}
    (window : IsWindow source stop cursor) (mark : Char)
    (ascii : mark.toNat < 128) :
    Text.stands (· = mark) ((Text.bytes source).take stop) cursor.offset =
      decide (cursor.rest.head? = some mark) := by
  rw [window.stands_eq (isAsciiTest_eq ascii)]
  cases cursor.rest with
  | nil => simp
  | cons character rest => simp

theorem isAsciiTest_tagName : Text.IsAsciiTest isTagNamePart := by
  apply isAsciiTest_of_true
  intro character beyond
  simp [isTagNamePart, isAsciiBlank_of_le beyond,
    ne_of_le '>' beyond (by decide),
    ne_of_le '/' beyond (by decide)]

theorem isAsciiTest_attributeName : Text.IsAsciiTest isAttributeNamePart := by
  apply isAsciiTest_of_true
  intro character beyond
  simp [isAttributeNamePart, isAsciiBlank_of_le beyond,
    ne_of_le '>' beyond (by decide),
    ne_of_le '/' beyond (by decide),
    ne_of_le '=' beyond (by decide)]

theorem isAsciiTest_value : Text.IsAsciiTest isValuePart := by
  apply isAsciiTest_of_true
  intro character beyond
  simp [isValuePart, isAsciiBlank_of_le beyond,
    ne_of_le '>' beyond (by decide)]

theorem isAsciiTest_letter : Text.IsAsciiTest Text.isAsciiLetter := by
  apply isAsciiTest_of_false
  intro character beyond
  have wide : 128 ≤ character.val.toNat := beyond
  have lower : ¬ character ≤ 'z' := by
    intro less
    have := UInt32.le_iff_toNat_le.mp less
    have : 'z'.val.toNat = 122 := rfl
    omega
  have upper : ¬ character ≤ 'Z' := by
    intro less
    have := UInt32.le_iff_toNat_le.mp less
    have : 'Z'.val.toNat = 90 := rfl
    omega
  simp [Text.isAsciiLetter, lower, upper]

/-! ## The parts of a tag -/

/-- What reading an attribute or a value of some characters comes to: either
the reader of the tag goes on behind it, or it is refused like the whole
tag. -/
inductive ReadsPart {Part : Type} (tag : String) (place : TagPlace)
    (cursor : Cursor) (least : Nat) (given : Part → TagAttribute) :
    Except Halt (Part × Nat) → Prop where
  | read {part : Part} {taken : List Char} {behind : Cursor} :
      Cursor.Reaches cursor taken behind → least ≤ taken.length →
      insideAt tag place cursor =
        withAttribute (given part) (insideAt tag (.between false) behind) →
      ReadsPart tag place cursor least given (.ok (part, behind.offset))
  | refused {fault : Fault} :
      insideAt tag place cursor = .error fault →
      ReadsPart tag place cursor least given (.error (.fault fault))

section Parts

variable {source : List Char} {stop : Nat} {tag : String}

theorem quotedValue_eq {quote : Char}
    (quoted : quote = '"' ∨ quote = '\x27') {later : List Char}
    {offset : Nat}
    (window : IsWindow source stop { rest := quote :: later, offset })
    (name : List Char) :
    ReadsPart tag (.beforeValue name) { rest := quote :: later, offset } 0
      (fun value => TagAttribute.ofText name.reverse (some value))
      (quotedValue source ((Text.bytes source).take stop) tag quote
        (offset + 1)) := by
  have ascii : quote.toNat < 128 ∧ quote.utf8Size = 1 := by
    rcases quoted with rfl | rfl
    · decide
    · decide
  have first : Cursor.Reaches { rest := quote :: later, offset } [quote]
      { rest := later, offset := offset + 1 } := by
    have moved := (Cursor.Reaches.refl
      { rest := later, offset := offset + quote.utf8Size }).cons
    rwa [ascii.2] at moved
  have inner := window.reaches first
  have value := Cursor.reaches_run (· != quote)
    { rest := later, offset := offset + 1 }
  have close := inner.scan_eq (isAsciiTest_ne ascii.1)
  have stops := head?_run (· != quote)
    { rest := later, offset := offset + 1 }
  have reads := insideAt_quoted tag quoted name later offset
  have length := inner.length_take_bytes
  simp only [ascii.2] at reads
  simp only [quotedValue, close]
  generalize Cursor.run (· != quote)
    { rest := later, offset := offset + 1 } = run at value stops reads ⊢
  obtain ⟨text, rest, place⟩ := run
  have outer := inner.reaches value
  cases rest with
  | nil =>
      have ends : ¬ place < ((Text.bytes source).take stop).length := by
        rw [length, Nat.not_lt, outer.le_iff]
      rw [if_neg ends]
      exact .refused reads
  | cons closing behind =>
      have same : closing = quote := by simpa using stops closing (by simp)
      have inside : place < ((Text.bytes source).take stop).length := by
        rw [length, ← Nat.not_le, outer.le_iff]
        simp
      have last : Cursor.Reaches { rest := closing :: behind, offset := place }
          [closing] { rest := behind, offset := place + 1 } := by
        have moved := (Cursor.Reaches.refl
          { rest := behind, offset := place + closing.utf8Size }).cons
        rwa [same, ascii.2, ← same] at moved
      simp only [same, ascii.2] at reads
      rw [if_pos inside, slice_eq inner value]
      apply ReadsPart.read ((first.trans value).trans last) (Nat.zero_le _)
      rw [reads, TagPlace.valued, List.reverse_reverse]

theorem valueAt_eq (tag : String) {cursor : Cursor}
    (window : IsWindow source stop cursor)
    (solid : ∀ character ∈ cursor.rest.head?,
      Text.isAsciiBlank character = false) (name : List Char) :
    ReadsPart tag (.beforeValue name) cursor 0
      (fun value => TagAttribute.ofText name.reverse (some value))
      (valueAt source ((Text.bytes source).take stop) tag cursor.offset) := by
  have double := stands_mark window '"' (by decide)
  have single := stands_mark window '\x27' (by decide)
  by_cases quoted : cursor.rest.head? = some '"'
  · obtain ⟨rest, offset⟩ := cursor
    obtain ⟨later, rfl⟩ := List.head?_eq_some_iff.mp quoted
    simp only [valueAt, double, quoted, decide_true, if_true]
    exact quotedValue_eq (.inl rfl) window name
  · by_cases singled : cursor.rest.head? = some '\x27'
    · obtain ⟨rest, offset⟩ := cursor
      obtain ⟨later, rfl⟩ := List.head?_eq_some_iff.mp singled
      simp only [valueAt, double, single, singled, decide_true, if_true]
      exact quotedValue_eq (.inr rfl) window name
    · have plain : ∀ character ∈ cursor.rest.head?,
          Text.isAsciiBlank character = false ∧ character ≠ '"' ∧
            character ≠ '\x27' := by
        intro character first
        refine ⟨solid character first, ?_, ?_⟩
        · rintro rfl
          exact quoted first
        · rintro rfl
          exact singled first
      have value := Cursor.reaches_run isValuePart cursor
      have close := window.scan_eq isAsciiTest_value
      have reads := insideAt_value tag name plain
      simp only [valueAt, double, single, quoted, singled, decide_false,
        Bool.false_eq_true, if_false, close, slice_eq window value]
      apply ReadsPart.read value (Nat.zero_le _)
      rw [reads, TagPlace.valued, List.reverse_reverse]

theorem attributeAt_eq {character : Char} {rest : List Char} {offset : Nat}
    (window : IsWindow source stop { rest := character :: rest, offset })
    (named : isAttributeNamePart character = true) :
    ReadsPart tag (.between false) { rest := character :: rest, offset } 1 id
      (attributeAt source ((Text.bytes source).take stop) tag offset) := by
  have name := Cursor.reaches_run isAttributeNamePart
    { rest := character :: rest, offset }
  have ends := head?_run isAttributeNamePart
    { rest := character :: rest, offset }
  have close := window.scan_eq isAsciiTest_attributeName
  have reads := insideAt_name named tag rest offset
  have long : 1 ≤ (Cursor.run isAttributeNamePart
      { rest := character :: rest, offset }).1.length := by
    rw [Cursor.run_fst, List.takeWhile_cons_of_pos named]
    simp
  simp only at close reads
  generalize Cursor.run isAttributeNamePart
    { rest := character :: rest, offset } = run at name ends close reads long
  obtain ⟨text, behind⟩ := run
  have outer := window.reaches name
  have blanks := Cursor.reaches_run Text.isAsciiBlank behind
  have solid := head?_run Text.isAsciiBlank behind
  have sign := outer.scan_eq isAsciiTest_blank
  simp only at close reads ends
  rw [insideAt_endOfName ends, insideAt_blanksBehind] at reads
  have signed := stands_mark (outer.reaches blanks) '=' (by decide)
  simp only [attributeAt, close, slice_eq window name, sign, signed]
  by_cases valued : (Cursor.run Text.isAsciiBlank behind).2.rest.head? =
      some '='
  · generalize Cursor.run Text.isAsciiBlank behind = run at *
    obtain ⟨taken, rest', place⟩ := run
    obtain ⟨later, rfl⟩ := List.head?_eq_some_iff.mp valued
    have width : '='.utf8Size = 1 := rfl
    have equals : Cursor.Reaches { rest := '=' :: later, offset := place } ['=']
        { rest := later, offset := place + 1 } := (Cursor.Reaches.refl _).cons
    have inner := (outer.reaches blanks).reaches equals
    have more := Cursor.reaches_run Text.isAsciiBlank
      { rest := later, offset := place + 1 }
    have start := inner.scan_eq isAsciiTest_blank
    have value := valueAt_eq tag (inner.reaches more)
      (head?_run Text.isAsciiBlank _) text.reverse
    rw [insideAt_sign, width, insideAt_blanksBefore] at reads
    simp only [valued, decide_true, if_true, start]
    generalize valueAt source ((Text.bytes source).take stop) tag
      (Cursor.run Text.isAsciiBlank
        { rest := later, offset := place + 1 }).2.offset = result at value ⊢
    cases value with
    | read moved _ goes =>
        apply ReadsPart.read
          ((((name.trans blanks).trans equals).trans more).trans moved)
        · simp only [List.length_append] at long ⊢
          omega
        · rw [reads, goes, List.reverse_reverse]
          rfl
    | refused fails =>
        apply ReadsPart.refused
        rw [reads, fails]
  · have bare := insideAt_bare tag text.reverse solid valued
    rw [bare, ← insideAt_blanks] at reads
    simp only [valued, decide_false, Bool.false_eq_true, if_false]
    apply ReadsPart.read name long
    rw [reads, TagPlace.bare, List.reverse_reverse]
    rfl

/-- What has been read of a tag, by offsets. -/
def ofRead (given : List TagAttribute) :
    Except Fault (List TagAttribute × Bool × Cursor) →
      Except Halt (List TagAttribute × Bool × Nat)
  | .ok (attributes, selfClosing, behind) =>
      .ok (given ++ attributes, selfClosing, behind.offset)
  | .error fault => .error (.fault fault)

theorem ofRead_withAttribute (given : List TagAttribute) (more : TagAttribute)
    (read : Except Fault (List TagAttribute × Bool × Cursor)) :
    ofRead given (withAttribute more read) = ofRead (given ++ [more]) read := by
  cases read with
  | error fault => rfl
  | ok read => simp [withAttribute, Except.map, ofRead]

end Parts

/-! ## The inside of a tag -/

section Rounds

variable {source : List Char} {stop offset : Nat} {tag : String}
  {given : List TagAttribute} {character : Char} {rest : List Char}

theorem insidePart_nil
    (window : IsWindow source stop { rest := [], offset }) :
    insidePart source ((Text.bytes source).take stop) tag offset given =
      .error (.fault (.openStartTag tag)) := by
  have extent := window.length_take_bytes
  have ends : ((Text.bytes source).take stop).length ≤ offset := by
    rw [extent, window.le_iff]
  simp only [insidePart, if_pos ends]
  rfl

theorem lt_length_of_window
    (window : IsWindow source stop { rest := character :: rest, offset }) :
    ¬ ((Text.bytes source).take stop).length ≤ offset := by
  rw [window.length_take_bytes, window.le_iff]
  simp

theorem insidePart_bracket
    (window : IsWindow source stop { rest := '>' :: rest, offset }) :
    insidePart source ((Text.bytes source).take stop) tag offset given =
      .ok (.done (given, false, offset + 1)) := by
  have bracket := stands_mark window '>' (by decide)
  simp only [List.head?_cons, decide_true] at bracket
  simp only [insidePart, if_neg (lt_length_of_window window), bracket,
    if_true]
  rfl

theorem insidePart_selfClosing
    (window : IsWindow source stop { rest := '/' :: '>' :: rest, offset }) :
    insidePart source ((Text.bytes source).take stop) tag offset given =
      .ok (.done (given, true, offset + 2)) := by
  have moved : Cursor.Reaches { rest := '/' :: '>' :: rest, offset } ['/']
      { rest := '>' :: rest, offset := offset + 1 } :=
    (Cursor.Reaches.refl _).cons
  have bracket := stands_mark window '>' (by decide)
  have slash := stands_mark window '/' (by decide)
  have next := stands_mark (window.reaches moved) '>' (by decide)
  have other : '/' ≠ '>' := by decide
  simp only [List.head?_cons, Option.some.injEq, other, decide_true,
    decide_false] at bracket slash next
  simp only [insidePart, if_neg (lt_length_of_window window), bracket,
    slash, next, Bool.and_self, Bool.false_eq_true, if_false, if_true]
  rfl

/-- A round at a slash or a sign that counts for nothing. -/
theorem insidePart_mark (mark : character = '/' ∨ character = '=')
    (lone : ¬ (character = '/' ∧ rest.head? = some '>'))
    (window : IsWindow source stop { rest := character :: rest, offset }) :
    insidePart source ((Text.bytes source).take stop) tag offset given =
      .ok (.next (offset + 1) given) := by
  have bracket := stands_mark window '>' (by decide)
  have slash := stands_mark window '/' (by decide)
  have marks := window.stands_eq isAsciiTest_mark
  simp only [List.head?_cons, Option.some.injEq, Option.any_some]
    at bracket slash marks
  rcases mark with rfl | rfl
  · have moved : Cursor.Reaches { rest := '/' :: rest, offset } ['/']
        { rest, offset := offset + 1 } := (Cursor.Reaches.refl _).cons
    have next := stands_mark (window.reaches moved) '>' (by decide)
    have further : rest.head? ≠ some '>' := fun same => lone ⟨rfl, same⟩
    have other : '/' ≠ '>' := by decide
    simp only [insidePart, if_neg (lt_length_of_window window), bracket,
      slash, marks, next, further, other, decide_true, decide_false,
      Bool.and_false, Bool.true_or, Bool.false_eq_true, if_false, if_true]
    rfl
  · have other : '=' ≠ '>' ∧ '=' ≠ '/' := by decide
    simp only [insidePart, if_neg (lt_length_of_window window), bracket,
      slash, marks, other.1, other.2, decide_true, decide_false,
      Bool.false_and, Bool.false_or, Bool.false_eq_true, if_false, if_true]
    rfl

theorem insidePart_name (named : isAttributeNamePart character = true)
    (window : IsWindow source stop { rest := character :: rest, offset }) :
    insidePart source ((Text.bytes source).take stop) tag offset given =
      (attributeAt source ((Text.bytes source).take stop) tag offset).map
        fun read => .next read.2 (given ++ [read.1]) := by
  have bracket := stands_mark window '>' (by decide)
  have slash := stands_mark window '/' (by decide)
  have marks := window.stands_eq isAsciiTest_mark
  simp only [List.head?_cons, Option.some.injEq, Option.any_some]
    at bracket slash marks
  simp only [isAttributeNamePart, Bool.not_eq_true', Bool.or_eq_false_iff,
    decide_eq_false_iff_not] at named
  obtain ⟨⟨⟨noBracket, noSlash⟩, noSign⟩, _⟩ := named
  simp only [insidePart, if_neg (lt_length_of_window window), bracket,
    slash, marks, noBracket, noSlash, noSign, decide_false, Bool.false_and,
    Bool.or_self, Bool.false_eq_true, if_false]
  cases attributeAt source ((Text.bytes source).take stop) tag offset with
  | error halt => rfl
  | ok read => rfl

/-- What stands inside a tag is read as the reader of the tag does. -/
theorem agrees_insidePart (given : List TagAttribute) {cursor : Cursor}
    (window : IsWindow source stop cursor)
    (solid : ∀ character ∈ cursor.rest.head?,
      Text.isAsciiBlank character = false) :
    Agrees (insidePart source ((Text.bytes source).take stop) tag)
      (fun cursor given => ofRead given (insideAt tag (.between false) cursor))
      (fun _ => True) cursor given := by
  obtain ⟨rest, offset⟩ := cursor
  cases rest with
  | nil => exact .halts (insidePart_nil window) rfl
  | cons character rest =>
      have one : Cursor.Reaches { rest := character :: rest, offset }
          [character] { rest, offset := offset + character.utf8Size } :=
        (Cursor.Reaches.refl _).cons
      by_cases closes : character = '>'
      · subst closes
        have moved : TagPlace.move (.between false) '>' =
            .close false none := rfl
        apply Agrees.ends (insidePart_bracket window)
        simp only [insideAt_close moved, ofRead, Option.toList_none,
          List.append_nil]
        rfl
      · by_cases slashed : character = '/'
        · -- A slash ends the tag in front of the bracket only.
          subst slashed
          have moved : TagPlace.move (.between false) '/' =
              .go (.between true) none := rfl
          by_cases final : rest.head? = some '>'
          · obtain ⟨later, rfl⟩ := List.head?_eq_some_iff.mp final
            have closing : TagPlace.move (.between true) '>' =
                .close true none := rfl
            apply Agrees.ends (insidePart_selfClosing window)
            simp only [insideAt_go moved, insideAt_close closing, ofRead,
              Option.toList_none, List.append_nil]
            rfl
          · have lone : ¬ ('/' = '/' ∧ rest.head? = some '>') :=
              fun both => final both.2
            apply Agrees.goes (insidePart_mark (.inl rfl) lone window) one
              (by simp) trivial
            rw [insideAt_go moved, insideAt_slash final]
        · by_cases sign : character = '='
          · subst sign
            have moved : TagPlace.move (.between false) '=' =
                .go (.between false) none := rfl
            have lone : ¬ ('=' = '/' ∧ rest.head? = some '>') :=
              fun both => slashed both.1
            apply Agrees.goes (insidePart_mark (.inr rfl) lone window) one
              (by simp) trivial
            rw [insideAt_go moved]
          · have blank := solid character (by simp)
            have named : isAttributeNamePart character = true := by
              simp [isAttributeNamePart, closes, slashed, sign, blank]
            have round := @insidePart_name source stop offset tag given
              character rest named window
            have part := @attributeAt_eq source stop tag character rest offset
              window named
            generalize attributeAt source ((Text.bytes source).take stop) tag
              offset = result at round part
            cases part with
            | refused fails =>
                apply Agrees.halts round
                rw [fails]
                rfl
            | @read more taken behind moved least goes =>
                have some : taken ≠ [] := List.length_pos_iff.mp least
                apply Agrees.goes round moved some trivial
                rw [goes, ofRead_withAttribute]
                rfl

/-- A round inside a tag passes over blanks first. -/
theorem agrees_insideRound (cursor : Cursor) (given : List TagAttribute)
    (window : IsWindow source stop cursor) :
    Agrees (insideRound source ((Text.bytes source).take stop) tag)
      (fun cursor given => ofRead given (insideAt tag (.between false) cursor))
      (fun _ => True) cursor given := by
  have blanks := Cursor.reaches_run Text.isAsciiBlank cursor
  have solid := head?_run Text.isAsciiBlank cursor
  refine (agrees_insidePart given (window.reaches blanks) solid).jump ?_ blanks
    ?_
  · rw [insideRound, window.scan_eq isAsciiTest_blank]
  · rw [insideAt_blanks]

theorem loop_insideRound (tag : String) {cursor : Cursor}
    (window : IsWindow source stop cursor) (given : List TagAttribute) :
    loop stop (insideRound source ((Text.bytes source).take stop) tag)
        cursor.offset given =
      ofRead given (insideAt tag (.between false) cursor) :=
  loop_eq (fun cursor given window _ => agrees_insideRound cursor given window)
    window trivial

end Rounds

/-- What has been read as an opening tag, by offsets. -/
def ofTag : Except Fault (Option (OpenTag × Cursor)) →
    Except Halt (Option (OpenTag × Nat))
  | .ok none => .ok none
  | .ok (some (tag, behind)) => .ok (some (tag, behind.offset))
  | .error fault => .error (.fault fault)

/-- An opening tag is read alike by offsets. -/
theorem openTag_eq {source rest : List Char} {stop offset : Nat}
    (window : IsWindow source stop { rest := '<' :: rest, offset }) :
    openTag source stop offset =
      ofTag (readOpenTag { rest := '<' :: rest, offset }) := by
  have bounds : ¬ Text.byteLength source < stop :=
    Nat.not_lt.mpr window.le_byteLength
  have one : Cursor.Reaches { rest := '<' :: rest, offset } ['<']
      { rest, offset := offset + 1 } := (Cursor.Reaches.refl _).cons
  have inner := window.reaches one
  have letters := inner.stands_eq isAsciiTest_letter
  cases rest with
  | nil =>
      simp only [List.head?_nil, Option.any_none] at letters
      simp only [openTag, if_neg bounds, letters, Bool.false_eq_true, if_false,
        readOpenTag]
      rfl
  | cons letter rest =>
      simp only [List.head?_cons, Option.any_some] at letters
      by_cases isLetter : Text.isAsciiLetter letter = true
      · have name := Cursor.reaches_run isTagNamePart
          { rest := letter :: rest, offset := offset + 1 }
        have close := inner.scan_eq isAsciiTest_tagName
        have inside := loop_insideRound (String.ofList (Cursor.run
          isTagNamePart { rest := letter :: rest, offset := offset + 1 }).1)
          (inner.reaches name) []
        simp only at close
        simp only [openTag, if_neg bounds, letters, isLetter, if_true, close,
          slice_eq inner name, readOpenTag, bind, Except.bind, inside]
        simp only [insideAt, Cursor.run]
        generalize readInside _ _ _ _ = read
        cases read with
        | error fault => rfl
        | ok read => rfl
      · simp only [openTag, if_neg bounds, letters, isLetter, readOpenTag]
        rfl

end Sliced

end Template

end SourceMark
