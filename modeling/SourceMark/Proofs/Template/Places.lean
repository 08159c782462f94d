import SourceMark.Proofs.Template.Tags

/-!
# Places inside a tag

A part of a tag leads the reader from one place to another.  An attribute that
is put in at a place is read as one unless the reader stands in a value there,
and in a value it changes that value.
-/

namespace SourceMark

namespace Template

/-- The characters that close a tag. -/
def closing (slash : Bool) : List Char :=
  if slash then ['/', '>'] else ['>']

namespace TagPlace

/-- The attributes that are complete behind a part of a tag, and the place that
the part leads to. -/
def run (place : TagPlace) : List Char → List TagAttribute × TagPlace
  | [] => ([], place)
  | character :: rest =>
      match place.move character with
      | .close _ complete => (complete.toList, place)
      | .go next complete =>
          (complete.toList ++ (next.run rest).1, (next.run rest).2)

/-- Whether an attribute can be put in at a place: not where a value is to
come, not inside quotes, and not between a value and a slash that belongs to
it. -/
def isFree (slash : Bool) : TagPlace → Bool
  | between _ => true
  | inName _ => true
  | afterName _ => true
  | beforeValue _ => false
  | inQuotes _ _ _ => false
  | inValue _ _ => !slash

/-- The attribute that a blank and a further name would complete. -/
def pending : TagPlace → Option TagAttribute
  | between _ => none
  | inName name => some (bare name)
  | afterName name => some (bare name)
  | beforeValue name => some (valued name [])
  | inQuotes name _ value => some (valued name value)
  | inValue name value => some (valued name value)

/-- What a place remembers comes from the text that led to it. -/
def IsReadFrom (text : List Char) : TagPlace → Prop
  | between _ => True
  | inName name => name.reverse <:+ text
  | afterName name => name.reverse <:+: text
  | beforeValue name => name.reverse <:+: text
  | inQuotes name quote _ =>
      name.reverse <:+: text ∧ (quote = '"' ∨ quote = '\x27')
  | inValue name _ => name.reverse <:+: text

end TagPlace

/-- A part of a tag without a bracket is read in front of what follows it. -/
theorem readInside_append {part : List Char} (inner : '>' ∉ part)
    (tag : String) (place : TagPlace) (offset : Nat) (rest : List Char) :
    readInside tag place offset (part ++ rest) =
      (readInside tag (place.run part).2 (offset + Text.byteLength part)
        rest).map fun read => ((place.run part).1 ++ read.1, read.2) := by
  induction part generalizing place offset with
  | nil =>
      cases read : readInside tag place offset rest with
      | error fault => simp [TagPlace.run, Text.byteLength, read, Except.map]
      | ok result => simp [TagPlace.run, Text.byteLength, read, Except.map]
  | cons character part induction =>
      simp only [List.mem_cons, not_or] at inner
      cases moved : place.move character with
      | close selfClosing complete =>
          exact absurd (TagPlace.eq_of_move_close moved).symm inner.1
      | go next complete =>
          rw [List.cons_append, readInside]
          simp only [moved, TagPlace.run, induction inner.2, Text.byteLength,
            Nat.add_assoc]
          cases readInside tag (next.run part).2
              (offset + (character.utf8Size + Text.byteLength part)) rest with
          | error fault => rfl
          | ok result => simp [Except.map]

namespace TagPlace

/-! ## What places remember -/

section Memory

variable {text : List Char} {place next : TagPlace} {character : Char}

theorem infix_append {part text : List Char} (inside : part <:+: text)
    (more : List Char) : part <:+: text ++ more :=
  inside.trans (List.prefix_append text more).isInfix

/-- One move keeps what is remembered, and completes only attributes whose
names stand in the text. -/
theorem isReadFrom_move {complete : Option TagAttribute}
    (moved : place.move character = .go next complete)
    (known : place.IsReadFrom text) :
    next.IsReadFrom (text ++ [character]) ∧
      ∀ given ∈ complete, given.name.toList <:+: text ++ [character] := by
  have single : [character] <:+ text ++ [character] :=
    List.suffix_append text [character]
  cases place with
  | between slash =>
      simp only [move] at moved
      split at moved
      · simp at moved
      · split at moved
        · obtain ⟨rfl, rfl⟩ := by simpa using moved
          simp [IsReadFrom]
        · split at moved
          · obtain ⟨rfl, rfl⟩ := by simpa using moved
            simp [IsReadFrom]
          · obtain ⟨rfl, rfl⟩ := by simpa using moved
            simp [IsReadFrom]
  | inName name =>
      have named : name.reverse <:+: text ++ [character] :=
        infix_append known.isInfix _
      have longer : (character :: name).reverse <:+ text ++ [character] := by
        obtain ⟨front, rfl⟩ := known
        exact ⟨front, by simp⟩
      simp only [move] at moved
      split at moved
      · simp at moved
      · split at moved
        · obtain ⟨rfl, rfl⟩ := by simpa using moved
          simpa [IsReadFrom, bare, TagAttribute.ofText] using named
        · split at moved
          · obtain ⟨rfl, rfl⟩ := by simpa using moved
            simpa [IsReadFrom] using named
          · split at moved
            · obtain ⟨rfl, rfl⟩ := by simpa using moved
              simpa [IsReadFrom] using named
            · obtain ⟨rfl, rfl⟩ := by simpa using moved
              simpa [IsReadFrom] using longer
  | afterName name =>
      have named : name.reverse <:+: text ++ [character] :=
        infix_append known _
      simp only [move] at moved
      split at moved
      · simp at moved
      · split at moved
        · obtain ⟨rfl, rfl⟩ := by simpa using moved
          simpa [IsReadFrom, bare, TagAttribute.ofText] using named
        · split at moved
          · obtain ⟨rfl, rfl⟩ := by simpa using moved
            simpa [IsReadFrom] using named
          · split at moved
            · obtain ⟨rfl, rfl⟩ := by simpa using moved
              simpa [IsReadFrom] using named
            · obtain ⟨rfl, rfl⟩ := by simpa using moved
              simpa [IsReadFrom, bare, TagAttribute.ofText] using
                And.intro single named
  | beforeValue name =>
      have named : name.reverse <:+: text ++ [character] :=
        infix_append known _
      simp only [move] at moved
      split at moved
      · simp at moved
      · split at moved
        · obtain ⟨rfl, rfl⟩ := by simpa using moved
          simpa [IsReadFrom] using named
        · split at moved
          · next quoted =>
              obtain ⟨rfl, rfl⟩ := by simpa using moved
              simpa [IsReadFrom] using And.intro named (by simpa using quoted)
          · obtain ⟨rfl, rfl⟩ := by simpa using moved
            simpa [IsReadFrom] using named
  | inQuotes name quote value =>
      have named : name.reverse <:+: text ++ [character] :=
        infix_append known.1 _
      simp only [move] at moved
      split at moved
      · obtain ⟨rfl, rfl⟩ := by simpa using moved
        simpa [IsReadFrom, valued, TagAttribute.ofText] using named
      · obtain ⟨rfl, rfl⟩ := by simpa using moved
        simpa [IsReadFrom] using And.intro named known.2
  | inValue name value =>
      have named : name.reverse <:+: text ++ [character] :=
        infix_append known _
      simp only [move] at moved
      split at moved
      · simp at moved
      · split at moved
        · obtain ⟨rfl, rfl⟩ := by simpa using moved
          simpa [IsReadFrom, valued, TagAttribute.ofText] using named
        · obtain ⟨rfl, rfl⟩ := by simpa using moved
          simpa [IsReadFrom] using named

/-- A part without a bracket keeps what is remembered, and completes only
attributes whose names stand in the text. -/
theorem isReadFrom_run {part : List Char} (inner : '>' ∉ part)
    (known : place.IsReadFrom text) :
    (place.run part).2.IsReadFrom (text ++ part) ∧
      ∀ given ∈ (place.run part).1,
        given.name.toList <:+: text ++ part := by
  induction part generalizing place text with
  | nil => simpa [run] using known
  | cons character part induction =>
      simp only [List.mem_cons, not_or] at inner
      cases moved : place.move character with
      | close selfClosing complete =>
          exact absurd (eq_of_move_close moved).symm inner.1
      | go next complete =>
          obtain ⟨here, completed⟩ := isReadFrom_move moved known
          obtain ⟨later, others⟩ := induction inner.2 here
          have whole : text ++ character :: part =
              text ++ [character] ++ part := by simp
          simp only [run, moved]
          rw [whole]
          refine ⟨later, ?_⟩
          intro given member
          rcases List.mem_append.mp member with first | further
          · exact infix_append (completed given (by simpa using first)) part
          · exact others given further

end Memory

/-! ## Free places -/

section Free

variable {place : TagPlace} {slash : Bool}

/-- At a free place a blank and a further attribute complete what is pending. -/
theorem readInside_of_isFree (free : place.isFree slash = true)
    {first : Char} (plain : isAttributeNamePart first = true) (tag : String)
    (offset : Nat) (rest : List Char) :
    readInside tag place offset (' ' :: first :: rest) =
      (readInside tag (.between false) offset (' ' :: first :: rest)).map
        fun read => (place.pending.toList ++ read.1, read.2) := by
  have start : move (.between false) ' ' = .go (.between false) none := by
    simp [move, Text.isAsciiBlank]
  have begins := move_between plain false
  rw [readInside_go start, readInside_go begins]
  cases place with
  | between slash =>
      have blank : move (.between slash) ' ' = .go (.between false) none := by
        simp [move, Text.isAsciiBlank]
      rw [readInside_go blank, readInside_go begins]
      cases readInside tag (.inName [first])
          (offset + ' '.utf8Size + first.utf8Size) rest with
      | error fault => rfl
      | ok read => rfl
  | inName name =>
      have blank : move (.inName name) ' ' = .go (.afterName name) none := by
        simp [move, Text.isAsciiBlank]
      have further : move (.afterName name) first =
          .go (.inName [first]) (some (bare name)) := by
        simp_all [isAttributeNamePart, move]
      rw [readInside_go blank, readInside_complete further]
      rfl
  | afterName name =>
      have blank : move (.afterName name) ' ' = .go (.afterName name) none := by
        simp [move, Text.isAsciiBlank]
      have further : move (.afterName name) first =
          .go (.inName [first]) (some (bare name)) := by
        simp_all [isAttributeNamePart, move]
      rw [readInside_go blank, readInside_complete further]
      rfl
  | beforeValue name => simp [isFree] at free
  | inQuotes name quote value => simp [isFree] at free
  | inValue name value =>
      have blank : move (.inValue name value) ' ' =
          .go (.between false) (some (valued name value)) := by
        simp [move, Text.isAsciiBlank]
      rw [readInside_complete blank, readInside_go begins]
      rfl

/-- An addition that begins with a blank and a name is read at a free place as
it is read between two attributes. -/
theorem readInside_addition (free : place.isFree slash = true)
    {addition : Addition} {first : Char} {rest : List Char}
    (begins : addition.text = ' ' :: first :: rest)
    (plain : isAttributeNamePart first = true) (tag : String) (offset : Nat)
    (later : List Char) :
    readInside tag place offset (addition.text ++ later) =
      (readInside tag (.between false)
        (offset + Text.byteLength addition.text) later).map fun read =>
          (place.pending.toList ++ (addition.attributes ++ read.1),
            read.2) := by
  have blank := readInside_of_isFree free plain tag offset (rest ++ later)
  have whole : ' ' :: first :: (rest ++ later) = addition.text ++ later := by
    rw [begins]
    rfl
  rw [whole, addition.passes] at blank
  rw [blank]
  cases readInside tag (.between false)
      (offset + Text.byteLength addition.text) later with
  | error fault => rfl
  | ok read => rfl

/-- At a free place a tag is closed by its bracket. -/
theorem readInside_closing (free : place.isFree slash = true) (tag : String)
    (offset : Nat) (rest : List Char) :
    ∃ selfClosing, readInside tag place offset (closing slash ++ rest) =
      .ok (place.pending.toList, selfClosing, {
        rest
        offset := offset + Text.byteLength (closing slash) }) := by
  have solidus : '/'.utf8Size = 1 := rfl
  have bracket : '>'.utf8Size = 1 := rfl
  cases slash with
  | false =>
      cases place with
      | between slash =>
          exact ⟨slash, by simp [closing, readInside, move, pending,
            Text.byteLength]⟩
      | inName name =>
          exact ⟨false, by simp [closing, readInside, move, pending,
            Text.byteLength]⟩
      | afterName name =>
          exact ⟨false, by simp [closing, readInside, move, pending,
            Text.byteLength]⟩
      | beforeValue name => simp [isFree] at free
      | inQuotes name quote value => simp [isFree] at free
      | inValue name value =>
          exact ⟨false, by simp [closing, readInside, move, pending,
            Text.byteLength]⟩
  | true =>
      refine ⟨true, ?_⟩
      cases place with
      | between slash =>
          simp [closing, readInside, move, pending, Text.byteLength, solidus,
            bracket]
      | inName name =>
          simp [closing, readInside, move, pending, Text.byteLength, solidus,
            bracket]
      | afterName name =>
          simp [closing, readInside, move, pending, Text.byteLength, solidus,
            bracket]
      | beforeValue name => simp [isFree] at free
      | inQuotes name quote value => simp [isFree] at free
      | inValue name value => simp [isFree] at free

end Free

/-! ## Places in a value -/

section Values

variable {tag : String} {place : TagPlace} {offset : Nat}
  {text : List Char} {attributes : List TagAttribute} {selfClosing : Bool}
  {behind : Cursor}

theorem first_of_readInside {next : TagPlace} {character : Char}
    {given : TagAttribute}
    (moved : place.move character = .go next (some given))
    (success : readInside tag place offset (character :: text) =
      .ok (attributes, selfClosing, behind)) :
    ∃ others, attributes = given :: others := by
  rw [readInside_complete moved] at success
  cases read : readInside tag next (offset + character.utf8Size) text with
  | error fault => simp [read, Except.map] at success
  | ok later =>
      obtain ⟨rfl, _⟩ := by simpa [read, Except.map] using success
      exact ⟨later.1, rfl⟩

/-- A value that has been begun is read on. -/
theorem value_of_readInside {name value : List Char}
    (begun : place = .inValue name value ∨
      ∃ quote, place = .inQuotes name quote value)
    (success : readInside tag place offset text =
      .ok (attributes, selfClosing, behind)) :
    ∃ more others, attributes =
      TagAttribute.ofText name.reverse (some (value.reverse ++ more)) ::
        others := by
  induction text generalizing place offset value attributes selfClosing
      behind with
  | nil => simp [readInside] at success
  | cons character rest induction =>
      rcases begun with rfl | ⟨quote, rfl⟩
      · by_cases bracket : character = '>'
        · subst bracket
          obtain ⟨rfl, rfl, rfl⟩ := by
            simpa [readInside, move] using success
          exact ⟨[], [], by simp [valued]⟩
        · by_cases blank : Text.isAsciiBlank character = true
          · have moved : move (.inValue name value) character =
                .go (.between false) (some (valued name value)) := by
              simp [move, bracket, blank]
            obtain ⟨others, rfl⟩ := first_of_readInside moved success
            exact ⟨[], others, by simp [valued]⟩
          · have moved : move (.inValue name value) character =
                .go (.inValue name (character :: value)) none := by
              simp [move, bracket, blank]
            rw [readInside_go moved] at success
            obtain ⟨more, others, same⟩ := induction (Or.inl rfl) success
            exact ⟨character :: more, others, by simp [same]⟩
      · by_cases ends : character = quote
        · have moved : move (.inQuotes name quote value) character =
              .go (.between false) (some (valued name value)) := by
            simp [move, ends]
          obtain ⟨others, rfl⟩ := first_of_readInside moved success
          exact ⟨[], others, by simp [valued]⟩
        · have moved : move (.inQuotes name quote value) character =
              .go (.inQuotes name quote (character :: value)) none := by
            simp [move, ends]
          rw [readInside_go moved] at success
          obtain ⟨more, others, same⟩ := induction (Or.inr ⟨quote, rfl⟩) success
          exact ⟨character :: more, others, by simp [same]⟩

/-- Two readings whose first attributes have one name, which stands in the
text, but two values. -/
def DifferInValue (text : List Char) (first second : List TagAttribute) :
    Prop :=
  ∃ name value other rest others, name <:+: text ∧ value ≠ other ∧
    first = TagAttribute.ofText name (some value) :: rest ∧
    second = TagAttribute.ofText name (some other) :: others

section Differing

variable {known closed marked name : List Char} {slash : Bool}
  {changed : List TagAttribute} {start : Nat} {closesItself : Bool}
  {beyond : Cursor}

/-- An attribute in front of a value becomes the value. -/
theorem differ_beforeValue (named : name.reverse <:+: known)
    (plain : readInside tag (.beforeValue name) offset
      (closing slash ++ closed) = .ok (attributes, selfClosing, behind))
    (again : readInside tag (.beforeValue name) start
      (' ' :: 'd' :: marked) = .ok (changed, closesItself, beyond)) :
    DifferInValue known attributes changed := by
  have blank : move (.beforeValue name) ' ' =
      .go (.beforeValue name) none := by
    simp [move, Text.isAsciiBlank]
  have begins : move (.beforeValue name) 'd' =
      .go (.inValue name ['d']) none := by
    simp [move, Text.isAsciiBlank]
  rw [readInside_go blank, readInside_go begins] at again
  obtain ⟨more, others, rfl⟩ := value_of_readInside (Or.inl rfl) again
  cases slash with
  | false =>
      obtain ⟨rfl, rfl, rfl⟩ := by
        simpa [readInside, closing, move] using plain
      exact ⟨name.reverse, [], _, [], others, named, by simp, rfl, rfl⟩
  | true =>
      have slashed : move (.beforeValue name) '/' =
          .go (.inValue name ['/']) none := by
        simp [move, Text.isAsciiBlank]
      simp only [closing, if_true, List.cons_append] at plain
      rw [readInside_go slashed] at plain
      obtain ⟨tail, rest, rfl⟩ := value_of_readInside (Or.inl rfl) plain
      exact ⟨name.reverse, _, _, rest, others, named, by simp, rfl, rfl⟩

/-- An attribute inside quotes becomes a part of the value. -/
theorem differ_inQuotes {value : List Char} {quote : Char}
    (named : name.reverse <:+: known) (quoted : quote = '"' ∨ quote = '\x27')
    (plain : readInside tag (.inQuotes name quote value) offset
      (closing slash ++ closed) = .ok (attributes, selfClosing, behind))
    (again : readInside tag (.inQuotes name quote value) start
      (' ' :: 'd' :: marked) = .ok (changed, closesItself, beyond)) :
    DifferInValue known attributes changed := by
  have unblank : ' ' ≠ quote := by
    rcases quoted with rfl | rfl
    · decide
    · decide
  have blank : move (.inQuotes name quote value) ' ' =
      .go (.inQuotes name quote (' ' :: value)) none := by
    simp [move, unblank]
  rw [readInside_go blank] at again
  obtain ⟨more, others, rfl⟩ := value_of_readInside (Or.inr ⟨quote, rfl⟩) again
  obtain ⟨first, rest, whole, visible, unquoted⟩ :
      ∃ first rest, closing slash = first :: rest ∧ first ≠ ' ' ∧
        first ≠ quote := by
    cases slash with
    | false =>
        refine ⟨'>', [], rfl, by decide, ?_⟩
        rcases quoted with rfl | rfl
        · decide
        · decide
    | true =>
        refine ⟨'/', ['>'], rfl, by decide, ?_⟩
        rcases quoted with rfl | rfl
        · decide
        · decide
  have goes : move (.inQuotes name quote value) first =
      .go (.inQuotes name quote (first :: value)) none := by
    simp [move, unquoted]
  rw [whole, List.cons_append, readInside_go goes] at plain
  obtain ⟨tail, later, rfl⟩ := value_of_readInside (Or.inr ⟨quote, rfl⟩) plain
  exact ⟨name.reverse, _, _, later, others, named, by simp [visible], rfl, rfl⟩

/-- An attribute in front of a slash that belongs to a value cuts it off. -/
theorem differ_inValue {value : List Char} (named : name.reverse <:+: known)
    (plain : readInside tag (.inValue name value) offset
      (closing true ++ closed) = .ok (attributes, selfClosing, behind))
    (again : readInside tag (.inValue name value) start
      (' ' :: 'd' :: marked) = .ok (changed, closesItself, beyond)) :
    DifferInValue known attributes changed := by
  have blank : move (.inValue name value) ' ' =
      .go (.between false) (some (valued name value)) := by
    simp [move, Text.isAsciiBlank]
  have slashed : move (.inValue name value) '/' =
      .go (.inValue name ('/' :: value)) none := by
    simp [move, Text.isAsciiBlank]
  obtain ⟨others, rfl⟩ := first_of_readInside blank again
  simp only [closing, if_true, List.cons_append] at plain
  rw [readInside_go slashed] at plain
  obtain ⟨tail, rest, rfl⟩ := value_of_readInside (Or.inl rfl) plain
  exact ⟨name.reverse, _, value.reverse, rest, others, named, by simp, rfl, rfl⟩

/-- At a place that is not free, the value that is read when the tag is closed
is another one than with a blank and a further attribute in front. -/
theorem differInValue_of_not_isFree (held : place.isFree slash = false)
    (remembers : place.IsReadFrom known)
    (plain : readInside tag place offset (closing slash ++ closed) =
      .ok (attributes, selfClosing, behind))
    (again : readInside tag place start (' ' :: 'd' :: marked) =
      .ok (changed, closesItself, beyond)) :
    DifferInValue known attributes changed := by
  cases place with
  | between slash => simp [isFree] at held
  | inName name => simp [isFree] at held
  | afterName name => simp [isFree] at held
  | beforeValue name => exact differ_beforeValue remembers plain again
  | inQuotes name quote value =>
      exact differ_inQuotes remembers.1 remembers.2 plain again
  | inValue name value =>
      obtain rfl : slash = true := by simpa [isFree] using held
      exact differ_inValue remembers plain again

end Differing

end Values

end TagPlace

end Template

end SourceMark
