import SourceMark.Template.Tag
import SourceMark.Proofs.Text.Cursors
import SourceMark.Proofs.Marker

/-!
# Tags read in other surroundings

An opening tag is read the same way whatever follows it, and attributes that
are put in behind its name are read in front of the ones that it has.  What can
be put in there is an `Addition`: a text that takes the reader of the inside of
a tag back to the place at which it found it.
-/

namespace SourceMark

namespace Template

/-! ## The inside of a tag -/

theorem TagPlace.eq_of_move_close {place : TagPlace} {character : Char}
    {selfClosing : Bool} {complete : Option TagAttribute}
    (moved : place.move character = .close selfClosing complete) :
    character = '>' := by
  cases place with
  | between slash => grind [move]
  | inName name => grind [move]
  | afterName name => grind [move]
  | beforeValue name => grind [move]
  | inQuotes name quote value => grind [move]
  | inValue name value => grind [move]

/-- The attribute that a move completes. -/
def TagPlace.Move.complete? : TagPlace.Move → Option TagAttribute
  | go _ complete => complete
  | close _ complete => complete

/-- A move completes only attributes that stand in the text. -/
theorem TagPlace.isAdded_of_move {place : TagPlace} {character : Char}
    {given : TagAttribute}
    (completed : (place.move character).complete? = some given) :
    given.isAdded = false := by
  have ofText (name : List Char) (value : Option (List Char)) :
      (TagAttribute.ofText name value).isAdded = false := rfl
  cases place with
  | between slash => grind [move, Move.complete?]
  | inName name => grind [move, Move.complete?, bare]
  | afterName name => grind [move, Move.complete?, bare]
  | beforeValue name => grind [move, Move.complete?, valued]
  | inQuotes name quote value => grind [move, Move.complete?, valued]
  | inValue name value => grind [move, Move.complete?, valued]

theorem isAdded_of_readInside {tag : String} {place : TagPlace} {offset : Nat}
    {text : List Char} {attributes : List TagAttribute} {selfClosing : Bool}
    {behind : Cursor}
    (success : readInside tag place offset text =
      .ok (attributes, selfClosing, behind)) :
    ∀ given ∈ attributes, given.isAdded = false := by
  induction text generalizing place offset attributes selfClosing behind with
  | nil => simp [readInside] at success
  | cons character rest induction =>
      simp only [readInside] at success
      split at success
      · next closesItself complete moved =>
          obtain ⟨rfl, rfl, rfl⟩ := by simpa using success
          intro given member
          rw [Option.mem_toList.mp member] at moved
          exact TagPlace.isAdded_of_move (by rw [moved]; rfl)
      · next next complete moved =>
          split at success
          · next attributes selfClosing behind equality =>
              obtain ⟨rfl, rfl, rfl⟩ := by simpa using success
              intro given member
              rcases List.mem_append.mp member with here | later
              · rw [Option.mem_toList.mp here] at moved
                exact TagPlace.isAdded_of_move (by rw [moved]; rfl)
              · exact induction equality given later
          · simp at success

/-- The inside of a tag ends with its bracket, and nothing behind the bracket
is looked at. -/
theorem readInside_local {tag : String} {place : TagPlace} {offset : Nat}
    {text : List Char} {attributes : List TagAttribute} {selfClosing : Bool}
    {behind : Cursor}
    (success : readInside tag place offset text =
      .ok (attributes, selfClosing, behind)) :
    ∃ inside, inside.getLast? = some '>' ∧
      Cursor.Reaches { rest := text, offset } inside behind ∧
      ∀ later start, readInside tag place start (inside ++ later) =
        .ok (attributes, selfClosing, {
          rest := later
          offset := start + Text.byteLength inside }) := by
  induction text generalizing place offset attributes selfClosing behind with
  | nil => simp [readInside] at success
  | cons character rest induction =>
      simp only [readInside] at success
      split at success
      · next closesItself complete moved =>
          obtain ⟨rfl, rfl, rfl⟩ := by simpa using success
          refine ⟨[character], ?_, (Cursor.Reaches.refl _).cons, ?_⟩
          · rw [TagPlace.eq_of_move_close moved]
            rfl
          · intro later start
            simp [readInside, moved, Text.byteLength]
      · next next complete moved =>
          split at success
          · next attributes selfClosing behind equality =>
              obtain ⟨rfl, rfl, rfl⟩ := by simpa using success
              obtain ⟨inside, bracket, reaches, same⟩ := induction equality
              refine ⟨character :: inside, by simp [List.getLast?_cons, bracket],
                reaches.cons, ?_⟩
              intro later start
              simp [readInside, moved, same, Text.byteLength, Nat.add_assoc]
          · simp at success

theorem readInside_go {place next : TagPlace} {character : Char}
    (moved : place.move character = .go next none) (tag : String)
    (offset : Nat) (rest : List Char) :
    readInside tag place offset (character :: rest) =
      readInside tag next (offset + character.utf8Size) rest := by
  rw [readInside]
  simp only [moved]
  cases readInside tag next (offset + character.utf8Size) rest with
  | error fault => rfl
  | ok read => rfl

theorem readInside_complete {place next : TagPlace} {character : Char}
    {given : TagAttribute}
    (moved : place.move character = .go next (some given)) (tag : String)
    (offset : Nat) (rest : List Char) :
    readInside tag place offset (character :: rest) =
      (readInside tag next (offset + character.utf8Size) rest).map
        fun read => (given :: read.1, read.2) := by
  rw [readInside]
  simp only [moved]
  cases readInside tag next (offset + character.utf8Size) rest with
  | error fault => rfl
  | ok read => rfl

/-- A character that can stand inside the name of an attribute. -/
def isAttributeNamePart (character : Char) : Bool :=
  !(character = '>' || character = '/' || character = '=' ||
    Text.isAsciiBlank character)

theorem TagPlace.move_between {character : Char}
    (plain : isAttributeNamePart character = true) (slash : Bool) :
    move (.between slash) character = .go (.inName [character]) none := by
  simp_all [isAttributeNamePart, move]

theorem TagPlace.move_inName {character : Char}
    (plain : isAttributeNamePart character = true) (name : List Char) :
    move (.inName name) character = .go (.inName (character :: name)) none := by
  simp_all [isAttributeNamePart, move]

theorem readInside_inName {name : List Char}
    (plain : ∀ character ∈ name, isAttributeNamePart character = true)
    (tag : String) (before : List Char) (offset : Nat) (rest : List Char) :
    readInside tag (.inName before) offset (name ++ '=' :: rest) =
      readInside tag (.beforeValue (name.reverse ++ before))
        (offset + Text.byteLength name + '='.utf8Size) rest := by
  induction name generalizing before offset with
  | nil =>
      have moved : TagPlace.move (.inName before) '=' =
          .go (.beforeValue before) none := by simp [TagPlace.move]
      rw [List.nil_append, readInside_go moved]
      rfl
  | cons character name induction =>
      have here := plain character (by simp)
      have moved := TagPlace.move_inName here before
      have later := induction (fun other member => plain other (by simp [member]))
        (character :: before) (offset + character.utf8Size)
      rw [List.cons_append, readInside_go moved, later, List.reverse_cons,
        List.append_assoc, Text.byteLength, ← Nat.add_assoc]
      rfl

/-- A value in double quotes is read up to the next double quote. -/
theorem readInside_inQuotes {value : List Char} (quoteless : '"' ∉ value)
    (tag : String) (name before : List Char) (offset : Nat)
    (rest : List Char) :
    readInside tag (.inQuotes name '"' before) offset (value ++ '"' :: rest) =
      (readInside tag (.between false)
        (offset + Text.byteLength value + '"'.utf8Size) rest).map
        fun read =>
          (TagPlace.valued name (value.reverse ++ before) :: read.1, read.2) := by
  induction value generalizing before offset with
  | nil =>
      have moved : TagPlace.move (.inQuotes name '"' before) '"' =
          .go (.between false) (some (TagPlace.valued name before)) := by
        simp [TagPlace.move]
      rw [List.nil_append, readInside_complete moved]
      rfl
  | cons character value induction =>
      simp only [List.mem_cons, not_or] at quoteless
      have moved : TagPlace.move (.inQuotes name '"' before) character =
          .go (.inQuotes name '"' (character :: before)) none := by
        simp [TagPlace.move, Ne.symm quoteless.1]
      have later := induction quoteless.2 (character :: before)
        (offset + character.utf8Size)
      rw [List.cons_append, readInside_go moved, later, List.reverse_cons,
        List.append_assoc, Text.byteLength, ← Nat.add_assoc]
      rfl

/-- A whole attribute in double quotes, with a blank in front of it. -/
theorem readInside_quoted {name value : List Char} (named : name ≠ [])
    (plain : ∀ character ∈ name, isAttributeNamePart character = true)
    (quoteless : '"' ∉ value) (tag : String) (offset : Nat)
    (rest : List Char) :
    readInside tag (.between false) offset
        ((' ' :: (name ++ '=' :: '"' :: (value ++ ['"']))) ++ rest) =
      (readInside tag (.between false) (offset + Text.byteLength
        (' ' :: (name ++ '=' :: '"' :: (value ++ ['"'])))) rest).map
        fun read => (TagAttribute.ofText name (some value) :: read.1, read.2) := by
  cases name with
  | nil => exact absurd rfl named
  | cons first name =>
      have blank : TagPlace.move (.between false) ' ' =
          .go (.between false) none := by
        simp [TagPlace.move, Text.isAsciiBlank]
      have begins := TagPlace.move_between (plain first (by simp)) false
      have others : ∀ character ∈ name,
          isAttributeNamePart character = true :=
        fun other member => plain other (by simp [member])
      have goes := readInside_inName others tag [first]
      have quote : TagPlace.move (.beforeValue (name.reverse ++ [first])) '"' =
          .go (.inQuotes (name.reverse ++ [first]) '"' []) none := by
        simp [TagPlace.move, Text.isAsciiBlank]
      have ends := readInside_inQuotes quoteless tag (name.reverse ++ [first]) []
      simp only [List.cons_append, List.append_assoc, List.nil_append]
      rw [readInside_go blank, readInside_go begins, goes, readInside_go quote,
        ends]
      simp [TagPlace.valued, Text.byteLength, Nat.add_assoc, Nat.add_comm,
        Nat.add_left_comm]

/-- The name of the mark is the name of an attribute. -/
theorem isAttributeNamePart_of_combined :
    ∀ character ∈ Marker.combined.toList,
      isAttributeNamePart character = true := by
  have plain : Marker.combined.toList.all isAttributeNamePart = true := by
    decide +kernel
  exact List.all_eq_true.mp plain

/-- A text that can be put in behind the name of a tag, with the attributes
that are read from it. -/
structure Addition where
  text : List Char
  attributes : List TagAttribute
  /-- The name of the tag ends in front of it. -/
  stops : ∀ character ∈ text.head?, isTagNamePart character = false
  /-- Reading it adds the attributes and comes back to the same place. -/
  passes : ∀ tag offset rest,
    readInside tag (.between false) offset (text ++ rest) =
      (readInside tag (.between false) (offset + Text.byteLength text)
        rest).map fun read => (attributes ++ read.1, read.2)

namespace Addition

/-- Nothing is put in. -/
def none : Addition where
  text := []
  attributes := []
  stops := by simp
  passes := by
    intro tag offset rest
    cases read : readInside tag (.between false) offset rest with
    | error fault => simp [read, Text.byteLength, Except.map]
    | ok result => simp [read, Text.byteLength, Except.map]

@[simp] theorem text_none : none.text = [] := rfl

@[simp] theorem attributes_none : none.attributes = [] := rfl

/-- The attribute that carries a location. -/
def mark (location : Location) : Addition where
  text := (Marker.attributeText Marker.combined location).toList
  attributes := [TagAttribute.ofText Marker.combined.toList
    (some (Marker.escape location.encode.toList))]
  stops := by
    rw [Marker.attributeText_toList]
    simp [isTagNamePart, Text.isAsciiBlank]
  passes := by
    intro tag offset rest
    rw [Marker.attributeText_toList]
    exact readInside_quoted (by decide) isAttributeNamePart_of_combined
      (Marker.quote_notMem_escape _) tag offset rest

/-- The first character that is not put in with the tag ends its name. -/
theorem stops_append (addition : Addition) {rest : List Char}
    (stops : ∀ character ∈ rest.head?, isTagNamePart character = false) :
    ∀ character ∈ (addition.text ++ rest).head?,
      isTagNamePart character = false := by
  cases text : addition.text with
  | nil => exact stops
  | cons first others =>
      have ends := addition.stops
      rw [text] at ends
      exact ends

end Addition

/-- A tag with the attributes of an addition in front of its own. -/
def OpenTag.adding (addition : Addition) (tag : OpenTag) : OpenTag :=
  { tag with attributes := addition.attributes ++ tag.attributes }

/-! ## Whole tags -/

/-- The characters that end the name of a tag. -/
def nameEnds : List Char :=
  [' ', '\t', '\n', '\x0c', '\r', '>', '/']

/-- What passes a test that fails at the end of a name stands in names. -/
theorem isTagNamePart_of_test {test : Char → Bool}
    (fails : nameEnds.any test = false)
    {character : Char} (passes : test character = true) :
    isTagNamePart character = true := by
  cases part : isTagNamePart character with
  | true => rfl
  | false =>
      have ends : character ∈ nameEnds := by
        simp only [isTagNamePart, Text.isAsciiBlank, Bool.not_eq_false',
          Bool.or_eq_true, decide_eq_true_eq, or_assoc] at part
        simpa [nameEnds] using part
      rw [List.any_eq_false] at fails
      exact absurd passes (fails character ends)

theorem isTagNamePart_of_isAsciiLetter {character : Char}
    (letter : Text.isAsciiLetter character = true) :
    isTagNamePart character = true :=
  isTagNamePart_of_test (by decide) letter

/-- An opening tag is its name and its inside.  With an addition between the
two, and whatever follows, it is the same tag with more attributes. -/
theorem readOpenTag_local {rest : List Char} {offset : Nat} {tag : OpenTag}
    {behind : Cursor}
    (success : readOpenTag { rest := '<' :: rest, offset } =
      .ok (some (tag, behind))) :
    ∃ inside, inside.getLast? = some '>' ∧
      (∃ letter ∈ tag.name.toList.head?, Text.isAsciiLetter letter = true) ∧
      (∀ character ∈ tag.name.toList, isTagNamePart character = true) ∧
      (∀ given ∈ tag.attributes, given.isAdded = false) ∧
      Cursor.Reaches { rest := '<' :: rest, offset }
        ('<' :: (tag.name.toList ++ inside)) behind ∧
      ∀ (addition : Addition) later start,
        readOpenTag {
          rest := '<' :: (tag.name.toList ++
            (addition.text ++ (inside ++ later)))
          offset := start } =
        .ok (some (tag.adding addition, {
          rest := later
          offset := start + Text.byteLength
            ('<' :: (tag.name.toList ++ (addition.text ++ inside))) })) := by
  cases rest with
  | nil => simp [readOpenTag] at success
  | cons letter rest =>
      simp only [readOpenTag] at success
      split at success
      · next isLetter =>
          have part := isTagNamePart_of_isAsciiLetter isLetter
          have named := Cursor.reaches_takeWhile isTagNamePart (offset + 1)
            (letter :: rest)
          have run : ∀ character ∈ (Cursor.takeWhile isTagNamePart
              (offset + 1) (letter :: rest)).1,
              isTagNamePart character = true :=
            fun _ member => Cursor.test_of_mem_takeWhile member
          have ends : ∀ character ∈ (Cursor.takeWhile isTagNamePart
              (offset + 1) (letter :: rest)).2.rest.head?,
              isTagNamePart character = false :=
            Cursor.head?_takeWhile
          have starts : (Cursor.takeWhile isTagNamePart (offset + 1)
              (letter :: rest)).1.head? = some letter := by
            simp [Cursor.takeWhile, part]
          generalize Cursor.takeWhile isTagNamePart (offset + 1)
            (letter :: rest) = taken at success named run ends starts
          obtain ⟨name, opened⟩ := taken
          split at success
          · next attributes selfClosing close read =>
              simp only [Except.ok.injEq, Option.some.injEq,
                Prod.mk.injEq] at success
              obtain ⟨rfl, rfl⟩ := success
              obtain ⟨inside, bracket, reaches, same⟩ :=
                readInside_local read
              refine ⟨inside, bracket, ⟨letter, ?_, isLetter⟩, ?_,
                isAdded_of_readInside read, ?_, ?_⟩
              · simpa using starts
              · simpa using run
              · have begins : Cursor.Reaches
                    { rest := '<' :: letter :: rest, offset }
                    ('<' :: name) opened := named.cons
                simpa using begins.trans reaches
              · intro addition later start
                obtain ⟨others, rfl⟩ : ∃ others, name = letter :: others := by
                  cases name with
                  | nil => simp at starts
                  | cons first others =>
                      obtain rfl : first = letter := by simpa using starts
                      exact ⟨others, rfl⟩
                have stops : ∀ character ∈ (inside ++ later).head?,
                    isTagNamePart character = false := by
                  cases inside with
                  | nil => simp at bracket
                  | cons first more =>
                      rw [reaches.rest] at ends
                      exact ends
                have again := Cursor.takeWhile_append run
                  (addition.stops_append stops) (start + 1)
                simp only [List.cons_append] at again
                simp only [readOpenTag, String.toList_ofList, isLetter, if_true,
                  List.cons_append, again, addition.passes, same]
                have wide : '<'.utf8Size = 1 := rfl
                simp [Except.map, OpenTag.adding, Text.byteLength,
                  Nat.add_assoc, wide]
          · simp at success
      · simp at success

/-! ## Marks in tags -/

/-- An opening tag that is a name and an addition. -/
theorem readOpenTag_addition (addition : Addition) {letter : Char}
    {letters : List Char} (starts : Text.isAsciiLetter letter = true)
    (named : ∀ character ∈ letters, isTagNamePart character = true)
    (later : List Char) (offset : Nat) :
    readOpenTag {
      rest := '<' :: letter :: letters ++ (addition.text ++ '>' :: later)
      offset } =
    .ok (some ({
      name := String.ofList (letter :: letters)
      attributes := addition.attributes
      selfClosing := false }, {
      rest := later
      offset := offset + Text.byteLength
        ('<' :: letter :: letters ++ (addition.text ++ ['>'])) })) := by
  have run : ∀ character ∈ letter :: letters,
      isTagNamePart character = true :=
    List.forall_mem_cons.mpr ⟨isTagNamePart_of_isAsciiLetter starts, named⟩
  have stops : ∀ character ∈ ('>' :: later).head?,
      isTagNamePart character = false := by
    simp [isTagNamePart]
  have name := Cursor.takeWhile_append run (addition.stops_append stops)
    (offset + 1)
  have closes : TagPlace.move (.between false) '>' = .close false none := rfl
  have wide : '<'.utf8Size = 1 := rfl
  simp only [List.cons_append] at name ⊢
  simp only [readOpenTag, starts, if_true, name, addition.passes, readInside,
    closes]
  simp [Except.map, Text.byteLength, Nat.add_assoc, wide]

/-- An opening tag with the attribute that carries a location, and no other. -/
def markedTag (name : String) (location : Location) : String :=
  "<" ++ name ++ Marker.attributeText Marker.combined location ++ ">"

theorem readOpenTag_markedTag (location : Location) {name : String}
    (named : name ≠ "")
    (letters : ∀ letter ∈ name.toList, Text.isAsciiLetter letter = true)
    (later : List Char) (offset : Nat) :
    readOpenTag {
      rest := (markedTag name location).toList ++ later
      offset } =
    .ok (some ({
      name
      attributes := [TagAttribute.ofText Marker.combined.toList
        (some (Marker.escape location.encode.toList))]
      selfClosing := false }, {
      rest := later
      offset := offset +
        Text.byteLength (markedTag name location).toList })) := by
  have text (rest : List Char) :
      (markedTag name location).toList ++ rest =
        '<' :: name.toList ++
          ((Addition.mark location).text ++ '>' :: rest) := by
    simp [markedTag, Addition.mark]
  have alone := text []
  rw [List.append_nil] at alone
  obtain ⟨letter, others, whole⟩ := List.exists_cons_of_ne_nil
    (String.toList_eq_nil_iff.not.mpr named)
  rw [whole, List.forall_mem_cons] at letters
  have read := readOpenTag_addition (.mark location) letters.1
    (fun other member => isTagNamePart_of_isAsciiLetter
      (letters.2 other member)) later offset
  rw [← whole, String.ofList_toList] at read
  rw [text, alone, read]
  rfl

/-- A value has one escaped form, escaping goes part by part, and so a location
is read back from any tag that is marked with it. -/
theorem readsBack_of_markedTag :
    (∀ value escaped, Marker.IsEscaped value escaped ↔
      escaped = Marker.escape value) ∧
    (∀ first second, Marker.escape (first ++ second) =
      Marker.escape first ++ Marker.escape second) ∧
    ∀ (location : Location) (name : String), name ≠ "" →
      (∀ letter ∈ name.toList, Text.isAsciiLetter letter = true) →
      ∀ (later : List Char) (offset : Nat), ∃ value : String,
        readOpenTag {
          rest := (markedTag name location).toList ++ later
          offset } =
        .ok (some ({
          name
          attributes := [{
            name := Marker.combined, value := some value, isAdded := false }]
          selfClosing := false }, {
          rest := later
          offset := offset +
            Text.byteLength (markedTag name location).toList })) ∧
        Marker.unescape value.toList = location.encode.toList := by
  refine ⟨fun _ _ => Marker.isEscaped_iff, Marker.escape_append, ?_⟩
  intro location name named letters later offset
  refine ⟨String.ofList (Marker.escape location.encode.toList), ?_, ?_⟩
  · rw [readOpenTag_markedTag location named letters, TagAttribute.ofText,
      String.ofList_toList, Option.map_some]
  · rw [String.toList_ofList, Marker.unescape_of_escape]

/-- The name of the file closes the tag, opens another one, holds an escape and
breaks the line. -/
theorem readsBack_of_markedTag_awkward :
    let location : Location :=
      { file := "a\"><b>&quot;\n.vue", line := 1, column := 0 }
    let later := "x=\"y\"></Card>".toList
    "Card" ≠ "" ∧
      (∀ letter ∈ "Card".toList, Text.isAsciiLetter letter = true) ∧
      ∃ value : String,
        readOpenTag {
          rest := (markedTag "Card" location).toList ++ later
          offset := 7 } =
        .ok (some ({
          name := "Card"
          attributes := [{
            name := Marker.combined, value := some value, isAdded := false }]
          selfClosing := false }, {
          rest := later
          offset := 7 +
            Text.byteLength (markedTag "Card" location).toList })) ∧
        Marker.unescape value.toList = location.encode.toList := by
  intro location later
  have named : "Card" ≠ "" := by decide
  have letters : ∀ letter ∈ "Card".toList,
      Text.isAsciiLetter letter = true := List.all_eq_true.mp (by decide)
  exact ⟨named, letters, readsBack_of_markedTag.2.2 location "Card" named
    letters later 7⟩

/-! ## End tags -/

theorem reaches_findEndTagBehind? {name text body : List Char}
    {passed offset : Nat} {close : Cursor}
    (found : findEndTagBehind? name passed offset text = some (body, close)) :
    Cursor.Reaches { rest := text, offset } body close := by
  induction text generalizing passed offset body close with
  | nil => simp [findEndTagBehind?] at found
  | cons character rest induction =>
      simp only [findEndTagBehind?] at found
      split at found
      · obtain ⟨rfl, rfl⟩ := by simpa using found
        exact Cursor.Reaches.refl _
      · split at found
        · next inner later equality =>
            obtain ⟨rfl, rfl⟩ := by simpa using found
            exact (induction equality).cons
        · simp at found

theorem reaches_findEndTag? {name text body : List Char} {offset : Nat}
    {close : Cursor}
    (found : findEndTag? name offset text = some (body, close)) :
    Cursor.Reaches { rest := text, offset } body close :=
  reaches_findEndTagBehind? found

theorem eq_cons_of_startsEndTag {name text : List Char}
    (ends : startsEndTag name text = true) :
    ∃ later, text = '<' :: '/' :: later := by
  rw [startsEndTag.eq_def] at ends
  split at ends
  · next later => exact ⟨later, rfl⟩
  · simp at ends

theorem startsEndTag_of_findEndTagBehind? {name text body : List Char}
    {passed offset : Nat} {close : Cursor}
    (found : findEndTagBehind? name passed offset text = some (body, close)) :
    startsEndTag name close.rest = true := by
  induction text generalizing passed offset body close with
  | nil => simp [findEndTagBehind?] at found
  | cons character rest induction =>
      simp only [findEndTagBehind?] at found
      split at found
      · next here =>
          obtain ⟨rfl, rfl⟩ := by simpa using found
          simp only [Bool.and_eq_true] at here
          exact here.2
      · split at found
        · next inner later equality =>
            obtain ⟨rfl, rfl⟩ := by simpa using found
            exact induction equality
        · simp at found

/-- Two texts look alike from every place in front of them: an end tag of that
name, or its mark, starts there in front of both or of neither. -/
def LookAlike (name first second : List Char) : Prop :=
  ∀ front, startsEndTag name (front ++ first) =
      startsEndTag name (front ++ second) ∧
    startsEndMark name (front ++ first) = startsEndMark name (front ++ second)

/-- The first end tag stays the first one when the text behind it is changed in
a way that no place in front of it can see. -/
theorem findEndTagBehind?_congr {name text body other : List Char}
    {passed offset : Nat} {close : Cursor}
    (found : findEndTagBehind? name passed offset text = some (body, close))
    (same : LookAlike name other close.rest) (start : Nat) :
    findEndTagBehind? name passed start (body ++ other) = some (body, {
      rest := other
      offset := start + Text.byteLength body }) := by
  induction text generalizing passed offset body close start with
  | nil => simp [findEndTagBehind?] at found
  | cons character rest induction =>
      simp only [findEndTagBehind?] at found
      split at found
      · next here =>
          obtain ⟨rfl, rfl⟩ := by simpa using found
          have there := (same []).1
          simp only [List.nil_append] at there
          rw [← there] at here
          cases other with
          | nil => simp [startsEndTag] at here
          | cons first others =>
              simp only [List.nil_append, findEndTagBehind?, here, if_true,
                Text.byteLength, Nat.add_zero]
      · next missed =>
          split at found
          · next inner later equality =>
              obtain ⟨rfl, rfl⟩ := by simpa using found
              have behind := (reaches_findEndTagBehind? equality).rest
              simp only at behind
              have alike := same (character :: inner)
              rw [List.cons_append, List.cons_append, ← behind] at alike
              have further := induction equality same
                (start + character.utf8Size)
              have passes : passedBehind name passed
                    (character :: (inner ++ other)) =
                  passedBehind name passed (character :: rest) := by
                simp only [passedBehind, alike.2]
              rw [List.cons_append, findEndTagBehind?, alike.1, if_neg missed]
              simp only [passes, further, Text.byteLength, Nat.add_assoc]
          · simp at found

/-- Whether a text starts with an end tag is decided by its mark, the name and
one more character. -/
theorem startsEndTag_append {name known : List Char}
    (enough : name.length + 2 < known.length) (rest : List Char) :
    startsEndTag name (known ++ rest) = startsEndTag name known := by
  match known with
  | [] => simp at enough
  | [_] => simp at enough
  | first :: second :: known =>
      simp only [List.length_cons] at enough
      by_cases opens : first = '<' ∧ second = '/'
      · obtain ⟨rfl, rfl⟩ := opens
        have more : name.length < known.length := by omega
        have head : (known ++ rest).take name.length =
            known.take name.length :=
          List.take_append_of_le_length (by omega)
        have tail : (known ++ rest).drop name.length =
            known.drop name.length ++ rest :=
          List.drop_append_of_le_length (by omega)
        cases behind : known.drop name.length with
        | nil =>
            have := List.drop_eq_nil_iff.mp behind
            omega
        | cons character others =>
            simp only [List.cons_append, startsEndTag, head, tail, behind]
      · have never (text : List Char) :
            startsEndTag name (first :: second :: text) = false := by
          rw [startsEndTag.eq_def]
          split
          · next equality =>
              simp only [List.cons.injEq] at equality
              exact absurd ⟨equality.1, equality.2.1⟩ opens
          · rfl
        rw [List.cons_append, List.cons_append, never, never]

theorem startsEndMark_append {name known : List Char}
    (enough : name.length + 2 ≤ known.length) (rest : List Char) :
    startsEndMark name (known ++ rest) = startsEndMark name known := by
  match known with
  | [] => simp at enough
  | [_] => simp at enough
  | first :: second :: known =>
      simp only [List.length_cons] at enough
      have head : (known ++ rest).take name.length = known.take name.length :=
        List.take_append_of_le_length (by omega)
      by_cases opens : first = '<' ∧ second = '/'
      · obtain ⟨rfl, rfl⟩ := opens
        simp only [List.cons_append, startsEndMark, head]
      · have never (text : List Char) :
            startsEndMark name (first :: second :: text) = false := by
          rw [startsEndMark.eq_def]
          split
          · next equality =>
              simp only [List.cons.injEq] at equality
              exact absurd ⟨equality.1, equality.2.1⟩ opens
          · rfl
        rw [List.cons_append, List.cons_append, never, never]

/-- Lowering makes no other characters than letters. -/
theorem eq_of_toLower_eq {character mark : Char}
    (other : Text.isAsciiLetter mark = false)
    (lowered : character.toLower = mark) : character = mark := by
  unfold Char.toLower at lowered
  split at lowered
  · next upper =>
      have least := UInt32.le_iff_toNat_le.mp upper.1
      have most := UInt32.le_iff_toNat_le.mp upper.2
      have value := congrArg (fun c => c.val.toNat) lowered
      simp only [UInt32.toNat_add] at value
      have small : 'A'.val.toNat = 65 := rfl
      have large : 'Z'.val.toNat = 90 := rfl
      have gap : ('a'.val - 'A'.val).toNat = 32 := rfl
      have letter : Text.isAsciiLetter mark = true := by
        simp only [Text.isAsciiLetter, Bool.or_eq_true, Bool.and_eq_true,
          decide_eq_true_eq]
        left
        constructor
        · apply UInt32.le_iff_toNat_le.mpr
          have first : 'a'.val.toNat = 97 := rfl
          omega
        · apply UInt32.le_iff_toNat_le.mpr
          have final : 'z'.val.toNat = 122 := rfl
          omega
      rw [letter] at other
      contradiction
  · exact lowered

theorem toLower_eq_of_other {mark : Char}
    (other : Text.isAsciiLetter mark = false) : mark.toLower = mark := by
  unfold Char.toLower
  split
  · next upper =>
      have letter : Text.isAsciiLetter mark = true := by
        simp only [Text.isAsciiLetter, Bool.or_eq_true, Bool.and_eq_true,
          decide_eq_true_eq]
        exact .inr upper
      rw [letter] at other
      contradiction
  · rfl

/-- Lowering a text leaves its other characters than letters. -/
theorem mem_lowerAscii_iff {mark : Char} {text : List Char}
    (other : Text.isAsciiLetter mark = false) :
    mark ∈ Text.lowerAscii text ↔ mark ∈ text := by
  constructor
  · intro member
    obtain ⟨character, inside, lowered⟩ := List.mem_map.mp member
    rwa [eq_of_toLower_eq other lowered] at inside
  · intro member
    exact List.mem_map.mpr ⟨mark, member, toLower_eq_of_other other⟩

/-- A text that equals a name up to case has no character that is neither a
letter nor in the name. -/
theorem notMem_of_sameIgnoringCase {mark : Char} {text name : List Char}
    (other : Text.isAsciiLetter mark = false)
    (same : Text.sameIgnoringCase text name = true) (absent : mark ∉ name) :
    mark ∉ text := by
  have equality : Text.lowerAscii text = Text.lowerAscii name := by
    simpa [Text.sameIgnoringCase] using same
  rwa [← mem_lowerAscii_iff other, equality, mem_lowerAscii_iff other]

/-- The bracket behind an end tag, or the end of the text, is found again in
front of any text that starts alike. -/
theorem behindBracket_local (cursor : Cursor) :
    ∃ ending, Cursor.Reaches cursor ending (behindBracket cursor) ∧
      ('>' ∈ ending ∨ (behindBracket cursor).rest = []) ∧
      ∀ later start, later.head? = (behindBracket cursor).rest.head? →
        behindBracket { rest := ending ++ later, offset := start } = {
          rest := later
          offset := start + Text.byteLength ending } := by
  cases bracket : Cursor.find? ['>'] cursor.offset cursor.rest with
  | none =>
      have missed := Cursor.find?_eq_none bracket
      refine ⟨cursor.rest, ?_, ?_, ?_⟩
      · simpa [behindBracket, bracket] using Cursor.Reaches.toEnd cursor
      · simp [behindBracket, bracket]
      · intro later start same
        obtain rfl : later = [] := by
          simpa [behindBracket, bracket] using same
        simp [behindBracket, missed]
  | some hit =>
      obtain ⟨before, mark⟩ := hit
      have passed := Cursor.reaches_find? bracket
      obtain ⟨after, here⟩ := Cursor.rest_of_find? bracket
      have skipped := Cursor.reaches_skip 1 mark
      refine ⟨before ++ ['>'], ?_, .inl (by simp), ?_⟩
      · simpa [behindBracket, bracket, here] using passed.trans skipped
      · intro later start _
        have again := Cursor.find?_append (by simp) bracket here later start
        rw [List.append_assoc]
        simp only [behindBracket, again]
        simp [Cursor.skip, Text.byteLength, Nat.add_assoc]

/-- An end tag that reaches a bracket has its whole name in front of it. -/
theorem length_lt_of_startsEndTag {name ending rest : List Char}
    (bracketless : '>' ∉ name) (bracket : '>' ∈ ending)
    (starts : startsEndTag name (ending ++ rest) = true) :
    name.length + 2 < ending.length := by
  rw [startsEndTag.eq_def] at starts
  split at starts
  · next text equality =>
      simp only [Bool.and_eq_true] at starts
      have free := notMem_of_sameIgnoringCase (by decide) starts.1 bracketless
      apply Nat.lt_of_not_le
      intro short
      have leads : ending <+: '<' :: '/' :: text.take name.length := by
        have whole : ending <+: '<' :: '/' :: text :=
          ⟨rest, equality⟩
        have within := List.prefix_take_iff.mpr ⟨whole, short⟩
        simpa using within
      have member := leads.subset bracket
      simp at member
      exact free member
  · simp at starts

/-- The end tag behind a body of text, up to its bracket or to the end of the
text, is found again in front of any text that starts alike. -/
theorem findEndTag?_local {name text body : List Char} {offset : Nat}
    {close : Cursor} (bracketless : '>' ∉ name)
    (found : findEndTag? name offset text = some (body, close)) :
    ∃ ending, Cursor.Reaches { rest := text, offset } (body ++ ending)
        (behindBracket close) ∧
      ∀ later start, later.head? = (behindBracket close).rest.head? →
        findEndTag? name start (body ++ (ending ++ later)) = some (body, {
          rest := ending ++ later
          offset := start + Text.byteLength body }) ∧
        behindBracket {
          rest := ending ++ later
          offset := start + Text.byteLength body } = {
            rest := later
            offset := start + Text.byteLength (body ++ ending) } := by
  have reaches := reaches_findEndTag? found
  have starts := startsEndTag_of_findEndTagBehind? found
  obtain ⟨ending, passed, bracket, again⟩ := behindBracket_local close
  refine ⟨ending, reaches.trans passed, ?_⟩
  intro later start same
  constructor
  · apply findEndTagBehind?_congr found
    intro front
    rw [passed.rest] at starts ⊢
    rcases bracket with bracket | last
    · have long := length_lt_of_startsEndTag bracketless bracket starts
      have enough : name.length + 2 < (front ++ ending).length := by
        rw [List.length_append]
        omega
      have marks : name.length + 2 ≤ (front ++ ending).length := by omega
      rw [← List.append_assoc, ← List.append_assoc]
      constructor
      · rw [startsEndTag_append enough, startsEndTag_append enough]
      · rw [startsEndMark_append marks, startsEndMark_append marks]
    · obtain rfl : later = [] := by simpa [last] using same
      rw [last]
      exact ⟨rfl, rfl⟩
  · rw [again later _ same, Text.byteLength_append, Nat.add_assoc]

end Template

end SourceMark
