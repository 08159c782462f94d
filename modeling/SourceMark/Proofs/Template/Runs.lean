import SourceMark.Proofs.Template.Tags
import SourceMark.Proofs.Text.Bytes

/-!
# The inside of a tag in runs

Reading the inside of a tag character by character passes over whole runs: of
blanks, of the characters of a name, and of the characters of a value.  What
comes behind a run decides how the reading goes on.
-/

namespace SourceMark

namespace Template

/-- A character of a value without quotes. -/
def isValuePart (character : Char) : Bool :=
  !(character = '>' || Text.isAsciiBlank character)

/-- Read the inside of a tag from a cursor on. -/
def insideAt (tag : String) (place : TagPlace) (cursor : Cursor) :
    Except Fault (List TagAttribute × Bool × Cursor) :=
  readInside tag place cursor.offset cursor.rest

/-- What has been read, behind one more attribute. -/
def withAttribute (given : TagAttribute)
    (read : Except Fault (List TagAttribute × Bool × Cursor)) :
    Except Fault (List TagAttribute × Bool × Cursor) :=
  read.map fun read => (given :: read.1, read.2)

section Inside

variable {tag : String} {place next : TagPlace} {character : Char}
  {rest : List Char} {offset : Nat}

theorem insideAt_go (moved : place.move character = .go next none) :
    insideAt tag place { rest := character :: rest, offset } =
      insideAt tag next { rest, offset := offset + character.utf8Size } :=
  readInside_go moved tag offset rest

theorem insideAt_complete {given : TagAttribute}
    (moved : place.move character = .go next (some given)) :
    insideAt tag place { rest := character :: rest, offset } =
      withAttribute given (insideAt tag next
        { rest, offset := offset + character.utf8Size }) :=
  readInside_complete moved tag offset rest

theorem insideAt_close {selfClosing : Bool} {complete : Option TagAttribute}
    (moved : place.move character = .close selfClosing complete) :
    insideAt tag place { rest := character :: rest, offset } =
      .ok (complete.toList, selfClosing,
        { rest, offset := offset + character.utf8Size }) := by
  simp only [insideAt, readInside, moved]

/-- A run of characters that lead from place to place of one kind. -/
theorem insideAt_run (test : Char → Bool) (place : List Char → TagPlace)
    (moves : ∀ known character, test character = true →
      (place known).move character = .go (place (character :: known)) none)
    (tag : String) (known : List Char) (cursor : Cursor) :
    insideAt tag (place known) cursor =
      insideAt tag (place ((cursor.run test).1.reverse ++ known))
        (cursor.run test).2 := by
  obtain ⟨rest, offset⟩ := cursor
  induction rest generalizing known offset with
  | nil => rfl
  | cons character rest induction =>
      by_cases holds : test character = true
      · have ran : Cursor.run test { rest := character :: rest, offset } =
            (character :: (Cursor.run test
                { rest, offset := offset + character.utf8Size }).1,
              (Cursor.run test
                { rest, offset := offset + character.utf8Size }).2) := by
          simp [Cursor.run, Cursor.takeWhile, holds]
        rw [insideAt_go (moves known character holds), induction, ran]
        simp only [List.reverse_cons, List.append_assoc, List.singleton_append]
      · have ran : Cursor.run test { rest := character :: rest, offset } =
            ([], { rest := character :: rest, offset }) := by
          simp [Cursor.run, Cursor.takeWhile, holds]
        rw [ran]
        rfl

theorem ne_of_isAsciiBlank (blank : Text.isAsciiBlank character = true) :
    character ≠ '>' ∧ character ≠ '/' ∧ character ≠ '=' := by
  refine ⟨?_, ?_, ?_⟩
  · rintro rfl
    simp [Text.isAsciiBlank] at blank
  · rintro rfl
    simp [Text.isAsciiBlank] at blank
  · rintro rfl
    simp [Text.isAsciiBlank] at blank

theorem insideAt_blanks (tag : String) (cursor : Cursor) :
    insideAt tag (.between false) cursor =
      insideAt tag (.between false) (cursor.run Text.isAsciiBlank).2 := by
  apply insideAt_run Text.isAsciiBlank (fun _ => .between false) _ tag []
  intro known character blank
  obtain ⟨bracket, slash, _⟩ := ne_of_isAsciiBlank blank
  simp [TagPlace.move, bracket, slash, blank]

/-- A slash counts only in front of the closing bracket. -/
theorem insideAt_slash {cursor : Cursor} (other : cursor.rest.head? ≠ some '>') :
    insideAt tag (.between true) cursor =
      insideAt tag (.between false) cursor := by
  obtain ⟨rest, offset⟩ := cursor
  cases rest with
  | nil => rfl
  | cons character rest =>
      have bracket : character ≠ '>' := by simpa using other
      have same : TagPlace.move (.between true) character =
          TagPlace.move (.between false) character := by
        simp [TagPlace.move, bracket]
      simp only [insideAt, readInside, same]

theorem insideAt_name (named : isAttributeNamePart character = true)
    (tag : String) (rest : List Char) (offset : Nat) :
    let run := Cursor.run isAttributeNamePart
      { rest := character :: rest, offset }
    insideAt tag (.between false) { rest := character :: rest, offset } =
      insideAt tag (.inName run.1.reverse) run.2 := by
  have ran : Cursor.run isAttributeNamePart
        { rest := character :: rest, offset } =
      (character :: (Cursor.run isAttributeNamePart
          { rest, offset := offset + character.utf8Size }).1,
        (Cursor.run isAttributeNamePart
          { rest, offset := offset + character.utf8Size }).2) := by
    simp [Cursor.run, Cursor.takeWhile, named]
  intro run
  simp only [run]
  rw [insideAt_go (TagPlace.move_between named false), ran,
    insideAt_run isAttributeNamePart .inName _ tag
      [character]]
  · simp only [List.reverse_cons]
  · intro known other part
    exact TagPlace.move_inName part known

theorem head?_run (test : Char → Bool) (cursor : Cursor) :
    ∀ character ∈ (cursor.run test).2.rest.head?, test character = false :=
  Cursor.head?_takeWhile

/-- Behind its last character a name is complete. -/
theorem insideAt_endOfName {name : List Char} {cursor : Cursor}
    (ends : ∀ character ∈ cursor.rest.head?,
      isAttributeNamePart character = false) :
    insideAt tag (.inName name) cursor =
      insideAt tag (.afterName name) cursor := by
  obtain ⟨rest, offset⟩ := cursor
  cases rest with
  | nil => rfl
  | cons character rest =>
      have stops := ends character (by simp)
      have same : TagPlace.move (.inName name) character =
          TagPlace.move (.afterName name) character := by
        by_cases bracket : character = '>'
        · simp [TagPlace.move, bracket]
        · by_cases slash : character = '/'
          · simp [TagPlace.move, slash]
          · by_cases sign : character = '='
            · simp [TagPlace.move, sign]
            · have blank : Text.isAsciiBlank character = true := by
                simpa [isAttributeNamePart, bracket, slash, sign] using stops
              simp [TagPlace.move, bracket, slash, sign, blank]
      simp only [insideAt, readInside, same]

theorem insideAt_blanksBehind (tag : String) (name : List Char)
    (cursor : Cursor) :
    insideAt tag (.afterName name) cursor =
      insideAt tag (.afterName name) (cursor.run Text.isAsciiBlank).2 := by
  apply insideAt_run Text.isAsciiBlank (fun _ => .afterName name) _ tag []
  intro known character blank
  obtain ⟨bracket, slash, sign⟩ := ne_of_isAsciiBlank blank
  simp [TagPlace.move, bracket, slash, sign, blank]

theorem insideAt_sign (name later : List Char) (offset : Nat) :
    insideAt tag (.afterName name) { rest := '=' :: later, offset } =
      insideAt tag (.beforeValue name)
        { rest := later, offset := offset + '='.utf8Size } := by
  apply insideAt_go
  simp [TagPlace.move]

/-- Without a sign the name is an attribute of its own. -/
theorem insideAt_bare (tag : String) (name : List Char) {cursor : Cursor}
    (solid : ∀ character ∈ cursor.rest.head?,
      Text.isAsciiBlank character = false)
    (other : cursor.rest.head? ≠ some '=') :
    insideAt tag (.afterName name) cursor =
      withAttribute (TagPlace.bare name)
        (insideAt tag (.between false) cursor) := by
  obtain ⟨rest, offset⟩ := cursor
  cases rest with
  | nil => rfl
  | cons character rest =>
      have blank := solid character (by simp)
      have sign : character ≠ '=' := by simpa using other
      by_cases bracket : character = '>'
      · subst bracket
        have closes : (TagPlace.afterName name).move '>' =
            .close false (some (TagPlace.bare name)) := rfl
        have again : (TagPlace.between false).move '>' = .close false none := rfl
        rw [insideAt_close closes, insideAt_close again]
        rfl
      · by_cases slash : character = '/'
        · subst slash
          have goes : (TagPlace.afterName name).move '/' =
              .go (.between true) (some (TagPlace.bare name)) := rfl
          have again : (TagPlace.between false).move '/' =
              .go (.between true) none := rfl
          rw [insideAt_complete goes, insideAt_go again]
        · have named : isAttributeNamePart character = true := by
            simp [isAttributeNamePart, bracket, slash, sign, blank]
          have goes : (TagPlace.afterName name).move character =
              .go (.inName [character]) (some (TagPlace.bare name)) := by
            simp [TagPlace.move, bracket, slash, sign, blank]
          rw [insideAt_complete goes,
            insideAt_go (TagPlace.move_between named false)]

theorem insideAt_blanksBefore (tag : String) (name : List Char)
    (cursor : Cursor) :
    insideAt tag (.beforeValue name) cursor =
      insideAt tag (.beforeValue name) (cursor.run Text.isAsciiBlank).2 := by
  apply insideAt_run Text.isAsciiBlank (fun _ => .beforeValue name) _ tag []
  intro known character blank
  obtain ⟨bracket, _⟩ := ne_of_isAsciiBlank blank
  simp [TagPlace.move, bracket, blank]

theorem insideAt_quoted (tag : String) {quote : Char}
    (quoted : quote = '"' ∨ quote = '\x27')
    (name later : List Char) (offset : Nat) :
    let run := Cursor.run (· != quote)
      { rest := later, offset := offset + quote.utf8Size }
    insideAt tag (.beforeValue name) { rest := quote :: later, offset } =
      match run.2.rest with
      | [] => .error (.openAttributeValue tag)
      | closing :: behind => withAttribute (TagPlace.valued name run.1.reverse)
          (insideAt tag (.between false) {
            rest := behind
            offset := run.2.offset + closing.utf8Size }) := by
  have moved : TagPlace.move (.beforeValue name) quote =
      .go (.inQuotes name quote []) none := by
    rcases quoted with rfl | rfl
    · simp [TagPlace.move, Text.isAsciiBlank]
    · simp [TagPlace.move, Text.isAsciiBlank]
  intro run
  have stops := head?_run (· != quote)
    { rest := later, offset := offset + quote.utf8Size }
  rw [insideAt_go moved, insideAt_run (· != quote)
    (.inQuotes name quote) _ tag [], List.append_nil]
  · change insideAt tag (.inQuotes name quote run.1.reverse) run.2 = _
    change ∀ character ∈ run.2.rest.head?, _ at stops
    obtain ⟨value, rest, place⟩ := run
    cases rest with
    | nil => rfl
    | cons closing behind =>
        have same : closing = quote := by simpa using stops closing (by simp)
        have goes : (TagPlace.inQuotes name quote value.reverse).move closing =
            .go (.between false) (some (TagPlace.valued name value.reverse)) := by
          simp [TagPlace.move, same]
        rw [insideAt_complete goes]
  · intro known character inside
    have different : character ≠ quote := by simpa using inside
    simp [TagPlace.move, different]

/-- Behind its last character a value without quotes is complete. -/
theorem insideAt_endOfValue {name value : List Char} {cursor : Cursor}
    (ends : ∀ character ∈ cursor.rest.head?, isValuePart character = false) :
    insideAt tag (.inValue name value) cursor =
      withAttribute (TagPlace.valued name value)
        (insideAt tag (.between false) cursor) := by
  obtain ⟨rest, offset⟩ := cursor
  cases rest with
  | nil => rfl
  | cons character rest =>
      have stops := ends character (by simp)
      by_cases bracket : character = '>'
      · subst bracket
        have closes : (TagPlace.inValue name value).move '>' =
            .close false (some (TagPlace.valued name value)) := rfl
        have again : (TagPlace.between false).move '>' = .close false none := rfl
        rw [insideAt_close closes, insideAt_close again]
        rfl
      · have blank : Text.isAsciiBlank character = true := by
          simpa [isValuePart, bracket] using stops
        have slash := (ne_of_isAsciiBlank blank).2.1
        have goes : (TagPlace.inValue name value).move character =
            .go (.between false) (some (TagPlace.valued name value)) := by
          simp [TagPlace.move, bracket, blank]
        have again : (TagPlace.between false).move character =
            .go (.between false) none := by
          simp [TagPlace.move, bracket, slash, blank]
        rw [insideAt_complete goes, insideAt_go again]

theorem insideAt_value (tag : String) (name : List Char) {cursor : Cursor}
    (solid : ∀ character ∈ cursor.rest.head?,
      Text.isAsciiBlank character = false ∧ character ≠ '"' ∧
        character ≠ '\x27') :
    let run := cursor.run isValuePart
    insideAt tag (.beforeValue name) cursor =
      withAttribute (TagPlace.valued name run.1.reverse)
        (insideAt tag (.between false) run.2) := by
  obtain ⟨rest, offset⟩ := cursor
  cases rest with
  | nil => rfl
  | cons character rest =>
      obtain ⟨blank, double, single⟩ := solid character (by simp)
      by_cases bracket : character = '>'
      · subst bracket
        have closes : (TagPlace.beforeValue name).move '>' =
            .close false (some (TagPlace.valued name [])) := rfl
        have again : (TagPlace.between false).move '>' = .close false none := rfl
        have ran : Cursor.run isValuePart { rest := '>' :: rest, offset } =
            ([], { rest := '>' :: rest, offset }) := rfl
        simp only [ran, List.reverse_nil]
        rw [insideAt_close closes, insideAt_close again]
        rfl
      · have part : isValuePart character = true := by
          simp [isValuePart, bracket, blank]
        have ran : Cursor.run isValuePart { rest := character :: rest, offset } =
            (character :: (Cursor.run isValuePart
                { rest, offset := offset + character.utf8Size }).1,
              (Cursor.run isValuePart
                { rest, offset := offset + character.utf8Size }).2) := by
          simp [Cursor.run, Cursor.takeWhile, part]
        have goes : (TagPlace.beforeValue name).move character =
            .go (.inValue name [character]) none := by
          simp [TagPlace.move, bracket, blank, double, single]
        simp only [ran]
        rw [insideAt_go goes, insideAt_run isValuePart
          (.inValue name) _ tag [character], List.reverse_cons]
        · exact insideAt_endOfValue (head?_run isValuePart _)
        · intro known other inside
          simp only [isValuePart, Bool.not_eq_true', Bool.or_eq_false_iff,
            decide_eq_false_iff_not] at inside
          simp [TagPlace.move, inside]

end Inside

end Template

end SourceMark
