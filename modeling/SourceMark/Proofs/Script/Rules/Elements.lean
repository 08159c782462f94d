import SourceMark.Proofs.Script.Rules.Types
import SourceMark.Script.Elements

/-!
# Elements stay within the text

Apart from that, the rules for elements are the only ones whose offsets count:
a mark is put in behind the name or the type arguments of a tag.  So the
readings of these parts are described by what they pass, and the offsets of an
opening tag follow from that.
-/

namespace SourceMark

namespace Script

open Reading

set_option synthInstance.maxSize 100000

variable {origin : Cursor}

/-! ## What the rules give -/

instance : HasPlaces TagName := .none TagName
instance : Placeless TagName := ⟨fun _ _ => trivial⟩

instance : HasPlaces Attribute where
  AllFrom := fun origin given => Within origin given.parts

instance (given : Attribute) [within : Within origin given] :
    Within origin given.parts :=
  within.allFrom

instance (name : Option String) (parts : List Node)
    [within : Within origin parts] :
    Within origin ({ name, parts } : Attribute) :=
  ⟨within⟩

instance : HasPlaces ElementTypes where
  AllFrom := fun origin types => Within origin types.parts

instance (types : ElementTypes) [within : Within origin types] :
    Within origin types.parts :=
  within.allFrom

instance (parts : List Node) (stop : Nat) [within : Within origin parts] :
    Within origin ({ parts, stop } : ElementTypes) :=
  ⟨within⟩

/-! ## Characters -/

instance (character : Char) : Within origin (atCharacter character) := by
  unfold atCharacter
  infer_instance

instance (character : Char) : Within origin (acceptCharacter character) := by
  unfold acceptCharacter
  infer_instance

instance (character : Char) : Within origin (expectCharacter character) := by
  unfold expectCharacter
  infer_instance

instance (cursor : Cursor) [within : Within origin cursor] :
    Within origin (closeTagText cursor) :=
  ⟨(follows_closeTagText cursor).trans within.allFrom⟩

theorem atCharacter_apply (character : Char) (context : Context)
    (cursor : Cursor) :
    atCharacter character context (.ofCursor cursor) =
      .ok (decide (cursor.lexeme.place.rest.head? = some character),
        .ofCursor cursor) :=
  rfl

theorem acceptCharacter_apply (character : Char) (context : Context)
    (cursor : Cursor) :
    acceptCharacter character context (.ofCursor cursor) =
      if cursor.lexeme.place.rest.head? = some character then
        .ok (true, .ofCursor (cursor.lexeme.place.skip 1))
      else
        .ok (false, .ofCursor cursor) := by
  unfold acceptCharacter
  rw [Reading.bind_apply, atCharacter_apply]
  by_cases here : cursor.lexeme.place.rest.head? = some character
  · simp only [here, decide_true, if_true]
    rfl
  · simp only [here, decide_false, if_false]
    rfl

/-- A character is either passed or does not come next. -/
theorem character_of_accept {character : Char} {context : Context}
    {cursor : Cursor} {accepted : Bool} {next : Place}
    (read : acceptCharacter character context (.ofCursor cursor) =
      .ok (accepted, next)) :
    if accepted then
      ∃ behind, CharacterBetween cursor character behind ∧
        next = .ofCursor behind
    else
      cursor.lexeme.place.rest.head? ≠ some character ∧
        next = .ofCursor cursor := by
  rw [acceptCharacter_apply] at read
  split at read
  · next here =>
      cases read
      exact ⟨_, ⟨here, rfl⟩, rfl⟩
  · next absent =>
      cases read
      exact ⟨absent, rfl⟩

theorem character_of_expect {character : Char} {context : Context}
    {cursor : Cursor} {next : Place}
    (read : expectCharacter character context (.ofCursor cursor) =
      .ok ((), next)) :
    ∃ behind, CharacterBetween cursor character behind ∧
      next = .ofCursor behind := by
  obtain ⟨accepted, between, passed, rest⟩ := Reading.bind_eq_ok read
  have known := character_of_accept passed
  cases accepted with
  | true =>
      cases rest
      exact known
  | false => cases rest

/-! ## Names -/

instance : Within origin tagWord := by
  unfold tagWord
  refine .bind inferInstance fun lexeme => ?_
  split
  · next word behind found =>
      have start : Within origin lexeme.value.place := inferInstance
      have : Within origin behind :=
        ⟨(follows_tagWord? found).trans start.allFrom⟩
      infer_instance
  · infer_instance

instance : Within origin tagName := by
  unfold tagName
  infer_instance

theorem word_of_tagWord {context : Context} {cursor : Cursor} {word : String}
    {next : Place}
    (read : tagWord context (.ofCursor cursor) = .ok (word, next)) :
    ∃ behind, WordBetween cursor word behind ∧ next = .ofCursor behind := by
  obtain ⟨lexeme, between, looked, read⟩ := Reading.bind_eq_ok read
  rw [Reading.peek_apply] at looked
  cases looked
  cases found : tagWord? cursor.lexeme.place with
  | none =>
      simp only [Place.ofCursor, found] at read
      cases read
  | some result =>
      simp only [Place.ofCursor, found] at read
      cases read
      exact ⟨_, found, rfl⟩

/-- What each step of a growth keeps holds at its end. -/
theorem growWithin_induction {α : Type} {step : α → Reading (Option α)}
    {context : Context} {Holds : α → Cursor → Prop}
    (grows : ∀ value cursor grown next, Holds value cursor →
      step value context (.ofCursor cursor) = .ok (some grown, next) →
      ∃ behind, Holds grown behind ∧ next = .ofCursor behind)
    (stops : ∀ value cursor next, Holds value cursor →
      step value context (.ofCursor cursor) = .ok (none, next) →
      ∃ behind, Holds value behind ∧ next = .ofCursor behind)
    {fuel : Nat} {value result : α} {cursor : Cursor} {next : Place}
    (holds : Holds value cursor)
    (read : growWithin step fuel value context (.ofCursor cursor) =
      .ok (result, next)) :
    ∃ behind, Holds result behind ∧ next = .ofCursor behind := by
  induction fuel generalizing value cursor with
  | zero => cases read
  | succ fuel induction =>
      obtain ⟨grown?, between, stepped, rest⟩ := Reading.bind_eq_ok read
      cases grown? with
      | none =>
          cases rest
          exact stops _ cursor _ holds stepped
      | some grown =>
          obtain ⟨behind, further, rfl⟩ := grows value cursor _ _ holds stepped
          exact induction further rest

theorem dotted_of_grow {context : Context} {first cursor : Cursor}
    {word name : String} {next : Place}
    (start : DottedBetween first word cursor)
    (read : grow
      (fun name => do
        if ← acceptCharacter '.' then
          return some (name ++ "." ++ (← tagWord))
        else
          return none)
      word context (.ofCursor cursor) = .ok (name, next)) :
    ∃ behind, DottedBetween first name behind ∧ next = .ofCursor behind := by
  refine growWithin_induction ?_ ?_ start read
  · intro name cursor grown next front stepped
    obtain ⟨accepted, between, passed, rest⟩ := Reading.bind_eq_ok stepped
    have known := character_of_accept passed
    cases accepted with
    | false => cases rest
    | true =>
        obtain ⟨behind, mark, rfl⟩ := known
        obtain ⟨word, later, read, result⟩ := Reading.bind_eq_ok rest
        obtain ⟨last, spelled, rfl⟩ := word_of_tagWord read
        cases result
        exact ⟨last, .dot front mark spelled, rfl⟩
  · intro name cursor next front stepped
    obtain ⟨accepted, between, passed, rest⟩ := Reading.bind_eq_ok stepped
    have known := character_of_accept passed
    cases accepted with
    | false =>
        cases rest
        exact ⟨cursor, front, known.2⟩
    | true =>
        obtain ⟨word, later, spelled, result⟩ := Reading.bind_eq_ok rest
        cases result

/-- The reading of a name passes that name. -/
theorem name_of_tagName {context : Context} {cursor : Cursor} {name : TagName}
    {next : Place}
    (read : tagName context (.ofCursor cursor) = .ok (name, next)) :
    ∃ behind, NameBetween cursor name.dotted behind ∧
      next = .ofCursor behind := by
  obtain ⟨word, between, spelled, read⟩ := Reading.bind_eq_ok read
  obtain ⟨behind, first, rfl⟩ := word_of_tagWord spelled
  obtain ⟨accepted, between, passed, read⟩ := Reading.bind_eq_ok read
  have known := character_of_accept passed
  cases accepted with
  | true =>
      obtain ⟨middle, mark, rfl⟩ := known
      obtain ⟨second, between, spelled, read⟩ := Reading.bind_eq_ok read
      obtain ⟨last, second, rfl⟩ := word_of_tagWord spelled
      obtain ⟨dotted, between, looked, read⟩ := Reading.bind_eq_ok read
      rw [atCharacter_apply] at looked
      cases looked
      split at read
      · cases read
      · cases read
        exact ⟨last, .namespaced first mark second, rfl⟩
  | false =>
      obtain ⟨-, rfl⟩ := known
      obtain ⟨name, between, grown, read⟩ := Reading.bind_eq_ok read
      obtain ⟨last, spelled, rfl⟩ := dotted_of_grow (.word first) grown
      cases read
      exact ⟨last, .dotted spelled, rfl⟩

/-! ## Type arguments -/

theorem character_of_expectOpenAngle {context : Context} {cursor : Cursor}
    {next : Place}
    (read : expectOpenAngle context (.ofCursor cursor) = .ok ((), next)) :
    ∃ behind, CharacterBetween cursor '<' behind ∧ next = .ofCursor behind := by
  obtain ⟨opens, between, looked, read⟩ := Reading.bind_eq_ok read
  have angle : atOpenAngle context (.ofCursor cursor) =
      .ok (decide (cursor.lexeme.token = .mark "<") ||
        decide (cursor.lexeme.token = .mark "<<"), .ofCursor cursor) := rfl
  rw [angle] at looked
  cases looked
  split at read
  · next opens =>
      have first : cursor.lexeme.place.rest.head? = some '<' := by
        simp only [Bool.or_eq_true, decide_eq_true_eq] at opens
        rcases opens with single | double
        · obtain ⟨rest, whole⟩ := Cursor.prefix_of_lexeme single
          rw [← whole]
          rfl
        · obtain ⟨rest, whole⟩ := Cursor.prefix_of_lexeme double
          rw [← whole]
          rfl
      cases read
      exact ⟨_, ⟨first, rfl⟩, rfl⟩
  · cases read

/-- A repetition ends where its step gives nothing. -/
theorem ends_of_manyWithin {α : Type} [HasPlaces α]
    {step : Reading (Option α)} [Within origin step] {context : Context}
    {fuel : Nat} {place next : Place} {items : List α}
    (standing : HasPlaces.AllFrom origin place)
    (read : manyWithin step fuel context place = .ok (items, next)) :
    ∃ last, HasPlaces.AllFrom origin last ∧
      step context last = .ok (none, next) := by
  induction fuel generalizing place items with
  | zero => cases read
  | succ fuel induction =>
      obtain ⟨item?, between, stepped, read⟩ := Reading.bind_eq_ok read
      cases item? with
      | none =>
          cases read
          exact ⟨place, standing, stepped⟩
      | some item =>
          have reached : HasPlaces.AllFrom origin (step context place) :=
            Reading.allFrom_at standing
          rw [stepped] at reached
          obtain ⟨items, later, repeated, read⟩ := Reading.bind_eq_ok read
          cases read
          exact induction reached.2 repeated

/-- A list in angle brackets ends with its closing bracket. -/
theorem bracket_of_separatedInAngles {α : Type} [HasPlaces α]
    {item : Reading α} [Within origin item] {context : Context}
    {place next : Place} {items : List α}
    (standing : HasPlaces.AllFrom origin place)
    (read : separatedInAngles item context place = .ok (items, next)) :
    ∃ last : Cursor, last.Follows origin ∧ last.rest.head? = some '>' ∧
      next = .ofCursor (last.skip 1) := by
  obtain ⟨last, reached, stepped⟩ := ends_of_manyWithin standing read
  obtain ⟨closes, between, looked, rest⟩ := Reading.bind_eq_ok stepped
  have angle : atCloseAngle context last =
      .ok (decide (last.lexeme.place.rest.head? = some '>'), last) := rfl
  rw [angle] at looked
  cases looked
  have here : Within origin last := ⟨reached⟩
  have bracket : Within origin last.lexeme.place := inferInstance
  by_cases first : last.lexeme.place.rest.head? = some '>'
  · have passed : expectCloseAngle context last =
        .ok ((), .ofCursor (last.lexeme.place.skip 1)) := by
      unfold expectCloseAngle
      rw [Reading.bind_apply, angle]
      simp only [first, decide_true, if_true]
      rfl
    simp only [first, decide_true, if_true] at rest
    obtain ⟨done, after, closed, result⟩ := Reading.bind_eq_ok rest
    rw [passed] at closed
    cases closed
    cases result
    exact ⟨_, bracket.allFrom, first, rfl⟩
  · simp only [first, decide_false] at rest
    obtain ⟨value, after, _, rest⟩ := Reading.bind_eq_ok rest
    obtain ⟨isLast, after, _, rest⟩ := Reading.bind_eq_ok rest
    cases isLast with
    | true => cases rest
    | false =>
        obtain ⟨done, after, _, rest⟩ := Reading.bind_eq_ok rest
        cases rest

section Rules

variable (grammar : Grammar) [Grammar.IsWithin grammar]

/-! ## Attributes and children -/

instance : Within origin (bracedExpression grammar) := by
  unfold bracedExpression
  infer_instance

instance : Within origin (attributeValue grammar) := by
  unfold attributeValue insideValue
  refine .withReader (.bind inferInstance fun lexeme => ?_) _
  have start : Within origin lexeme.value.place := inferInstance
  dsimp only
  split
  · infer_instance
  · infer_instance
  · next quote rest _ _ equality =>
      split
      · next quoted =>
          have single : quote.utf8Size = 1 := by
            rcases quoted with rfl | rfl
            · rfl
            · rfl
          split
          · next behind found =>
              have : Within origin behind :=
                ⟨((follows_closeAttribute? single found).trans
                  (Cursor.follows_ascii equality single)).trans start.allFrom⟩
              infer_instance
          · infer_instance
      · infer_instance
  · infer_instance

instance : Within origin (tagAttribute? grammar) := by
  unfold tagAttribute?
  infer_instance

instance : Within origin (childExpression grammar) := by
  unfold childExpression
  infer_instance

instance : Within origin (child? grammar) := by
  unfold child?
  refine .bind inferInstance fun place => ?_
  dsimp only
  split
  · infer_instance
  · infer_instance
  · infer_instance
  · infer_instance

instance : Within origin (children grammar) := by
  unfold children
  infer_instance

/-! ## Opening tags -/

instance : Within origin (elementTypes? grammar) := by
  unfold elementTypes?
  infer_instance

theorem angles_of_typeArguments {context : Context} {cursor : Cursor}
    {parts : List Node} {next : Place}
    (read : typeArguments grammar context (.ofCursor cursor) =
      .ok (parts, next)) :
    ∃ behind, AnglesBetween cursor behind ∧ next = .ofCursor behind := by
  obtain ⟨_, between, opened, read⟩ := Reading.bind_eq_ok read
  obtain ⟨inside, bracket, rfl⟩ := character_of_expectOpenAngle opened
  obtain ⟨lists, later, listed, read⟩ := Reading.bind_eq_ok read
  cases read
  have start : Within inside inside := ⟨Cursor.Follows.refl inside⟩
  have standing : Within inside (Place.ofCursor inside) := inferInstance
  obtain ⟨last, follows, closes, rfl⟩ :=
    bracket_of_separatedInAngles standing.allFrom listed
  exact ⟨_, ⟨inside, last, bracket, follows, closes, rfl⟩, rfl⟩

/-- Type arguments are passed as a whole, or nothing is. -/
theorem types_of_elementTypes? {context : Context} {cursor : Cursor}
    {types? : Option ElementTypes} {next : Place}
    (read : elementTypes? grammar context (.ofCursor cursor) =
      .ok (types?, next)) :
    (∃ types behind, types? = some types ∧ AnglesBetween cursor behind ∧
      types.stop = behind.offset ∧ next = .ofCursor behind) ∨
    (types? = none ∧ next = .ofCursor cursor) := by
  obtain ⟨isTyped, between, looked, read⟩ := Reading.bind_eq_ok read
  have same : typed context (.ofCursor cursor) =
      .ok (context.dialect.hasTypes, .ofCursor cursor) := rfl
  rw [same] at looked
  cases looked
  obtain ⟨opens, between, looked, read⟩ := Reading.bind_eq_ok read
  rw [atCharacter_apply] at looked
  cases looked
  split at read
  · unfold attempt at read
    split at read
    · next types later outcome =>
        cases read
        obtain ⟨parts, between, passed, rest⟩ := Reading.bind_eq_ok outcome
        obtain ⟨behind, angles, rfl⟩ := angles_of_typeArguments grammar passed
        cases rest
        exact .inl ⟨_, behind, rfl, angles, rfl, rfl⟩
    · cases read
    · cases read
      exact .inr ⟨rfl, rfl⟩
  · cases read
    exact .inr ⟨rfl, rfl⟩

omit [Grammar.IsWithin grammar] in
/-- No attribute starts with an opening bracket. -/
theorem attributes_ne_ok {context : Context} {cursor : Cursor}
    (bracket : cursor.lexeme.place.rest.head? = some '<')
    {given : List Attribute} {next : Place} :
    many (tagAttribute? grammar) context (.ofCursor cursor) ≠
      .ok (given, next) := by
  intro read
  obtain ⟨_, between, asked, read⟩ := Reading.bind_eq_ok read
  cases asked
  cases bound : context.bound with
  | zero =>
      rw [bound] at read
      cases read
  | succ fuel =>
      rw [bound] at read
      obtain ⟨item?, between, stepped, -⟩ := Reading.bind_eq_ok read
      obtain ⟨slash, between, looked, stepped⟩ := Reading.bind_eq_ok stepped
      rw [atCharacter_apply, bracket] at looked
      cases looked
      obtain ⟨angle, between, looked, stepped⟩ := Reading.bind_eq_ok stepped
      rw [atCharacter_apply, bracket] at looked
      cases looked
      obtain ⟨brace, between, looked, stepped⟩ := Reading.bind_eq_ok stepped
      rw [acceptCharacter_apply, bracket] at looked
      cases looked
      obtain ⟨word, between, passed, stepped⟩ := Reading.bind_eq_ok stepped
      obtain ⟨behind, spelled, rfl⟩ := word_of_tagWord passed
      obtain ⟨rest, first⟩ := List.head?_eq_some_iff.mp bracket
      have noWord : tagWord? cursor.lexeme.place = none := by
        unfold tagWord?
        rw [first]
        rfl
      unfold WordBetween at spelled
      rw [noWord] at spelled
      cases spelled

/-- Between the name of a tag and its attributes stand its type arguments. -/
theorem types_of_attributes {context : Context} {cursor : Cursor}
    {types? : Option ElementTypes} {given : List Attribute}
    {between next : Place}
    (passed : elementTypes? grammar context (.ofCursor cursor) =
      .ok (types?, between))
    (listed : many (tagAttribute? grammar) context between =
      .ok (given, next)) :
    ∃ behind, TypesBetween cursor (types?.map ElementTypes.stop) behind ∧
      between = .ofCursor behind := by
  rcases types_of_elementTypes? grammar passed with
    ⟨types, behind, rfl, angles, stop, rfl⟩ | ⟨rfl, rfl⟩
  · exact ⟨behind, ⟨angles, stop⟩, rfl⟩
  · exact ⟨cursor, ⟨rfl, fun bracket =>
      attributes_ne_ok grammar bracket listed⟩, rfl⟩

theorem within_element {opening : Opening} {parts : List Node}
    (lies : opening.LiesBehind origin) [inner : Within origin parts] :
    Within origin (Node.element opening parts) := by
  refine ⟨fun found member => ?_⟩
  rcases List.mem_cons.mp member with here | later
  · obtain rfl := by simpa using here
    exact lies
  · obtain ⟨part, inside, deeper⟩ := mem_sitesAll.mp later
    exact inner.allFrom part inside found deeper

instance : Within origin (markupRule grammar) := by
  refine ⟨fun context place standing => ?_⟩
  obtain ⟨first, rfl⟩ : ∃ cursor, place = .ofCursor cursor :=
    ⟨place.behind, standing.2⟩
  unfold markupRule
  refine allFrom_bind (allFrom_at standing) fun start _ asked _ _ => ?_
  cases asked
  refine allFrom_bind (allFrom_at standing) fun _ next opened _ within => ?_
  obtain ⟨inside, ⟨bracket, rfl⟩, rfl⟩ := character_of_expect opened
  refine allFrom_bind (allFrom_at within)
    fun isFragment next passed _ within => ?_
  have known := character_of_accept passed
  split
  · exact allFrom_at within
  next isTag =>
  rw [if_neg isTag] at known
  obtain ⟨-, rfl⟩ := known
  refine allFrom_bind (allFrom_at within) fun name next spelled _ within => ?_
  obtain ⟨nameEnd, named, rfl⟩ := name_of_tagName spelled
  refine allFrom_bind (allFrom_at within) fun nameStop _ asked _ _ => ?_
  cases asked
  refine allFrom_bind (allFrom_at within)
    fun types? next passed typesWithin within => ?_
  refine allFrom_bind (allFrom_at within)
    fun given next listed givenWithin within => ?_
  obtain ⟨typesEnd, types, rfl⟩ := types_of_attributes grammar passed listed
  obtain ⟨attributesEnd, attributes, rfl⟩ := follows_of_read listed
  refine allFrom_bind (allFrom_at within) fun isClosed next passed _ within => ?_
  obtain ⟨slashEnd, slash, rfl⟩ := follows_of_read passed
  refine allFrom_bind (allFrom_at within) fun _ next closed _ within => ?_
  obtain ⟨behind, ⟨closes, rfl⟩, rfl⟩ := character_of_expect closed
  refine allFrom_bind (allFrom_at within) fun stop _ asked _ _ => ?_
  cases asked
  extract_lets opening outer
  have lies : opening.LiesBehind origin := by
    refine ⟨first, nameEnd, typesEnd, slashEnd.lexeme.place, standing.1, ?_⟩
    exact {
      start := rfl, bracket, named, nameStop := rfl, typed := types, closes
      stop := rfl
      inside := (slashEnd.follows_lexeme_place.trans slash).trans attributes }
  have inTypes : Within origin types? := ⟨typesWithin⟩
  have inGiven : Within origin given := ⟨givenWithin⟩
  have outerWithin : Within origin outer := inferInstance
  have element (parts : List Node) [Within origin parts] :
      Within origin (Node.element opening parts) := within_element lies
  exact allFrom_at within

end Rules

end Script

end SourceMark
