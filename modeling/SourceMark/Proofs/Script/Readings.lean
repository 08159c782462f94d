import SourceMark.Proofs.Script.Within

/-!
# Ways to read that stay within the text

Each of the ways to go through a script stays within its text when the readings
that it is made of do.  Going back to where an attempt started, or on from the
place of a failure, does not leave the text either.
-/

namespace SourceMark

namespace Script

section Readings

variable {origin : Cursor} {α β : Type} [HasPlaces α] [HasPlaces β]

/-! ## Steps of a reading -/

omit [HasPlaces α] [HasPlaces β] in
theorem Reading.bind_apply (reading : Reading α) (next : α → Reading β)
    (context : Context) (place : Place) :
    (reading >>= next) context place =
      match reading context place with
      | .ok (result, behind) => next result context behind
      | .error fault => .error fault := by
  cases outcome : reading context place with
  | ok pair => simp [bind, ReaderT.bind, StateT.bind, Except.bind, outcome]
  | error fault => simp [bind, ReaderT.bind, StateT.bind, Except.bind, outcome]

omit [HasPlaces α] [HasPlaces β] in
theorem Reading.bind_eq_ok {reading : Reading α} {next : α → Reading β}
    {context : Context} {place later : Place} {result : β}
    (read : (reading >>= next) context place = .ok (result, later)) :
    ∃ value between, reading context place = .ok (value, between) ∧
      next value context between = .ok (result, later) := by
  rw [Reading.bind_apply] at read
  cases outcome : reading context place with
  | error fault =>
      rw [outcome] at read
      cases read
  | ok pair =>
      rw [outcome] at read
      exact ⟨pair.1, pair.2, rfl, read⟩

/-- A reading that starts at some place goes on from what it gives there. -/
theorem Reading.allFrom_bind {reading : Reading α} {next : α → Reading β}
    {context : Context} {place : Place}
    (first : HasPlaces.AllFrom origin (reading context place))
    (later : ∀ result behind, reading context place = .ok (result, behind) →
      HasPlaces.AllFrom origin result → HasPlaces.AllFrom origin behind →
      HasPlaces.AllFrom origin (next result context behind)) :
    HasPlaces.AllFrom origin ((reading >>= next) context place) := by
  rw [Reading.bind_apply]
  cases outcome : reading context place with
  | error fault =>
      rw [outcome] at first
      exact first
  | ok pair =>
      rw [outcome] at first
      exact later pair.1 pair.2 outcome first.1 first.2

/-- A reading within the text goes on within it. -/
theorem Within.bind {reading : Reading α} {next : α → Reading β}
    (first : Within origin reading)
    (later : ∀ result : Held origin α, Within origin (next result.value)) :
    Within origin (reading >>= next) :=
  ⟨fun context place standing =>
    Reading.allFrom_bind (first.allFrom context place standing)
      fun result behind _ within reached =>
        (later ⟨result, ⟨within⟩⟩).allFrom context behind reached⟩

/-- The same for a result that may be missing, whose cases are apart. -/
theorem Within.bind_option {reading : Reading (Option α)}
    {next : Option α → Reading β} (first : Within origin reading)
    (missing : Within origin (next none))
    (present : ∀ result : Held origin α, Within origin (next (some result.value))) :
    Within origin (reading >>= next) := by
  refine .bind first fun result => ?_
  obtain ⟨option, within⟩ := result
  cases option with
  | none => exact missing
  | some value => exact present ⟨value, .of_some rfl⟩

instance (reading : Reading α) (next : α → Reading β)
    [first : Within origin reading]
    [later : ∀ result : Held origin α, Within origin (next result.value)] :
    Within origin (reading >>= next) :=
  .bind first later

instance (result : α) [within : Within origin result] :
    Within origin (pure result : Reading α) :=
  ⟨fun _ _ standing => ⟨within.allFrom, standing⟩⟩

instance (change : α → β) (reading : Reading α) [Within origin reading]
    [∀ result : Held origin α, Within origin (change result.value)] :
    Within origin (change <$> reading) :=
  inferInstanceAs (Within origin (reading >>= fun result => pure (change result)))

instance : Within origin (get : Reading Place) :=
  ⟨fun _ _ standing => ⟨standing, standing⟩⟩

instance : Within origin (read : Reading Context) :=
  ⟨fun _ _ standing => ⟨trivial, standing⟩⟩

instance (place : Place) [within : Within origin place] :
    Within origin (set place : Reading Unit) :=
  ⟨fun _ _ _ => ⟨trivial, within.allFrom⟩⟩

instance (fault : Fault) [within : Within origin fault] :
    Within origin (throw fault : Reading α) :=
  ⟨fun _ _ _ => within.allFrom⟩

theorem Within.withReader {reading : Reading α} (stays : Within origin reading)
    (change : Context → Context) :
    Within origin (withReader change reading : Reading α) :=
  ⟨fun context place standing =>
    stays.allFrom (change context) place standing⟩

instance (change : Context → Context) (reading : Reading α)
    [stays : Within origin reading] :
    Within origin (withReader change reading : Reading α) :=
  .withReader stays change

end Readings

namespace Reading

variable {origin : Cursor} {α : Type} [HasPlaces α]

/-! ## Tokens -/

instance : Within origin peek := by
  unfold peek
  infer_instance

omit [HasPlaces α] in
theorem peek_apply (context : Context) (place : Place) :
    peek context place = .ok (place.lexeme, place) :=
  rfl

/-- A reading within the text, at one place. -/
theorem allFrom_at {reading : Reading α} [within : Within origin reading]
    {context : Context} {place : Place}
    (standing : HasPlaces.AllFrom origin place) :
    HasPlaces.AllFrom origin (reading context place) :=
  within.allFrom context place standing

/-- No reading goes back behind the cursor at which it starts. -/
theorem follows_of_read {reading : Reading α}
    [∀ origin, Within origin reading] {context : Context} {cursor : Cursor}
    {result : α} {next : Place}
    (read : reading context (.ofCursor cursor) = .ok (result, next)) :
    ∃ behind : Cursor, behind.Follows cursor ∧ next = .ofCursor behind := by
  have start : Within cursor (Place.ofCursor cursor) :=
    ⟨Cursor.Follows.refl cursor, rfl⟩
  have reached : HasPlaces.AllFrom cursor
      (reading context (.ofCursor cursor)) := allFrom_at start.allFrom
  rw [read] at reached
  exact ⟨next.behind, reached.2⟩

/-- A reading stays within the text where this token comes next. -/
def WithinAt (origin : Cursor) (lexeme : Lexeme) (reading : Reading α) : Prop :=
  ∀ context place, HasPlaces.AllFrom origin place → place.lexeme = lexeme →
    HasPlaces.AllFrom origin (reading context place)

theorem withinAt_of_within (lexeme : Lexeme) (reading : Reading α)
    [within : Within origin reading] : WithinAt origin lexeme reading :=
  fun _ _ standing _ => allFrom_at standing

/-- What is read behind a look at the next token starts at that token. -/
theorem within_peek {next : Lexeme → Reading α}
    (later : ∀ lexeme : Held origin Lexeme,
      WithinAt origin lexeme.value (next lexeme.value)) :
    Within origin (peek >>= next) := by
  refine ⟨fun context place standing => ?_⟩
  have here : Within origin place := ⟨standing⟩
  exact later ⟨place.lexeme, inferInstance⟩ context place standing rfl

instance : Within origin peekSecond := by
  unfold peekSecond
  infer_instance

instance : Within origin (fail : Reading α) :=
  ⟨fun _ _ standing => standing⟩

instance (cursor : Cursor) [Within origin cursor] :
    Within origin (moveTo cursor) := by
  unfold moveTo
  infer_instance

instance (lexeme : Lexeme) [Within origin lexeme] : Within origin (pass lexeme) := by
  unfold pass
  infer_instance

instance : Within origin passAny := by
  unfold passAny
  infer_instance

instance : Within origin startOffset := by
  unfold startOffset
  infer_instance

instance : Within origin stopOffset := by
  unfold stopOffset
  infer_instance

instance (mark : String) : Within origin (atMark mark) := by
  unfold atMark
  infer_instance

instance (marks : List String) : Within origin (atAnyMark marks) := by
  unfold atAnyMark
  refine .bind inferInstance fun lexeme => ?_
  split
  · infer_instance
  · infer_instance

instance (word : String) : Within origin (atWord word) := by
  unfold atWord
  infer_instance

instance (test : Token → Bool) : Within origin (acceptToken test) := by
  unfold acceptToken
  infer_instance

instance (mark : String) : Within origin (acceptMark mark) := by
  unfold acceptMark
  infer_instance

instance (word : String) : Within origin (acceptWord word) := by
  unfold acceptWord
  infer_instance

instance (mark : String) : Within origin (expectMark mark) := by
  unfold expectMark
  infer_instance

instance (word : String) : Within origin (expectWord word) := by
  unfold expectWord
  infer_instance

/-! ## Trying and repeating -/

instance (reading : Reading α) [within : Within origin reading] :
    Within origin (attempt reading) := by
  refine ⟨fun context place standing => ?_⟩
  have reached := within.allFrom context place standing
  unfold attempt
  cases outcome : reading context place with
  | ok pair =>
      rw [outcome] at reached
      exact reached
  | error fault =>
      cases fault with
      | unexpected failed => exact ⟨trivial, standing⟩
      | aborted => trivial

instance (reading : Reading (Option α)) [within : Within origin reading] :
    Within origin (attempt? reading) := by
  refine ⟨fun context place standing => ?_⟩
  have reached := within.allFrom context place standing
  unfold attempt?
  cases outcome : reading context place with
  | ok pair =>
      rw [outcome] at reached
      obtain ⟨option, next⟩ := pair
      cases option with
      | none => exact ⟨trivial, standing⟩
      | some result => exact reached
  | error fault =>
      cases fault with
      | unexpected failed => exact ⟨trivial, standing⟩
      | aborted => trivial

instance (reading : Reading α) [within : Within origin reading] :
    Within origin (recover reading) := by
  refine ⟨fun context place standing => ?_⟩
  have reached := within.allFrom context place standing
  unfold recover
  cases outcome : reading context place with
  | ok pair =>
      rw [outcome] at reached
      exact reached
  | error fault =>
      rw [outcome] at reached
      cases fault with
      | unexpected failed => exact ⟨trivial, reached⟩
      | aborted => trivial

instance (first second : Reading α) [left : Within origin first]
    [right : Within origin second] : Within origin (either first second) := by
  refine ⟨fun context place standing => ?_⟩
  have reached := left.allFrom context place standing
  have instead := right.allFrom context place standing
  unfold either
  cases outcome : first context place with
  | ok pair =>
      rw [outcome] at reached
      exact reached
  | error fault =>
      rw [outcome] at reached
      cases fault with
      | aborted => trivial
      | unexpected failed =>
          cases other : second context place with
          | ok pair =>
              rw [other] at instead
              exact instead
          | error fault =>
              cases fault with
              | unexpected later => exact reached
              | aborted => trivial

instance (reading : Reading Bool) : Within origin (ahead reading) := by
  refine ⟨fun context place standing => ?_⟩
  unfold ahead
  cases reading context place with
  | ok pair => exact ⟨trivial, standing⟩
  | error fault =>
      cases fault with
      | unexpected failed => exact ⟨trivial, standing⟩
      | aborted => trivial

instance (step : Reading (Option α)) [Within origin step] (fuel : Nat) :
    Within origin (manyWithin step fuel) := by
  induction fuel with
  | zero => exact inferInstanceAs (Within origin fail)
  | succ fuel induction =>
      unfold manyWithin
      refine .bind_option inferInstance ?_ fun item => ?_
      · infer_instance
      · infer_instance

theorem within_many {step : Reading (Option α)} (stays : Within origin step) :
    Within origin (many step) := by
  unfold many
  infer_instance

instance (step : Reading (Option α)) [stays : Within origin step] :
    Within origin (many step) :=
  within_many stays

instance (step : α → Reading (Option α)) (fuel : Nat) (value : α)
    [∀ value : Held origin α, Within origin (step value.value)]
    [Within origin value] : Within origin (growWithin step fuel value) := by
  induction fuel generalizing value with
  | zero => exact inferInstanceAs (Within origin fail)
  | succ fuel induction =>
      unfold growWithin
      have here : Within origin (step value) :=
        inferInstanceAs (Within origin (step (Held.mk value ‹_›).value))
      refine .bind_option inferInstance ?_ fun grown => ?_
      · infer_instance
      · exact induction grown.value

instance (step : α → Reading (Option α)) (value : α)
    [∀ value : Held origin α, Within origin (step value.value)]
    [Within origin value] : Within origin (grow step value) := by
  unfold grow
  infer_instance

instance (close : String) (item : Reading α) [Within origin item] :
    Within origin (separated close item) := by
  unfold separated
  infer_instance

/-! ## Angle brackets -/

instance : Within origin atCloseAngle := by
  unfold atCloseAngle
  infer_instance

instance : Within origin expectCloseAngle := by
  unfold expectCloseAngle
  infer_instance

instance : Within origin atOpenAngle := by
  unfold atOpenAngle
  infer_instance

instance : Within origin expectOpenAngle := by
  unfold expectOpenAngle
  infer_instance

instance (item : Reading α) [Within origin item] :
    Within origin (separatedInAngles item) := by
  unfold separatedInAngles
  infer_instance

/-! ## Templates -/

instance (isTagged : Bool) (item : Reading (List Node)) [Within origin item] :
    Within origin (substitutions isTagged item) := by
  unfold substitutions
  refine .bind (within_many ?_) fun found => inferInstance
  refine .bind inferInstance fun place => ?_
  split
  · infer_instance
  · next piece found =>
      have start : Within origin place.value.behind := inferInstance
      have behind : Within origin piece.behind :=
        ⟨(follows_templatePiece? found).trans start.allFrom⟩
      cases stop : piece.stop with
      | closed => infer_instance
      | substitution => infer_instance

/-! ## Statements -/

instance : Within origin atStatementEnd := by
  unfold atStatementEnd
  infer_instance

instance : Within origin acceptStatementEnd := by
  unfold acceptStatementEnd
  infer_instance

instance : Within origin endStatement := by
  unfold endStatement
  infer_instance

/-! ## Surroundings -/

instance : Within origin typed := by
  unfold typed
  infer_instance

instance : Within origin marked := by
  unfold marked
  infer_instance

instance (reading : Reading α) [Within origin reading] :
    Within origin (withIn reading) := by
  unfold withIn
  infer_instance

instance (reading : Reading α) [Within origin reading] :
    Within origin (withoutIn reading) := by
  unfold withoutIn
  infer_instance

instance (reading : Reading α) [Within origin reading] :
    Within origin (awaitingNoColon reading) := by
  unfold awaitingNoColon
  infer_instance

instance (reading : Reading α) [Within origin reading] :
    Within origin (enclosed reading) := by
  unfold enclosed
  infer_instance

instance (start : Nat) (parts : List Node) [Within origin parts] :
    Within origin (groupFrom start parts) := by
  unfold groupFrom
  infer_instance

/-! ## Names -/

instance : Within origin bindingName := by
  unfold bindingName
  refine .bind inferInstance fun lexeme => ?_
  split
  · infer_instance
  · infer_instance

instance : Within origin optionalName? := by
  unfold optionalName?
  refine .bind inferInstance fun lexeme => ?_
  split
  · infer_instance
  · infer_instance

instance : Within origin anyWord := by
  unfold anyWord
  refine .bind inferInstance fun lexeme => ?_
  split
  · infer_instance
  · infer_instance

instance : Within origin atValueName := by
  unfold atValueName
  infer_instance

end Reading

end Script

end SourceMark
