import SourceMark.Page.Resolver
import SourceMark.Proofs.Location
import SourceMark.Proofs.Text.Pieces

/-!
# Keys are told apart from locations

A key is written with two colons in front of its number and a location with one,
and file names may contain both.  Still no text is read as a key and as a
location: what is read as a key has no colon behind its last pair of colons, so
the part that would be the line of a location is empty.
-/

namespace SourceMark

namespace Text

/-- A text is split around an occurrence of the separator. -/
theorem eq_append_of_splitLast? {needle text before after : List Char}
    (found : splitLast? needle text = some (before, after)) :
    text = before ++ (needle ++ after) := by
  induction text generalizing before with
  | nil =>
      obtain ⟨empty, result⟩ := Option.ite_none_right_eq_some.mp found
      obtain ⟨rfl, rfl⟩ := by simpa using result
      simpa using empty
  | cons character rest induction =>
      rw [splitLast?] at found
      split at found
      · next inner behind later =>
          obtain ⟨rfl, rfl⟩ := by simpa using found
          rw [induction later, List.cons_append]
      · obtain ⟨here, result⟩ := Option.ite_none_right_eq_some.mp found
        obtain ⟨rfl, rfl⟩ := by simpa using result
        obtain ⟨behind, whole⟩ := List.isPrefixOf_iff_prefix.mp here
        rw [← whole, List.drop_left, List.nil_append]

theorem colon_notMem_of_wholeNumber? {text : List Char} {number : Nat}
    (read : wholeNumber? text = some number) : ':' ∉ text := by
  unfold wholeNumber? at read
  extract_lets digits at read
  obtain ⟨run, _⟩ := Option.ite_none_right_eq_some.mp read
  have absent : ':' ∉ digits := by
    intro member
    have digit := List.all_eq_true.mp run ':' member
    simp [isAsciiDigit] at digit
  intro member
  apply absent
  unfold digits
  split
  · simpa using member
  · exact member

end Text

namespace Location

/-- Where two colons stand in front of the last part, no location is read. -/
theorem decode?_of_double {value : String} {file rest : List Char}
    (whole : value.toList = file ++ ':' :: ':' :: rest)
    (absent : ':' ∉ rest) : decode? value = none := by
  have last : Text.splitLast? [':'] value.toList =
      some (file ++ [':'], rest) := by
    rw [whole, Text.splitLast?_single_iff]
    exact ⟨by simp, absent⟩
  have second : Text.splitLast? [':'] (file ++ [':']) = some (file, []) :=
    Text.splitLast?_single file (by simp)
  simp only [decode?, last, second]
  rfl

end Location

namespace EntryKey

/-- What is read as a key has a number behind its last two colons. -/
theorem parts_of_decode? {value : String} {key : EntryKey}
    (found : decode? value = some key) :
    ∃ entryText, value.toList =
        key.file.toList ++ ':' :: ':' :: entryText ∧ ':' ∉ entryText := by
  unfold decode? at found
  split at found
  · simp at found
  · next file entryText split =>
      obtain ⟨_, named⟩ := Option.ite_none_left_eq_some.mp found
      obtain ⟨number, read, rfl⟩ := Option.map_eq_some_iff.mp named
      refine ⟨entryText, ?_, ?_⟩
      · simpa using Text.eq_append_of_splitLast? split
      · intro member
        exact Text.colon_notMem_of_wholeNumber? read
          (Text.mem_trim (by decide) member)

/-- No text is read both as a key and as a location. -/
theorem decode?_of_key {value : String} {key : EntryKey}
    (found : decode? value = some key) : Location.decode? value = none := by
  obtain ⟨entryText, whole, absent⟩ := parts_of_decode? found
  exact Location.decode?_of_double whole absent

theorem location_of_encode (key : EntryKey) :
    Location.decode? key.encode = none := by
  apply Location.decode?_of_double _ (Text.colon_notMem_numeral key.entry)
  · exact key.file.toList
  · simp [encode]

/-- A written location is read as no key, also where its numbers do not fit into
a word or its file is not named. -/
theorem decode?_of_location (location : Location) :
    decode? location.encode = none := by
  apply Option.eq_none_iff_forall_ne_some.mpr
  intro key found
  obtain ⟨entryText, whole, absent⟩ := parts_of_decode? found
  have parts : (location.file.toList ++
        ':' :: (Text.numeral location.line).toList) ++
          ':' :: (Text.numeral location.column).toList =
      (key.file.toList ++ [':']) ++ ':' :: entryText := by
    rw [← Location.encode_toList, whole]
    simp
  obtain ⟨fronts, _⟩ := Text.parts_of_append_eq parts
    (Text.colon_notMem_numeral _) absent
  -- The line of the location would have to stand between the two colons.
  obtain ⟨_, lines⟩ := Text.parts_of_append_eq fronts
    (Text.colon_notMem_numeral _) (by simp)
  exact Text.numeral_ne_nil _ lines

end EntryKey

namespace Page

/-- What an element has under a name, if anything, is a written key. -/
def Document.HoldsKey (document : Document) (element : NodeId)
    (name : String) : Prop :=
  ∀ value ∈ document.attribute? element name,
    ∃ key : EntryKey, value = key.encode

/-- What an element has under a name, if anything, is a written location. -/
def Document.HoldsLocation (document : Document) (element : NodeId)
    (name : String) : Prop :=
  ∀ value ∈ document.attribute? element name,
    ∃ location : Location, value = location.encode

namespace Strategy

variable {document : Document} {element : NodeId}

theorem combined_of_holdsKey (registry : Option Registry)
    (holds : document.HoldsKey element Marker.combined) :
    location? document registry element .combined = none := by
  apply Option.bind_eq_none_iff.mpr
  intro value found
  obtain ⟨key, rfl⟩ := holds value found
  exact key.location_of_encode

theorem expressionKey_of_holdsLocation (registry : Option Registry)
    (holds : document.HoldsLocation element Marker.expressionKey) :
    location? document registry element .expressionKey = none := by
  apply Option.bind_eq_none_iff.mpr
  intro value found
  obtain ⟨location, rfl⟩ := holds value found
  apply Option.bind_eq_none_iff.mpr
  intro registry _
  simp [Registry.expressionLocation?, EntryKey.decode?_of_location]

theorem styledKey_of_holdsLocation (registry : Option Registry)
    (holds : document.HoldsLocation element Marker.styledKey) :
    location? document registry element .styledKey = none := by
  apply Option.bind_eq_none_iff.mpr
  intro value found
  obtain ⟨location, rfl⟩ := holds value found
  apply Option.bind_eq_none_iff.mpr
  intro registry _
  simp [Registry.styledLocation?, EntryKey.decode?_of_location]

end Strategy

/-- A location that is found is found in one of the ways that are tried, and in
none for which the element holds what is written in the other form. -/
theorem Resolver.way_of_location? {resolver : Resolver} {document : Document}
    {element : NodeId} {location : Location}
    (found : resolver.location? document element = some location) :
    ∃ strategy ∈ resolver.strategies,
      Strategy.location? document resolver.registry element strategy =
          some location ∧
        (document.HoldsKey element Marker.combined →
          strategy ≠ .combined) ∧
        (document.HoldsLocation element Marker.expressionKey →
          strategy ≠ .expressionKey) ∧
        (document.HoldsLocation element Marker.styledKey →
          strategy ≠ .styledKey) := by
  obtain ⟨strategy, tried, here⟩ := List.exists_of_findSome?_eq_some found
  refine ⟨strategy, tried, here, ?_, ?_, ?_⟩
  · rintro holds rfl
    simp [Strategy.combined_of_holdsKey _ holds] at here
  · rintro holds rfl
    simp [Strategy.expressionKey_of_holdsLocation _ holds] at here
  · rintro holds rfl
    simp [Strategy.styledKey_of_holdsLocation _ holds] at here

/-- The two written forms are told apart.  A key is read back and is never read
as a location, a location is never read as a key, and no text at all is read as
both.  So an element with a key in the place of its location has no location
there, and an element with a location in the place of a key names no entry of
any table; what is found for them is found in another way. -/
theorem forms_apart :
    (∀ key : EntryKey, key.file ≠ "" → key.entry < Text.wordBound →
      EntryKey.decode? key.encode = some key) ∧
    (∀ key : EntryKey, Location.decode? key.encode = none) ∧
    (∀ location : Location, EntryKey.decode? location.encode = none) ∧
    (∀ value, EntryKey.decode? value = none ∨
      Location.decode? value = none) ∧
    (∀ (document : Document) (registry : Option Registry) (element : NodeId),
      (document.HoldsKey element Marker.combined →
        Strategy.location? document registry element .combined = none) ∧
      (document.HoldsLocation element Marker.expressionKey →
        Strategy.location? document registry element .expressionKey = none) ∧
      (document.HoldsLocation element Marker.styledKey →
        Strategy.location? document registry element .styledKey = none)) ∧
    (∀ (resolver : Resolver) document element location,
      resolver.location? document element = some location →
        ∃ strategy ∈ resolver.strategies,
          Strategy.location? document resolver.registry element strategy =
              some location ∧
            (document.HoldsKey element Marker.combined →
              strategy ≠ .combined) ∧
            (document.HoldsLocation element Marker.expressionKey →
              strategy ≠ .expressionKey) ∧
            (document.HoldsLocation element Marker.styledKey →
              strategy ≠ .styledKey)) := by
  refine ⟨fun key => EntryKey.decode?_of_encode, EntryKey.location_of_encode,
    EntryKey.decode?_of_location, ?_, ?_,
    fun _ _ _ _ => Resolver.way_of_location?⟩
  · intro value
    cases found : EntryKey.decode? value with
    | none => exact .inl rfl
    | some key => exact .inr (EntryKey.decode?_of_key found)
  · intro document registry element
    exact ⟨Strategy.combined_of_holdsKey registry,
      Strategy.expressionKey_of_holdsLocation registry,
      Strategy.styledKey_of_holdsLocation registry⟩

/-- The name of a file that holds two colons and ends in one, and an element
that has a key of it in the place of its location and a location in it in the
place of both keys; what is found for that element stands in three
attributes. -/
theorem forms_apart_colons :
    let key : EntryKey := { file := "a::b:", entry := 3 }
    let inFile : Location := { file := "a::b:", line := 4, column := 5 }
    let split : Location := { file := "c.tsx", line := 6, column := 0 }
    let document : Document :=
      { nodes := [{
          kind := .element "p" [
            (Marker.combined, "a::b:::3"),
            (Marker.expressionKey, "a::b::4:5"),
            (Marker.styledKey, "a::b::4:5"),
            (Marker.splitFile, "c.tsx"), (Marker.splitLine, "6")]
          parent := none
          children := [] }] }
    let registry := Registry.empty.register (FileTable.forFile "a::b" none)
    let resolver := Resolver.plain.withRegistry registry
    key.encode = "a::b:::3" ∧ inFile.encode = "a::b::4:5" ∧
      key.file ≠ "" ∧ key.entry < Text.wordBound ∧
      EntryKey.decode? key.encode = some key ∧
      document.HoldsKey ⟨0⟩ Marker.combined ∧
      document.HoldsLocation ⟨0⟩ Marker.expressionKey ∧
      document.HoldsLocation ⟨0⟩ Marker.styledKey ∧
      Strategy.location? document registry ⟨0⟩ .combined = none ∧
      Strategy.location? document registry ⟨0⟩ .expressionKey = none ∧
      Strategy.location? document registry ⟨0⟩ .styledKey = none ∧
      resolver.location? document ⟨0⟩ = some split ∧
      ∃ strategy ∈ resolver.strategies,
        Strategy.location? document registry ⟨0⟩ strategy = some split ∧
          strategy ≠ .combined ∧ strategy ≠ .expressionKey ∧
          strategy ≠ .styledKey := by
  intro key inFile split document registry resolver
  have written : key.encode = "a::b:::3" := by decide +kernel
  have writtenIn : inFile.encode = "a::b::4:5" := by decide +kernel
  have named : key.file ≠ "" := by decide
  have fits : key.entry < Text.wordBound := by decide
  have holds : document.HoldsKey ⟨0⟩ Marker.combined := by
    intro value found
    have known : document.attribute? ⟨0⟩ Marker.combined = some "a::b:::3" := by
      decide +kernel
    exact ⟨key, (Option.some.inj (known.symm.trans found)).symm.trans
      written.symm⟩
  have holdsIn (name : String)
      (known : document.attribute? ⟨0⟩ name = some "a::b::4:5") :
      document.HoldsLocation ⟨0⟩ name := by
    intro value found
    exact ⟨inFile, (Option.some.inj (known.symm.trans found)).symm.trans
      writtenIn.symm⟩
  have expression := holdsIn Marker.expressionKey (by decide +kernel)
  have styled := holdsIn Marker.styledKey (by decide +kernel)
  have found : resolver.location? document ⟨0⟩ = some split := by
    decide +kernel
  obtain ⟨back, _, _, _, ways, resolves⟩ := forms_apart
  obtain ⟨combined, byExpression, byStyled⟩ := ways document registry ⟨0⟩
  obtain ⟨strategy, tried, here, notCombined, notExpression, notStyled⟩ :=
    resolves resolver document ⟨0⟩ split found
  exact ⟨written, writtenIn, named, fits, back key named fits, holds,
    expression, styled, combined holds, byExpression expression,
    byStyled styled, found, strategy, tried, here, notCombined holds,
    notExpression expression, notStyled styled⟩

end Page

end SourceMark
