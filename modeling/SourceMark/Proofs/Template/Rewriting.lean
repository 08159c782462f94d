import SourceMark.Proofs.Template.Tokens
import SourceMark.Proofs.Text.Insertions

/-!
# Tokens of a marked text

Marks are put in behind the names of tags.  The marked text has the tokens of
the text that it was made from, except that every marked tag has one more
attribute in front of its own.
-/

namespace SourceMark

namespace Template

/-- A token and the offset at which it starts. -/
abbrev Entry : Type := Nat × Token

/-- No token is a fault. -/
def AreSound (entries : List Entry) : Prop :=
  ∀ entry ∈ entries, ∀ fault, entry.2 ≠ .fault fault

theorem tokens_cons {first : Char} {rest : List Char} {offset : Nat}
    {token : Token} {behind : Cursor}
    (taken : step first rest offset = (token, behind)) :
    tokens offset (first :: rest) =
      (offset, token) :: tokens behind.offset behind.rest := by
  rw [tokens, taken]

/-- What holds of the empty text, and of a text when it holds of the text
behind its first token, holds of every text without a fault. -/
theorem sound_induction
    {motive : ∀ offset text, AreSound (tokens offset text) → Prop}
    (nil : ∀ offset sound, motive offset [] sound)
    (cons : ∀ first rest offset sound token behind front back later,
      step first rest offset = (token, behind) →
      Cursor.Reaches { rest := first :: rest, offset }
        (first :: (front ++ back)) behind →
      token.ReadsAs first front back behind.rest.head? →
      motive behind.offset behind.rest later →
      motive offset (first :: rest) sound)
    (offset : Nat) (text : List Char) (sound : AreSound (tokens offset text)) :
    motive offset text sound := by
  match text with
  | [] => exact nil offset sound
  | first :: rest =>
      cases taken : step first rest offset with
      | mk token behind =>
          have shorter : behind.rest.length ≤ rest.length := by
            have bound := length_step first rest offset
            rwa [taken] at bound
          have both := sound
          rw [tokens_cons taken] at both
          have here : ∀ fault, token ≠ .fault fault :=
            both (offset, token) (by simp)
          have later : AreSound (tokens behind.offset behind.rest) :=
            fun entry member => both entry (by simp [member])
          obtain ⟨front, back, reaches, reads⟩ := reads_step taken here
          exact cons first rest offset sound token behind front back later taken
            reaches reads
            (sound_induction nil cons behind.offset behind.rest later)
termination_by text.length
decreasing_by
  simp only [List.length_cons]
  omega

/-- The tags that tokens open, with their offsets. -/
def tagsOf (entries : List Entry) : List (Nat × OpenTag) :=
  entries.filterMap fun entry => entry.2.tag?.map fun tag => (entry.1, tag)

theorem tagsOf_cons (offset : Nat) (token : Token) (entries : List Entry) :
    tagsOf ((offset, token) :: entries) =
      (token.tag?.map fun tag => (offset, tag)).toList ++ tagsOf entries := by
  cases given : token.tag? with
  | none => simp [tagsOf, given]
  | some tag => simp [tagsOf, given]

/-- Every tag stands at its offset. -/
theorem tag_at_offset {offset : Nat} {text : List Char}
    (sound : AreSound (tokens offset text)) :
    ∀ entry ∈ tagsOf (tokens offset text), ∃ before after,
      text = before ++ '<' :: (entry.2.name.toList ++ after) ∧
        entry.1 = offset + Text.byteLength before := by
  induction offset, text, sound using sound_induction with
  | nil offset sound => simp [tokens, tagsOf]
  | cons first rest offset sound token behind front back later taken reaches
      reads induction =>
      have whole : first :: rest = first :: (front ++ back) ++ behind.rest :=
        reaches.rest
      intro entry member
      rw [tokens_cons taken, tagsOf_cons, List.mem_append,
        Option.mem_toList, Option.map_eq_some_iff] at member
      rcases member with ⟨tag, given, rfl⟩ | member
      · obtain ⟨rfl, rfl⟩ := reads.named tag given
        exact ⟨[], back ++ behind.rest, by simpa using whole,
          by simp [Text.byteLength]⟩
      · obtain ⟨before, after, text, place⟩ := induction entry member
        refine ⟨first :: (front ++ back) ++ before, after, ?_, ?_⟩
        · rw [whole, text, List.append_assoc]
        · rw [place, reaches.offset, Text.byteLength_append, Nat.add_assoc]

/-- All attributes of the tags stand in the text. -/
theorem isAdded_of_tag {offset : Nat} {text : List Char}
    (sound : AreSound (tokens offset text)) :
    ∀ entry ∈ tagsOf (tokens offset text), ∀ given ∈ entry.2.attributes,
      given.isAdded = false := by
  induction offset, text, sound using sound_induction with
  | nil offset sound => simp [tokens, tagsOf]
  | cons first rest offset sound token behind front back later taken reaches
      reads induction =>
      intro entry member
      rw [tokens_cons taken, tagsOf_cons, List.mem_append,
        Option.mem_toList, Option.map_eq_some_iff] at member
      rcases member with ⟨tag, given, rfl⟩ | member
      · exact reads.parsed tag given
      · exact induction entry member

theorem le_offset_of_tag {offset : Nat} {text : List Char}
    (sound : AreSound (tokens offset text)) {entry : Nat × OpenTag}
    (member : entry ∈ tagsOf (tokens offset text)) : offset ≤ entry.1 := by
  obtain ⟨before, after, _, place⟩ := tag_at_offset sound entry member
  omega

/-- Tags come in the order of their offsets. -/
theorem tags_pairwise {offset : Nat} {text : List Char}
    (sound : AreSound (tokens offset text)) :
    (tagsOf (tokens offset text)).Pairwise
      fun first second => first.1 < second.1 := by
  induction offset, text, sound using sound_induction with
  | nil offset sound => simp [tokens, tagsOf]
  | cons first rest offset sound token behind front back later taken reaches
      reads induction =>
      rw [tokens_cons taken, tagsOf_cons, List.pairwise_append]
      refine ⟨?_, induction, ?_⟩
      · cases token.tag? with
        | none => simp
        | some tag => simp
      · intro entry member other further
        rw [Option.mem_toList, Option.map_eq_some_iff] at member
        obtain ⟨tag, _, rfl⟩ := member
        have beyond := le_offset_of_tag later further
        have start := reaches.offset
        have wide := first.utf8Size_pos
        simp only [Text.byteLength] at start
        omega

/-! ## Marks -/

/-- The location that each tag is to be marked with, if any. -/
abbrev Marking : Type := Nat → OpenTag → Option Location

namespace Marking

/-- What is put into a tag. -/
def addition (marking : Marking) (offset : Nat) (token : Token) : Addition :=
  match token.tag?.bind (marking offset) with
  | some location => .mark location
  | none => .none

/-- The insertion for a tag: a mark behind its name. -/
def insertion? (marking : Marking) (entry : Nat × OpenTag) :
    Option Insertion :=
  (marking entry.1 entry.2).map fun location => {
    offset := entry.1 + 1 + Text.byteLength entry.2.name.toList
    text := Marker.attributeText Marker.combined location }

/-- The insertions for the tags of some tokens. -/
def insertions (marking : Marking) (entries : List Entry) : List Insertion :=
  (tagsOf entries).filterMap marking.insertion?

variable {marking : Marking}

theorem insertions_cons (offset : Nat) (token : Token) (entries : List Entry) :
    marking.insertions ((offset, token) :: entries) =
      (token.tag?.bind fun tag => marking.insertion? (offset, tag)).toList ++
        marking.insertions entries := by
  rw [insertions, tagsOf_cons, List.filterMap_append]
  cases token.tag? with
  | none => rfl
  | some tag =>
      cases written : marking.insertion? (offset, tag) with
      | none => simp [written, insertions]
      | some insertion => simp [written, insertions]

theorem lt_offset_of_insertion {offset : Nat} {text : List Char}
    (sound : AreSound (tokens offset text)) :
    ∀ insertion ∈ marking.insertions (tokens offset text),
      offset < insertion.offset := by
  intro insertion member
  obtain ⟨entry, inside, written⟩ := List.mem_filterMap.mp member
  have beyond := le_offset_of_tag sound inside
  simp only [insertion?, Option.map_eq_some_iff] at written
  obtain ⟨location, _, rfl⟩ := written
  simp only
  omega

/-- One token of a marked text, and what follows it. -/
theorem interleave_cons {first : Char} {rest front back : List Char}
    {offset : Nat} {token : Token} {behind : Cursor}
    (taken : step first rest offset = (token, behind))
    (reaches : Cursor.Reaches { rest := first :: rest, offset }
      (first :: (front ++ back)) behind)
    (reads : token.ReadsAs first front back behind.rest.head?)
    (later : AreSound (tokens behind.offset behind.rest)) :
    Insertion.interleave (marking.insertions (tokens offset (first :: rest)))
        offset (first :: rest) =
      first :: (front ++ ((marking.addition offset token).text ++ (back ++
        Insertion.interleave
          (marking.insertions (tokens behind.offset behind.rest))
          behind.offset behind.rest))) := by
  have whole : first :: rest = first :: (front ++ back) ++ behind.rest :=
    reaches.rest
  have place := reaches.offset
  have beyond : ∀ insertion ∈
      marking.insertions (tokens behind.offset behind.rest),
      behind.offset < insertion.offset := lt_offset_of_insertion later
  have unmarked : Insertion.interleave
      (marking.insertions (tokens behind.offset behind.rest)) offset
      (first :: rest) =
      first :: (front ++ (back ++ Insertion.interleave
        (marking.insertions (tokens behind.offset behind.rest))
        behind.offset behind.rest)) := by
    rw [whole, Insertion.interleave_skip, ← place]
    · simp
    · intro insertion member
      rw [← place]
      exact Nat.le_of_lt (beyond insertion member)
  rw [tokens_cons taken, insertions_cons]
  cases given : token.tag? with
  | none => simpa [addition, given] using unmarked
  | some tag =>
      cases chosen : marking offset tag with
      | none => simpa [addition, insertion?, given, chosen] using unmarked
      | some location =>
          obtain ⟨rfl, rfl⟩ := reads.named tag given
          have written : marking.insertion? (offset, tag) = some {
              offset := offset + 1 + Text.byteLength tag.name.toList
              text := Marker.attributeText Marker.combined location } := by
            simp [insertion?, chosen]
          have marked : marking.addition offset token = .mark location := by
            simp [addition, given, chosen]
          simp only [Text.byteLength, Text.byteLength_append] at place
          have wide : '<'.utf8Size = 1 := rfl
          have split : '<' :: rest =
              ('<' :: tag.name.toList) ++ (back ++ behind.rest) := by
            rw [whole]
            simp
          rw [Option.bind_some, written, marked, split, Option.toList_some,
            List.singleton_append, Insertion.interleave_cons_of_cut,
            Insertion.interleave_skip]
          · have reached : offset + 1 + Text.byteLength tag.name.toList +
                Text.byteLength back = behind.offset := by omega
            simp [Addition.mark, reached]
          · intro insertion member
            have := beyond insertion member
            simp only
            omega
          · simp only [Text.byteLength, wide]
            omega
          · intro insertion member
            have := beyond insertion member
            simp only
            omega

/-- The tokens of a marked text are the tokens of the text with the marks added
to them. -/
theorem tokens_interleave (marking : Marking) {offset : Nat}
    {text : List Char} (sound : AreSound (tokens offset text)) (start : Nat) :
    (tokens start (Insertion.interleave
        (marking.insertions (tokens offset text)) offset text)).map Prod.snd =
      (tokens offset text).map fun entry =>
        entry.2.adding (marking.addition entry.1 entry.2) := by
  induction offset, text, sound using sound_induction generalizing start with
  | nil offset sound =>
      simp [tokens, insertions, tagsOf, Insertion.interleave,
        Insertion.textsAt]
  | cons first rest offset sound token behind front back later taken reaches
      reads induction =>
      have beyond : ∀ insertion ∈
          marking.insertions (tokens behind.offset behind.rest),
          behind.offset < insertion.offset := lt_offset_of_insertion later
      have alike := Insertion.head?_interleave behind.rest beyond
      have untagged : token.tag? = none →
          marking.addition offset token = .none := by
        intro given
        simp [addition, given]
      have again := reads.again _ untagged _ start alike
      rw [interleave_cons taken reaches reads later, tokens_cons again,
        tokens_cons taken, List.map_cons, List.map_cons, induction]

end Marking

end Template

end SourceMark
