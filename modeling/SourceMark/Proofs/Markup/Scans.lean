import SourceMark.Markup.Annotation
import SourceMark.Proofs.Template.Places
import SourceMark.Proofs.Text.Insertions

/-!
# What a scan for tags finds

The tags that a scan finds stand in the text one behind the other.  A further
attribute comes behind all of the inside of a tag but the slash that may end
it, so the places at which attributes are put in lie between characters and
come in order, and carrying them out is one pass over the text.
-/

namespace SourceMark

namespace Markup

/-! ## The places of insertions -/

/-- Insertions that lie behind a part of a text lie in what follows it. -/
theorem places_behind {later : List Insertion} {offset place : Nat}
    {before after : List Char}
    (here : place = offset + Text.byteLength before)
    (placed : ∀ insertion ∈ later, ∃ front back,
      before ++ after = front ++ back ∧
        insertion.offset = offset + Text.byteLength front)
    (beyond : ∀ insertion ∈ later, place ≤ insertion.offset) :
    ∀ insertion ∈ later, ∃ front back,
      after = front ++ back ∧
        insertion.offset = place + Text.byteLength front := by
  intro insertion member
  obtain ⟨front, back, whole, there⟩ := placed insertion member
  have behind := beyond insertion member
  rcases List.append_eq_append_iff.mp whole with
    ⟨between, rfl, rfl⟩ | ⟨between, rfl, rfl⟩
  · refine ⟨between, back, rfl, ?_⟩
    rw [there, here, Text.byteLength_append, Nat.add_assoc]
  · rw [Text.byteLength_append] at here
    obtain rfl : between = [] := Text.byteLength_eq_zero.mp (by omega)
    exact ⟨[], after, rfl, by simp [there, here, Text.byteLength]⟩

/-- Insertions that come in order between the characters of a text are carried
out in one pass. -/
theorem splice_eq_interleave {insertions : List Insertion} {offset : Nat}
    {text : List Char}
    (placed : ∀ insertion ∈ insertions, ∃ before after,
      text = before ++ after ∧
        insertion.offset = offset + Text.byteLength before)
    (ordered : insertions.Pairwise
      fun first second => first.offset ≤ second.offset) :
    splice offset text insertions =
      Insertion.interleave insertions offset text := by
  induction insertions generalizing offset text with
  | nil => rw [splice, Insertion.interleave_nil]
  | cons insertion insertions induction =>
      obtain ⟨before, after, rfl, place⟩ := placed insertion (by simp)
      obtain ⟨first, others⟩ := List.pairwise_cons.mp ordered
      have behind := places_behind place
        (fun other member => placed other (by simp [member])) first
      have cut : Text.cutAt? (before ++ after) (insertion.offset - offset) =
          some (before, after) := by
        rw [place, Nat.add_sub_cancel_left, Text.cutAt?_append]
      rw [Insertion.interleave_cons_of_cut after place.symm first]
      simp only [splice, cut, induction behind others, List.append_assoc]

/-! ## Tags -/

namespace OpeningTag

/-- The text of a tag. -/
def text (tag : OpeningTag) : List Char :=
  '<' :: (tag.name ++ (tag.inside ++ ['>']))

/-- The inside of a tag without the slash that may end it. -/
def unslashed (tag : OpeningTag) : List Char :=
  if tag.isSelfClosing then tag.inside.dropLast else tag.inside

/-- The characters behind the place for a further attribute. -/
def closing (tag : OpeningTag) : List Char :=
  Template.closing tag.isSelfClosing

/-- A tag as a scan finds it. -/
structure IsFound (tag : OpeningTag) : Prop where
  bracketless : '>' ∉ tag.inside
  begins : ∃ first ∈ tag.name.head?, isNameStart first = true
  continues : ∀ character ∈ tag.name.tail, isNameCharacter character = true

theorem unslashed_append_closing (tag : OpeningTag) :
    tag.unslashed ++ tag.closing = tag.inside ++ ['>'] := by
  unfold unslashed closing Template.closing
  split
  · next slash =>
      have last : tag.inside.getLast? = some '/' := by
        simpa [isSelfClosing] using slash
      obtain ⟨front, whole⟩ := List.getLast?_eq_some_iff.mp last
      simp [whole]
  · rfl

theorem text_eq (tag : OpeningTag) :
    tag.text = '<' :: (tag.name ++ (tag.unslashed ++ tag.closing)) := by
  rw [text, unslashed_append_closing]

theorem stop_eq (tag : OpeningTag) :
    tag.stop = tag.start + Text.byteLength tag.text := by
  have open_ : '<'.utf8Size = 1 := rfl
  have close : '>'.utf8Size = 1 := rfl
  simp only [stop, text, Text.byteLength, Text.byteLength_append, open_, close]
  omega

theorem attributeOffset_eq (tag : OpeningTag) :
    tag.attributeOffset = tag.start +
      Text.byteLength ('<' :: (tag.name ++ tag.unslashed)) := by
  have same := congrArg Text.byteLength tag.unslashed_append_closing
  have open_ : '<'.utf8Size = 1 := rfl
  have close : '>'.utf8Size = 1 := rfl
  have solidus : '/'.utf8Size = 1 := rfl
  simp only [attributeOffset, closing, Template.closing, Text.byteLength,
    Text.byteLength_append, open_] at same ⊢
  cases slash : tag.isSelfClosing with
  | true =>
      simp only [slash, if_true, Text.byteLength, close, solidus] at same ⊢
      omega
  | false =>
      simp only [slash, Bool.false_eq_true, if_false, Text.byteLength,
        close] at same ⊢
      omega

theorem attributeOffset_lt_stop (tag : OpeningTag) :
    tag.attributeOffset < tag.stop := by
  have positive : 0 < Text.byteLength tag.closing := by
    have close : '>'.utf8Size = 1 := rfl
    unfold closing Template.closing
    split
    · simp [Text.byteLength, close]
    · simp [Text.byteLength, close]
  rw [attributeOffset_eq, stop_eq, text_eq]
  simp only [Text.byteLength, Text.byteLength_append]
  omega

/-- A tag that is read stands in front of what follows it. -/
theorem isFound_of_read? {start : Nat} {rest later : List Char}
    {tag : OpeningTag} (found : read? start rest = some (tag, later)) :
    tag.start = start ∧ '<' :: rest = tag.text ++ later ∧ tag.IsFound := by
  cases rest with
  | nil => simp [read?] at found
  | cons first rest =>
      simp only [read?] at found
      split at found
      · next begins =>
          split at found
          · simp at found
          · next bracket others behind =>
              split at found
              · obtain ⟨rfl, rfl⟩ := by simpa using found
                have stopped := List.head?_dropWhile_not (· != '>')
                  (rest.dropWhile isNameCharacter)
                rw [behind] at stopped
                obtain rfl : bracket = '>' := by simpa using stopped
                have named := List.takeWhile_append_dropWhile
                  (p := isNameCharacter) (l := rest)
                have inner := List.takeWhile_append_dropWhile
                  (p := (· != '>')) (l := rest.dropWhile isNameCharacter)
                rw [behind] at inner
                refine ⟨rfl, ?_, ?_, ⟨first, rfl, begins⟩, ?_⟩
                · simp only [text, List.cons_append, List.append_assoc,
                    List.nil_append, inner, named]
                · intro member
                  have other := List.all_eq_true.mp List.all_takeWhile _ member
                  simp at other
                · intro character member
                  exact List.all_eq_true.mp List.all_takeWhile _ member
              · simp at found
      · simp at found

/-- Every tag that a scan finds stands in the text. -/
theorem mem_scan {offset : Nat} {source : List Char} {tag : OpeningTag}
    (member : tag ∈ scan offset source) :
    ∃ before after, source = before ++ (tag.text ++ after) ∧
      tag.start = offset + Text.byteLength before ∧ tag.IsFound := by
  have open_ : '<'.utf8Size = 1 := rfl
  fun_induction scan offset source with
  | case1 => simp at member
  | case2 offset rest first later found induction =>
      obtain ⟨start, whole, isFound⟩ := isFound_of_read? found
      rcases List.mem_cons.mp member with rfl | member
      · exact ⟨[], later, whole, by simp [start, Text.byteLength], isFound⟩
      · obtain ⟨before, after, rfl, place, others⟩ := induction member
        refine ⟨first.text ++ before, after, ?_, ?_, others⟩
        · rw [whole, List.append_assoc]
        · rw [place, stop_eq, start, Text.byteLength_append, Nat.add_assoc]
  | case3 offset rest missed induction =>
      obtain ⟨before, after, rfl, place, isFound⟩ := induction member
      refine ⟨'<' :: before, after, rfl, ?_, isFound⟩
      rw [place, Text.byteLength, open_, Nat.add_assoc]
  | case4 offset character rest other induction =>
      obtain ⟨before, after, rfl, place, isFound⟩ := induction member
      refine ⟨character :: before, after, rfl, ?_, isFound⟩
      rw [place, Text.byteLength, Nat.add_assoc]

/-- Tags come one behind the other. -/
theorem scan_pairwise (offset : Nat) (source : List Char) :
    (scan offset source).Pairwise
      fun first second => first.stop ≤ second.start := by
  fun_induction scan offset source with
  | case1 => exact List.Pairwise.nil
  | case2 offset rest first later found induction =>
      refine List.pairwise_cons.mpr ⟨?_, induction⟩
      intro other member
      obtain ⟨before, _, _, place, _⟩ := mem_scan member
      omega
  | case3 offset rest missed induction => exact induction
  | case4 offset character rest other induction => exact induction

end OpeningTag

end Markup

end SourceMark
