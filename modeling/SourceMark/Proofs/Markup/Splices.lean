import SourceMark.Proofs.Markup.Literals
import SourceMark.Proofs.Text.OnePass

/-!
# Two ways to put marks into a region

The marks of a region are put in while the region is copied from the front, one
piece of the file after the other.  Carrying out insertions from the back gives
the same text.  The marks come in order inside of the region and between its
characters, so every piece is one that the file has.
-/

namespace SourceMark

namespace Markup

/-- A file from one byte offset to another one, copied piece by piece with
insertions between the pieces; nothing when the file has no such piece. -/
def copyPieces? (source : List Char) (stop : Nat) :
    Nat → List Insertion → Option (List Char)
  | last, [] => Text.slice? source last stop
  | last, insertion :: later => do
      let piece ← Text.slice? source last insertion.offset
      let others ← copyPieces? source stop insertion.offset later
      return piece ++ insertion.text.toList ++ others

/-- Insertions that come in order between the characters of a region can be
carried out by copying. -/
theorem copyPieces?_eq_splice {insertions : List Insertion}
    {before region after : List Char}
    (placed : ∀ insertion ∈ insertions, ∃ front back,
      region = front ++ back ∧
        insertion.offset = Text.byteLength before + Text.byteLength front)
    (ordered : insertions.Pairwise
      fun first second => first.offset ≤ second.offset) :
    copyPieces? (before ++ (region ++ after))
        (Text.byteLength before + Text.byteLength region)
        (Text.byteLength before) insertions =
      some (splice (Text.byteLength before) region insertions) := by
  induction insertions generalizing before region with
  | nil => rw [copyPieces?, Text.slice?_append, splice]
  | cons insertion insertions induction =>
      obtain ⟨front, back, rfl, place⟩ := placed insertion (by simp)
      obtain ⟨first, others⟩ := List.pairwise_cons.mp ordered
      have here : Text.byteLength (before ++ front) = insertion.offset := by
        rw [place, Text.byteLength_append]
      have behind := places_behind place
        (fun other member => placed other (by simp [member])) first
      have piece := Text.slice?_append before front (back ++ after)
      rw [← place] at piece
      have further := @induction (before ++ front) back
        (here.symm ▸ behind) others
      rw [here, List.append_assoc] at further
      have stop : Text.byteLength before + Text.byteLength (front ++ back) =
          insertion.offset + Text.byteLength back := by
        rw [Text.byteLength_append, place, Nat.add_assoc]
      have cut : Text.cutAt? (front ++ back)
          (insertion.offset - Text.byteLength before) = some (front, back) := by
        rw [place, Nat.add_sub_cancel_left, Text.cutAt?_append]
      rw [List.append_assoc, stop, copyPieces?, piece, further]
      simp [splice, cut]

/-! ## Regions -/

/-- The tag's mark as an insertion into the text of a region. -/
def MarkedTag.insertionWithin (start : Nat) (tag : MarkedTag) : Insertion where
  offset := tag.insertAt - start
  text := Marker.attributeText Marker.combined tag.location

/-- Offsets may count from the start of the region. -/
theorem interleave_insertionWithin {start : Nat} {tags : List MarkedTag}
    (beyond : ∀ tag ∈ tags, start ≤ tag.insertAt) (region : List Char) :
    Insertion.interleave (tags.map (MarkedTag.insertionWithin start)) 0 region =
      Insertion.interleave (tags.map (MarkedTag.insertion .file)) start
        region := by
  have shifted : tags.map (MarkedTag.insertion .file) =
      (tags.map (MarkedTag.insertionWithin start)).map fun insertion =>
        { insertion with offset := start + insertion.offset } := by
    rw [List.map_map]
    apply List.map_congr_left
    intro tag member
    have := beyond tag member
    simp only [Function.comp, MarkedTag.insertionWithin, MarkedTag.insertion,
      Enclosing.write, Insertion.mk.injEq, and_true]
    omega
  have same := Insertion.interleave_shift start
    (tags.map (MarkedTag.insertionWithin start)) 0 region
  rw [Nat.add_zero, ← shifted] at same
  exact same.symm

theorem insertion_markedTags (options : FileOptions) (source : List Char)
    (start : Nat) (region : List Char) :
    (markedTags (LineIndex.ofText source) options start region).map
        (MarkedTag.insertion .file) =
      ((OpeningTag.scan start region).filter (isEligible options)).map
        (OpeningTag.mark options.filename source) := by
  rw [markedTags, List.map_map]
  rfl

theorem lt_insertAt_of_mem {options : FileOptions} {index : LineIndex}
    {start : Nat} {region : List Char} {tag : MarkedTag}
    (member : tag ∈ markedTags index options start region) :
    start < tag.insertAt := by
  obtain ⟨opening, eligible, rfl⟩ := List.mem_map.mp member
  obtain ⟨before, after, -, place, -⟩ :=
    OpeningTag.mem_scan (List.mem_filter.mp eligible).1
  have behind := opening.attributeOffset_eq
  have bracket : '<'.utf8Size = 1 := rfl
  simp only [Text.byteLength, bracket] at behind
  simp only [markedTag]
  omega

/-- How the tags of a region stand in the file, and what becomes of it. -/
structure SplicesAgree (source : List Char) (start stop : Nat)
    (region : List Char) (tags : List MarkedTag) : Prop where
  /-- Copying from the front and inserting from the back give one text. -/
  agree : splice start region (tags.map (MarkedTag.insertion .file)) =
    Insertion.applyAll region (tags.map (MarkedTag.insertionWithin start))
  /-- Every piece that is copied is a piece of the file. -/
  copied : copyPieces? source stop start
      (tags.map (MarkedTag.insertion .file)) =
    some (splice start region (tags.map (MarkedTag.insertion .file)))
  ordered : tags.Pairwise fun first second => first.insertAt < second.insertAt
  inside : ∀ tag ∈ tags, start < tag.insertAt ∧ tag.insertAt < stop
  boundary : ∀ tag ∈ tags, Text.isBoundary source tag.insertAt = true

/-- Copying goes through for the tags of every region of a file, and it gives
what inserting gives. -/
theorem splicesAgree_of_region (options : FileOptions)
    {source region : List Char} {start stop : Nat}
    (slice : Text.slice? source start stop = some region) :
    SplicesAgree source start stop region
      (markedTags (LineIndex.ofText source) options start region) := by
  obtain ⟨before, after, whole, place, length⟩ :=
    Text.eq_append_of_slice? slice
  have found := OpeningTag.placed_of_scan options.filename source
    (isEligible options) start region
  rw [← insertion_markedTags] at found
  have beyond : ∀ tag ∈ markedTags (LineIndex.ofText source) options start
      region, start < tag.insertAt := fun _ => lt_insertAt_of_mem
  generalize markedTags (LineIndex.ofText source) options start region = tags
    at found beyond
  have placed : ∀ insertion ∈ tags.map (MarkedTag.insertion .file),
      ∃ front back, region = front ++ back ∧
        insertion.offset = start + Text.byteLength front :=
    fun _ => found.place_of_mem
  have ordered := found.pairwise
  have weakly : (tags.map (MarkedTag.insertion .file)).Pairwise
      fun first second => first.offset ≤ second.offset :=
    ordered.imp fun earlier => Nat.le_of_lt earlier
  constructor
  · rw [splice_eq_interleave placed weakly, Insertion.applyAll_eq_interleave,
      interleave_insertionWithin fun tag member =>
        Nat.le_of_lt (beyond tag member)]
  · rw [whole, ← length, ← place]
    exact copyPieces?_eq_splice (place ▸ placed) weakly
  · rwa [List.pairwise_map] at ordered
  · intro tag member
    refine ⟨beyond tag member, ?_⟩
    rw [← length]
    exact found.lt_of_mem (List.mem_map_of_mem member)
  · intro tag member
    obtain ⟨front, back, split, there⟩ :=
      placed _ (List.mem_map_of_mem member)
    refine Text.isBoundary_iff.mpr ⟨before ++ front, back ++ after, ?_, ?_⟩
    · rw [whole, split]
      simp
    · rw [Text.byteLength_append, place]
      exact there.symm

/-- A region between two accents, with a tag that ends itself. -/
theorem splicesAgree_of_region_accents :
    let options : FileOptions := { filename := "é.html", ignored := [] }
    let source := "é<i><b é/>é<u>é</u>".toList
    let region := "<b é/>é<u>é".toList
    let tags := markedTags (LineIndex.ofText source) options 5 region
    Text.slice? source 5 19 = some region ∧
      tags.map MarkedTag.insertAt = [10, 16] ∧
      SplicesAgree source 5 19 region tags := by
  intro options source region tags
  have slice : Text.slice? source 5 19 = some region := by decide
  have offsets : tags.map MarkedTag.insertAt = [10, 16] := by decide +kernel
  exact ⟨slice, offsets, splicesAgree_of_region options slice⟩

end Markup

end SourceMark
