import Mathlib.Data.List.Forall2
import SourceMark.Proofs.Evaluation
import SourceMark.Proofs.Markup.Literals
import SourceMark.Proofs.Text.Positions

/-!
# Scripts of components

Marking the script of a component rewrites the bodies of its inline templates
and nothing else.  Each of them stays the same literal: between its quotes it
says what it said, with one mark for each eligible tag, and the marks count
lines and columns in the script as it was given.
-/

namespace SourceMark

namespace Markup

open SourceMark.Markup.Symbol

namespace Literal

/-- A tag of a literal, and its mark as it comes into what the literal says: in
front of what closes the tag, with the position of the tag in the script.  The
tag starts where it stands in the body, so that another tag with the same text is
not meant. -/
inductive MarksTag (filename : String) (source : List Char)
    (literal : Literal) (tag : OpeningTag) : Insertion → Prop where
  | closing {before after front back lead : List Char} :
      source = front ++ (tag.text ++ back) →
      tag.start = Text.byteLength front →
      literal.body = before ++ (tag.text ++ after) →
      tag.start = literal.start + Text.byteLength before →
      lead = said (ofText (before ++ '<' :: (tag.name ++ tag.unslashed))) →
      withoutEscapes literal.body =
        lead ++ (tag.closing ++ withoutEscapes after) →
      MarksTag filename source literal tag
        { offset := Text.byteLength lead
          text := Marker.attributeText Marker.combined
            (Location.ofPosition filename (Position.behind front)) }

/-- A literal that is still the same one when its script has been marked. -/
structure IsKept (options : FileOptions) (source : List Char)
    (literal : Literal) : Prop where
  quoteless : Quoteless literal.quote (ofText (literal.marked options source))
  settled : dangles (literal.marked options source) = false
  closes : ∀ rest, body? literal.quote
    (literal.marked options source ++ literal.quote :: rest) =
      some (literal.marked options source, rest)
  meaning : ∃ marks,
    List.Forall₂ (literal.MarksTag options.filename source)
      (literal.tags options) marks ∧
    withoutEscapes (literal.marked options source) =
      Insertion.interleave marks 0 (withoutEscapes literal.body)
  substitutions : literal.quote = '\x60' →
    substitutions literal.start (ofText (literal.marked options source)) =
      (substitutions literal.start (ofText literal.body)).map
        (Insertion.moved
          (literalInsertions (LineIndex.ofText source) options literal))

section Script

variable {options : FileOptions} {source : List Char} {literal : Literal}

/-- What a literal says has the closing of a tag behind what it says in front
of it. -/
theorem said_closing {before after : List Char} (tag : OpeningTag)
    (settled : dangles (before ++ (tag.closing ++ after)) = false) :
    withoutEscapes (before ++ (tag.closing ++ after)) =
      said (ofText before) ++ (tag.closing ++ withoutEscapes after) := by
  have bracket : '>' ≠ '\\' := by decide
  have slash : '/' ≠ '\\' := by decide
  cases closed : tag.isSelfClosing with
  | true =>
      have text : tag.closing = ['/', '>'] := by
        simp [OpeningTag.closing, Template.closing, closed]
      rw [text, List.cons_append, List.singleton_append] at settled ⊢
      have ends : dangles after = false := by
        rwa [dangles_append slash, dangles_plain bracket] at settled
      rw [← said_ofText settled, ← said_ofText ends, ofText_append slash,
        ofText_plain bracket]
      simp
  | false =>
      have text : tag.closing = ['>'] := by
        simp [OpeningTag.closing, Template.closing, closed]
      rw [text, List.singleton_append] at settled ⊢
      have ends : dangles after = false := by
        rwa [dangles_append bracket] at settled
      rw [← said_ofText settled, ← said_ofText ends, ofText_append bracket]
      simp

theorem marksTag_of_mem (found : literal ∈ scan 0 source) {tag : OpeningTag}
    (member : tag ∈ literal.tags options) :
    literal.MarksTag options.filename source tag
      (saidMark literal.body literal.start 0
        (tag.mark options.filename source)) := by
  obtain ⟨_, _, settled, lead, rest, script, start⟩ := mem_scan found
  obtain ⟨before, after, body, place, _⟩ :=
    OpeningTag.mem_scan (List.mem_filter.mp member).1
  let name := '<' :: (tag.name ++ tag.unslashed)
  have split : literal.body = before ++ name ++ (tag.closing ++ after) := by
    rw [body, OpeningTag.text_eq]
    simp [name]
  have whole : source = lead ++ before ++ (tag.text ++ (after ++ rest)) := by
    rw [script, body]
    simp
  have there : tag.start = Text.byteLength (lead ++ before) := by
    rw [place, start, Text.byteLength_append, Nat.zero_add]
  have said : withoutEscapes literal.body = said (ofText (before ++ name)) ++
      (tag.closing ++ withoutEscapes after) := by
    rw [split] at settled ⊢
    exact said_closing tag settled
  have mark : saidMark literal.body literal.start 0
        (tag.mark options.filename source) =
      { offset := Text.byteLength (Symbol.said (ofText (before ++ name)))
        text := Marker.attributeText Marker.combined
          (Location.ofPosition options.filename
            (Position.behind (lead ++ before))) } := by
    have offset : tag.attributeOffset - literal.start =
        Text.byteLength (before ++ name) := by
      rw [OpeningTag.attributeOffset_eq, place, Text.byteLength_append,
        Nat.add_assoc, Nat.add_sub_cancel_left]
    have position : (LineIndex.ofText source).location tag.start =
        Position.behind (lead ++ before) := by
      rw [there, whole, LineIndex.location_byteLength]
    simp only [saidMark, OpeningTag.mark, OpeningTag.location, offset, position,
      Nat.zero_add]
    rw [split, saidLength_append]
  rw [mark]
  exact .closing whole there body place rfl said

theorem quoteless_marked (options : FileOptions) (source : List Char)
    (quoted : isQuote literal.quote = true)
    (quoteless : Quoteless literal.quote (ofText literal.body)) :
    Quoteless literal.quote (ofText (literal.marked options source)) := by
  rw [marked_eq_grown]
  exact quoteless_grown quoted (literal.placed_marks options source) quoteless

theorem settled_marked (options : FileOptions) (source : List Char)
    (settled : dangles literal.body = false) :
    dangles (literal.marked options source) = false := by
  rw [marked_eq_grown, dangles_grown (literal.placed_marks options source),
    settled]

theorem isKept_of_mem_scan (options : FileOptions)
    (found : literal ∈ scan 0 source) : literal.IsKept options source := by
  obtain ⟨quoted, quoteless, settled, _⟩ := mem_scan found
  have placed := literal.placed_marks options source
  have solid := (ne_of_isQuote quoted).1
  have grows := marked_eq_grown options source literal
  have keepsQuotes := quoteless_marked options source quoted quoteless
  have staysSettled := settled_marked options source settled
  constructor
  · exact keepsQuotes
  · exact staysSettled
  · intro rest
    exact body?_of_settled solid keepsQuotes staysSettled rest
  · refine ⟨(literal.marks options source).map
      (saidMark literal.body literal.start 0), ?_, ?_⟩
    · rw [marks, List.map_map, List.forall₂_map_right_iff, List.forall₂_same]
      intro tag member
      exact marksTag_of_mem found member
    · rw [← said_ofText staysSettled, ← said_ofText settled, grows]
      exact said_grown quoted placed 0
  · intro backtick
    rw [grows, literalInsertions_eq, backtick]
    exact substitutions_grown placed

end Script

end Literal

/-- A script and the same script with the bodies of its literals marked. -/
structure KeepsLiterals (options : FileOptions) (source out : List Char) :
    Prop where
  outside : Literal.RewritesBodies (Literal.marked options source) 0
    (Literal.scan 0 source) source out
  inside : ∀ literal ∈ Literal.scan 0 source, literal.IsKept options source

/-- Marking a script is one pass over it. -/
theorem interleave_of_annotateComponent {options : FileOptions}
    {source out : String}
    (done : annotateComponent source options = .ok (some out)) :
    out.toList = Insertion.interleave
      (componentInsertions source.toList options) 0 source.toList := by
  rw [toList_of_insertAll done]
  apply splice_eq_interleave
  · intro insertion member
    obtain ⟨literal, found, inside⟩ := List.mem_flatMap.mp member
    rw [Literal.literalInsertions_eq] at inside
    obtain ⟨mark, marks, rfl⟩ := List.mem_map.mp inside
    obtain ⟨_, _, _, lead, rest, script, start⟩ := Literal.mem_scan found
    obtain ⟨before, after, body, place⟩ :=
      (literal.placed_marks options source.toList).place_of_mem marks
    refine ⟨lead ++ before, after ++ rest, ?_, ?_⟩
    · rw [script, body]
      simp
    · rw [writtenMark, Text.byteLength_append, place, start]
      omega
  · rw [componentInsertions, List.pairwise_flatMap]
    constructor
    · intro literal _
      rw [Literal.literalInsertions_eq, List.pairwise_map]
      have placed := literal.placed_marks options source.toList
      exact placed.pairwise.imp fun before => Nat.le_of_lt before
    · apply (Literal.scan_pairwise 0 source.toList).imp
      intro first second behind insertion mine other further
      have ends := (Literal.bounds_of_mem options source.toList mine).2
      have begins := (Literal.bounds_of_mem options source.toList further).1
      omega

theorem keepsLiterals_of_annotateComponent {options : FileOptions}
    {source out : String}
    (done : annotateComponent source options = .ok (some out)) :
    KeepsLiterals options source.toList out.toList := by
  constructor
  · rw [interleave_of_annotateComponent done]
    exact Literal.rewritesBodies_scan options source.toList 0 source.toList
  · intro literal found
    exact Literal.isKept_of_mem_scan options found

/-- Two literals in a file whose name has to be escaped in both.  The first
mark comes behind the backslash in front of a bracket. -/
theorem keepsLiterals_pair :
    let options : FileOptions :=
      { filename := "a\\$\x7b'\x60.ts", ignored := [] }
    let source := "template: \x60<p a\\>$\x7bb\x7d</p>\n<br/>\x60," ++
      "template: '<i>it\\'s</i>'"
    let out := "template: \x60<p a\\ data-locatorjs=" ++
      "\"a\\\\\\$\x7b'\\\x60.ts:1:11\">$\x7bb\x7d</p>\n" ++
      "<br data-locatorjs=\"a\\\\\\$\x7b'\\\x60.ts:2:0\"/>\x60," ++
      "template: '<i data-locatorjs=" ++
      "\"a\\\\$\x7b\\'\x60.ts:2:18\">it\\'s</i>'"
    annotateComponent source options = .ok (some out) ∧
      KeepsLiterals options source.toList out.toList := by
  intro options source out
  have done : annotateComponent source options = .ok (some out) :=
    eq_ok_of_toOption (by decide +kernel)
  exact ⟨done, keepsLiterals_of_annotateComponent done⟩

end Markup

end SourceMark
