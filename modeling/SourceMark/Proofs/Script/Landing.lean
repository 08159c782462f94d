import SourceMark.Proofs.Evaluation
import SourceMark.Proofs.Script.Modes
import SourceMark.Proofs.Script.Rules.Statements

/-!
# Where the marks of a script land

A mark is put in at an offset that the tree of the script holds.  The tree is
that of the text behind the byte order mark, while the mark is put into the
text as it was given.  Without a byte order mark these are the same text, and
every mark lands behind the name or the type arguments of its element; behind a
byte order mark every one comes three bytes too early.
-/

namespace SourceMark

namespace Script

open Cursor

/-! ## Byte order marks -/

/-- The byte order mark at the start of a text, where there is one. -/
def orderMark : List Char → List Char
  | '\ufeff' :: _ => ['\ufeff']
  | _ => []

/-- A text behind its byte order mark. -/
def behindOrderMark : List Char → List Char
  | '\ufeff' :: rest => rest
  | other => other

theorem orderMark_append (source : List Char) :
    orderMark source ++ behindOrderMark source = source := by
  unfold orderMark behindOrderMark
  split
  · rfl
  · rfl

theorem readModule_of_readScript {filename : String} {source : List Char}
    {nodes : List Node} (read : readScript filename source = .ok nodes) :
    readModule (Dialect.ofFilename filename) (behindOrderMark source) =
      .ok nodes := by
  unfold readScript at read
  extract_lets text at read
  have same : text = behindOrderMark source := rfl
  split at read
  · next found =>
      obtain rfl := by simpa using read
      rw [← same, found]
  · simp at read
  · simp at read

/-! ## Opening tags in a text -/

/-- An opening tag stands in a text: `early` and `skipped` are in front of its
bracket, and `tag` goes from the bracket to the end of the name or, where there
are type arguments, to their end.  What is skipped is nothing or begins with a
line that no comment opens and that is passed over like one; such a line counts
as the start of the tag. -/
structure Opening.StandsIn (opening : Opening)
    (text early skipped tag : List Char) : Prop where
  parts : ∃ bracket name types close : Cursor,
    Reaches (.ofText text) (early ++ skipped) bracket ∧
    bracket.rest.head? = some '<' ∧
    NameBetween (bracket.skip 1) opening.name name ∧
    (AnglesBetween name types ∨
      types = name ∧ name.lexeme.place.rest.head? ≠ some '<') ∧
    Reaches bracket tag types ∧
    close.Follows types ∧ close.rest.head? = some '>'
  skips : skipped = [] ∨ ∃ after,
    text = early ++ skipped ++ tag ++ after ∧
    skipsLine true (skipped ++ tag ++ after) = true
  start : opening.extent.start = Text.byteLength early
  stop : Marking.markOffset opening =
    Text.byteLength (early ++ skipped ++ tag)

/-- The offsets of an opening tag are those of its parts. -/
theorem Opening.LiesBehind.standsIn {text : List Char} {opening : Opening}
    (lies : opening.LiesBehind (.ofText text)) :
    ∃ early skipped tag, opening.StandsIn text early skipped tag := by
  obtain ⟨first, name, types, close, behind, lies⟩ := lies
  obtain ⟨tag, inside⟩ := lies.follows_bracket
  have typed : AnglesBetween name types ∨
      types = name ∧ name.lexeme.place.rest.head? ≠ some '<' := by
    have typed := lies.typed
    cases stop : opening.typeArgumentsStop with
    | none =>
        rw [stop] at typed
        exact .inr typed
    | some offset =>
        rw [stop] at typed
        exact .inl typed.1
  have from_start {before : List Char} {cursor : Cursor}
      (reached : Reaches (.ofText text) before cursor) :
      cursor.offset = Text.byteLength before :=
    reached.offset.trans (Nat.zero_add _)
  rcases first.start_lexeme with here | ⟨line, later, skipping, there, skips⟩
  · obtain ⟨early, reached⟩ := first.follows_lexeme_place.trans behind
    have whole := reached.trans inside
    refine ⟨early, [], tag, ?_, .inl rfl, ?_, ?_⟩
    · rw [List.append_nil]
      exact ⟨_, name, types, close, reached, lies.bracket, lies.named, typed,
        inside, lies.inside, lies.closes⟩
    · rw [lies.start, here, from_start reached]
    · rw [List.append_nil, ← lies.offset_types, from_start whole]
  · obtain ⟨early, reached⟩ := later.trans behind
    obtain ⟨skipped, passed⟩ := skipping
    have whole := (reached.trans passed).trans inside
    refine ⟨early, skipped, tag, ?_, .inr ⟨types.rest, whole.rest, ?_⟩, ?_, ?_⟩
    · exact ⟨_, name, types, close, reached.trans passed, lies.bracket,
        lies.named, typed, inside, lies.inside, lies.closes⟩
    · rw [← (passed.trans inside).rest]
      exact skips
    · rw [lies.start, there, from_start reached]
    · rw [← lies.offset_types, from_start whole]

/-- Nowhere in a text does anything stand that is passed over like a line and
that no comment opens. -/
def SkipsNoLine (text : List Char) : Prop :=
  ∀ after, after <:+ text → skipsLine true after = false

theorem skipsLine_true_iff {text : List Char} :
    skipsLine true text = true ↔
      ∃ opening ∈ markupComment :: lineOpenings, opening <+: text := by
  have listed : (∃ opening ∈ markupComment :: lineOpenings, opening <+: text) ↔
      (markupComment.isPrefixOf text ||
        lineOpenings.any fun opening => opening.isPrefixOf text) = true := by
    simp [List.isPrefixOf_iff_prefix]
  rw [listed]
  unfold skipsLine
  split
  · rfl
  · rfl
  · rfl
  · rfl
  · next less dash equals greater =>
      -- All openings begin with one of the four characters.
      cases text with
      | nil => decide
      | cons first rest =>
          have noLess : '<' ≠ first := fun same => less rest (same ▸ rfl)
          have noDash : '-' ≠ first := fun same => dash rest (same ▸ rfl)
          have noEquals : '=' ≠ first := fun same => equals rest (same ▸ rfl)
          have noGreater : '>' ≠ first := fun same => greater rest (same ▸ rfl)
          simp [markupComment, lineOpenings, List.isPrefixOf, noLess, noDash,
            noEquals, noGreater]

/-- These are the texts without any of the openings of such a line. -/
theorem skipsNoLine_iff {text : List Char} :
    SkipsNoLine text ↔
      ∀ opening ∈ markupComment :: lineOpenings, ¬ opening <:+: text := by
  constructor
  · intro plain opening opens inside
    obtain ⟨after, begins, behind⟩ := List.infix_iff_prefix_suffix.mp inside
    have skips := skipsLine_true_iff.mpr ⟨opening, opens, begins⟩
    exact Bool.false_ne_true ((plain after behind).symm.trans skips)
  · intro free after behind
    apply Bool.eq_false_iff.mpr
    intro skips
    obtain ⟨opening, opens, begins⟩ := skipsLine_true_iff.mp skips
    exact free opening opens
      (List.infix_iff_prefix_suffix.mpr ⟨after, begins, behind⟩)

/-- Where no line is passed over nothing is skipped, and an opening tag starts at
its bracket. -/
theorem Opening.StandsIn.reaches_bracket {opening : Opening}
    {text early skipped tag : List Char}
    (stands : opening.StandsIn text early skipped tag)
    (plain : SkipsNoLine text) :
    skipped = [] ∧ ∃ bracket : Cursor, Reaches (.ofText text) early bracket ∧
      bracket.rest.head? = some '<' ∧
      opening.extent.start = bracket.offset := by
  have nothing : skipped = [] := by
    rcases stands.skips with nothing | ⟨after, whole, skips⟩
    · exact nothing
    · have behind : skipped ++ tag ++ after <:+ text :=
        ⟨early, by rw [whole]; simp⟩
      exact absurd ((plain _ behind).symm.trans skips) (by decide)
  subst nothing
  obtain ⟨bracket, _, _, _, reached, begins, _⟩ := stands.parts
  rw [List.append_nil] at reached
  refine ⟨rfl, bracket, reached, begins, ?_⟩
  rw [stands.start, reached.offset]
  exact (Nat.zero_add _).symm

/-! ## Landing -/

/-- An insertion lands on an element that `early`, `skipped` and `tag` lead up
to: it comes directly behind the tag, and it carries the position at which the
element starts, itself or through the table. -/
structure LandsBehind (early skipped tag : List Char) (mode : Mode)
    (file : String) (table : FileTable) (entry : Nat) (insertion : Insertion) :
    Prop where
  offset : insertion.offset = Text.byteLength (early ++ skipped ++ tag)
  text : insertion.text =
    Marking.markText mode file (Position.behind early) entry
  recorded : (table.expressions[entry]?).map
    (fun expression => expression.span.start) = some (Position.behind early)

section Runs

variable {options : Options} {file : FileOptions} {nodes : List Node}

/-- The mark of an element lands on it exactly when the text has no byte order
mark. -/
theorem landsBehind_iff {source : List Char} {opening : Opening} {entry : Nat}
    (marked : (.element opening, entry) ∈ Tally.zero.marks
      (Setting.forText source file options) (Node.sitesAll nodes))
    {early skipped tag : List Char}
    (stands : opening.StandsIn (behindOrderMark source) early skipped tag) :
    LandsBehind (orderMark source ++ early) skipped tag options.mode
        file.filename (Marking.ofTree source file options nodes).table entry
        (Site.insertion (Setting.forText source file options) file.filename
          (.element opening, entry)) ↔
      orderMark source = [] := by
  constructor
  · intro lands
    have here : Marking.markOffset opening =
        Text.byteLength (orderMark source ++ early ++ skipped ++ tag) :=
      lands.offset
    rw [stands.stop] at here
    simp only [Text.byteLength_append] at here
    exact Text.byteLength_eq_zero.mp (by omega)
  · intro absent
    have same : behindOrderMark source = source := by
      have whole := orderMark_append source
      rwa [absent] at whole
    rw [same] at stands
    obtain ⟨bracket, _, _, _, reached, _⟩ := stands.parts
    have whole : source = early ++ (skipped ++ bracket.rest) := by
      rw [← List.append_assoc]
      exact reached.rest
    have position : ((Setting.forText source file options).span
        opening.extent).start = Position.behind early := by
      have place := LineIndex.location_byteLength early (skipped ++ bracket.rest)
      rw [← whole, ← stands.start] at place
      exact place
    have recorded := (passes_ofTree source file options nodes).recorded _ marked
    rw [absent, List.nil_append]
    refine ⟨stands.stop, ?_, ?_⟩
    · rw [← position]
      rfl
    · obtain ⟨expression, found, span⟩ := Option.map_eq_some_iff.mp recorded
      rw [found, Option.map_some, span, position]

/-- What is put in behind the marks: the table, where keys were written. -/
def registrations (options : Options) (source : List Char)
    (table : FileTable) : List Insertion :=
  if options.mode = .key ∨ table.styled ≠ [] then [registration source table]
  else []

theorem annotateTree_eq (source : List Char) :
    annotateTree source file options nodes =
      let marks := Tally.zero.marks (Setting.forText source file options)
        (Node.sitesAll nodes)
      if marks = [] then none
      else some (Insertion.applyAll source
        (marks.map (Site.insertion (Setting.forText source file options)
            file.filename) ++
          registrations options source
            (Marking.ofTree source file options nodes).table)) := by
  have same := insertions_eq_map_marks source file options nodes
  rw [annotateTree, markTree_eq]
  simp only [same, List.isEmpty_iff, List.map_eq_nil_iff]
  split
  · rfl
  · unfold registrations
    split
    · next registers =>
        rw [if_pos (by simpa using registers)]
        rfl
    · next registers =>
        rw [if_neg (by simpa using registers), List.append_nil]

theorem annotate_eq_annotateTree {text : String} (named : file.filename ≠ "")
    (runs : passesThrough file.filename options = false)
    (read : readScript file.filename text.toList = .ok nodes) :
    annotate options text file =
      .ok ((annotateTree text.toList file options nodes).map
        String.ofList) := by
  simp [annotate_of_tree named read, runs]

end Runs

/-- A script that is read is marked in one pass over the given text, and each
of its marked elements has its opening tag in the text behind the byte order
mark.  There the mark is put in directly behind the name or the type arguments,
with the position at which the element starts, exactly when the text has no
byte order mark. -/
theorem annotate_lands_iff {options : Options} {text : String}
    {file : FileOptions} {nodes : List Node} (named : file.filename ≠ "")
    (runs : passesThrough file.filename options = false)
    (read : readScript file.filename text.toList = .ok nodes) :
    let source := text.toList
    let setting := Setting.forText source file options
    let marks := Tally.zero.marks setting (Node.sitesAll nodes)
    let table := (Marking.ofTree source file options nodes).table
    let insertions := marks.map (Site.insertion setting file.filename)
    annotate options text file =
        .ok (if marks = [] then none
          else some (String.ofList (Insertion.applyAll source
            (insertions ++ registrations options source table)))) ∧
      ∀ opening entry, (.element opening, entry) ∈ marks →
        ∃ early skipped tag,
          opening.StandsIn (behindOrderMark source) early skipped tag ∧
          (LandsBehind (orderMark source ++ early) skipped tag options.mode
              file.filename table entry
              (Site.insertion setting file.filename
                (.element opening, entry)) ↔
            orderMark source = []) := by
  intro source setting marks table insertions
  constructor
  · rw [annotate_eq_annotateTree named runs read, annotateTree_eq]
    by_cases unmarked : marks = []
    · simp only [marks, source, setting] at unmarked
      simp [marks, source, setting, unmarked]
    · simp only [marks, source, setting] at unmarked
      simp [marks, source, setting, insertions, table, unmarked]
  · intro opening entry marked
    have member : .element opening ∈ Node.sitesAll nodes :=
      Tally.mem_of_mem_marks marked
    obtain ⟨early, skipped, tag, stands⟩ :=
      (liesBehind_of_readModule (readModule_of_readScript read) member).standsIn
    exact ⟨early, skipped, tag, stands, landsBehind_iff marked stands⟩

/-- The opening tag of a site that is an element. -/
def Site.opening? : Site → Option Opening
  | .element opening => some opening
  | .template _ _ => none

/-- The marked elements of a script on which a reading was evaluated. -/
theorem exists_read_of_evaluated (options : Options) (text : String)
    (file : FileOptions) (opening : Opening) (entry : Nat)
    (evaluated : ((readScript file.filename text.toList).map fun nodes =>
      (Tally.zero.marks (Setting.forText text.toList file options)
        (Node.sitesAll nodes)).map fun mark =>
          (mark.1.opening?, mark.2)).toOption = some [(some opening, entry)]) :
    ∃ nodes, readScript file.filename text.toList = .ok nodes ∧
      (.element opening, entry) ∈ Tally.zero.marks
        (Setting.forText text.toList file options) (Node.sitesAll nodes) := by
  obtain ⟨nodes, read, same⟩ := exists_ok_of_toOption_map evaluated
  have member : (some opening, entry) ∈ [(some opening, entry)] :=
    List.mem_singleton.mpr rfl
  rw [← same] at member
  obtain ⟨⟨site, number⟩, marked, view⟩ := List.mem_map.mp member
  simp only [Prod.mk.injEq] at view
  obtain ⟨found, rfl⟩ := view
  refine ⟨nodes, read, ?_⟩
  cases site with
  | element other =>
      obtain rfl : other = opening := by simpa [Site.opening?] using found
      exact marked
  | template tag extent => simp [Site.opening?] at found

/-- A mark behind type arguments, with the position of the bracket in front of
the name. -/
theorem annotate_lands_iff_typeArguments :
    let options : Options := {
      mode := .path, environment := none, project := none
      current := "development", filter := .all }
    let file : FileOptions := { filename := "/src/a.tsx", ignored := [] }
    let text := "<Box<A> />"
    let setting := Setting.forText text.toList file options
    let opening : Opening := {
      name := "Box", extent := { start := 0, stop := 10 }, nameStop := 4
      typeArgumentsStop := some 7, attributes := [] }
    ∃ nodes, file.filename ≠ "" ∧
      passesThrough file.filename options = false ∧
      readScript file.filename text.toList = .ok nodes ∧
      (.element opening, 0) ∈
        Tally.zero.marks setting (Node.sitesAll nodes) ∧
      ∃ early tag bracket, opening.StandsIn text.toList early [] tag ∧
        Reaches (.ofText text.toList) early bracket ∧
        bracket.rest.head? = some '<' ∧
        LandsBehind early [] tag .path "/src/a.tsx"
          (Marking.ofTree text.toList file options nodes).table 0
          (Site.insertion setting "/src/a.tsx" (.element opening, 0)) := by
  intro options file text setting opening
  obtain ⟨nodes, read, marked⟩ :=
    exists_read_of_evaluated options text file opening 0 (by decide +kernel)
  have named : file.filename ≠ "" := by decide
  have runs : passesThrough file.filename options = false := by decide
  have plain : behindOrderMark text.toList = text.toList := by decide
  have absent : orderMark text.toList = [] := by decide
  obtain ⟨early, skipped, tag, stands, lands⟩ :=
    (annotate_lands_iff named runs read).2 opening 0 marked
  have landed := lands.mpr absent
  rw [plain] at stands
  rw [absent, List.nil_append] at landed
  have whole : SkipsNoLine text.toList := skipsNoLine_iff.mpr (by decide +kernel)
  obtain ⟨rfl, bracket, reached, begins, _⟩ := stands.reaches_bracket whole
  exact ⟨nodes, named, runs, read, marked, early, tag, bracket, stands, reached,
    begins, landed⟩

/-- Behind a byte order mark, the mark of an element is put in between its
bracket and its name. -/
theorem not_lands_behind_orderMark :
    ¬ ∀ (options : Options) (text : String) (file : FileOptions)
        (nodes : List Node),
      readScript file.filename text.toList = .ok nodes →
      ∀ opening entry, (.element opening, entry) ∈
          Tally.zero.marks (Setting.forText text.toList file options)
            (Node.sitesAll nodes) →
        ∃ early skipped tag,
          opening.StandsIn (behindOrderMark text.toList) early skipped tag ∧
          LandsBehind (orderMark text.toList ++ early) skipped tag options.mode
            file.filename (Marking.ofTree text.toList file options nodes).table
            entry (Site.insertion (Setting.forText text.toList file options)
              file.filename (.element opening, entry)) := by
  intro lands
  let options : Options := {
    mode := .path, environment := none, project := none
    current := "development", filter := .all }
  let file : FileOptions := { filename := "/src/a.jsx", ignored := [] }
  let text := "\ufeffconst a = <div />;\n"
  let opening : Opening := {
    name := "div", extent := { start := 10, stop := 17 }, nameStop := 14
    typeArgumentsStop := none, attributes := [] }
  obtain ⟨nodes, read, marked⟩ :=
    exists_read_of_evaluated options text file opening 0 (by decide +kernel)
  obtain ⟨early, skipped, tag, stands, landed⟩ :=
    lands options text file nodes read opening 0 marked
  have absent := (landsBehind_iff marked stands).mp landed
  exact absurd absent (by decide)

end Script

end SourceMark
