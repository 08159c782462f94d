import SourceMark.Proofs.Script.Tables

/-!
# The two ways to mark a script say the same

A script can be marked with whole locations or with keys into its table.  Both
runs choose the same sites and number them alike, and the value that a site
carries in one run leads to the same place as its value in the other run.
-/

namespace SourceMark

namespace Script

namespace Site

/-- Whether a site is marked when no filter is in use. -/
def isMarked (file : FileOptions) : Site → Bool
  | .element opening =>
      !file.ignores opening.name && !isDisallowed opening.name &&
        !hasAttribute opening [Marker.combined, Marker.expressionKey]
  | .template tag _ => (Marking.styledTag? tag).isSome

/-- The place at which a site starts. -/
def start (source : List Char) : Site → Position
  | .element opening =>
      (LineIndex.ofText source).location opening.extent.start
  | .template _ extent => (LineIndex.ofText source).location extent.start

/-- The location of a site in a file. -/
def location (source : List Char) (file : String) (site : Site) : Location :=
  Location.ofPosition file (site.start source)

/-- The insertion that puts a value on a site.  An element carries it in the
given attribute, a template in the one for styled definitions. -/
def carrying (name value : String) : Site → Insertion
  | .element opening => {
      offset := Marking.markOffset opening
      text := " " ++ name ++ "=\x7b" ++ Json.quoted value ++ "\x7d" }
  | .template tag _ => {
      offset := tag.extent.stop
      text := ".attrs(() => (\x7b" ++ Json.quoted Marker.styledKey ++ ": " ++
        Json.quoted value ++ "\x7d))" }

/-- The value of a marked site when elements carry their locations. -/
def pathValue (source : List Char) (file : String) : Site × Nat → String
  | (.element opening, _) =>
      (location source file (.element opening)).encode
  | (.template _ _, entry) => EntryKey.encode { file, entry }

/-- The value of a marked site when elements carry keys. -/
def keyValue (file : String) (mark : Site × Nat) : String :=
  EntryKey.encode { file, entry := mark.2 }

/-- Marked sites with their numbers, from given counts on. -/
def numbered (file : FileOptions) (expressions styled : Nat) :
    List Site → List (Site × Nat)
  | [] => []
  | .element opening :: sites =>
      if isMarked file (.element opening) then
        (.element opening, expressions) ::
          numbered file (expressions + 1) styled sites
      else
        numbered file expressions styled sites
  | .template tag extent :: sites =>
      if isMarked file (.template tag extent) then
        (.template tag extent, styled) ::
          numbered file expressions (styled + 1) sites
      else
        numbered file expressions styled sites

theorem map_fst_numbered (file : FileOptions) (expressions styled : Nat)
    (sites : List Site) :
    (numbered file expressions styled sites).map Prod.fst =
      sites.filter (isMarked file) := by
  induction sites generalizing expressions styled with
  | nil => rfl
  | cons site sites induction =>
      cases site with
      | element opening =>
          rw [numbered, List.filter_cons]
          split
          · rw [List.map_cons, induction]
          · exact induction expressions styled
      | template tag extent =>
          rw [numbered, List.filter_cons]
          split
          · rw [List.map_cons, induction]
          · exact induction expressions styled

end Site

/-- Without filters nothing is counted for the choice of an element. -/
theorem Marking.select_of_whole {setting : Setting}
    (whole : setting.options.mode ≠ .split) (opening : Opening)
    (counted : Nat) :
    select setting opening counted =
      (Site.isMarked setting.file (.element opening), counted) := by
  cases ignored : setting.file.ignores opening.name with
  | true => simp [select, Site.isMarked, ignored]
  | false =>
      cases mode : setting.options.mode with
      | split => exact absurd mode whole
      | path => simp [select, Site.isMarked, ignored, mode]
      | key => simp [select, Site.isMarked, ignored, mode]

/-- Whether an element of that name passes the split filter, when so many have
passed it before. -/
def Setting.counts (setting : Setting) (name : String) (counted : Nat) : Bool :=
  !setting.file.ignores name && setting.options.filter.admits name &&
    !setting.options.filter.limit.any (· ≤ counted)

/-- With filters, an element that passes them is counted, and marked unless it
is marked already. -/
theorem Marking.select_of_split {setting : Setting}
    (split : setting.options.mode = .split) (opening : Opening)
    (counted : Nat) :
    select setting opening counted =
      if setting.counts opening.name counted then
        (!hasAttribute opening [Marker.splitFile], counted + 1)
      else
        (false, counted) := by
  cases ignored : setting.file.ignores opening.name with
  | true => simp [select, Setting.counts, ignored]
  | false =>
      cases limit : setting.options.filter.limit with
      | none => simp [select, Setting.counts, ignored, split, limit]
      | some most => simp [select, Setting.counts, ignored, split, limit]

/-- Without filters the marks do not depend on the mode. -/
theorem Tally.marks_eq_numbered {setting : Setting}
    (whole : setting.options.mode ≠ .split) (tally : Tally)
    (sites : List Site) :
    tally.marks setting sites =
      Site.numbered setting.file tally.expressions tally.styled sites := by
  have instrumented : (setting.options.mode != .split) = true := by
    simpa using whole
  induction sites generalizing tally with
  | nil => rfl
  | cons site sites induction =>
      cases site with
      | element opening =>
          have chosen := Marking.select_of_whole whole opening tally.counted
          rw [Tally.marks, Site.numbered]
          cases marked : Site.isMarked setting.file (.element opening) with
          | true => simp [Tally.choose, chosen, marked, entry, induction]
          | false => simp [Tally.choose, chosen, marked, induction]
      | template tag extent =>
          rw [Tally.marks, Site.numbered]
          cases marked : (Marking.styledTag? tag).isSome with
          | true =>
              simp [Tally.choose, marked, instrumented, Site.isMarked, entry,
                induction]
          | false => simp [Tally.choose, marked, Site.isMarked, induction]

section Runs

variable (source : List Char) (file : FileOptions) (options : Options)
  (nodes : List Node)

/-- The marks of a script, in either of the modes without filters. -/
def marksOf : List (Site × Nat) :=
  Site.numbered file 0 0 (Node.sitesAll nodes)

/-- The way of a whole traversal. -/
theorem passes_ofTree :
    Marking.Passes (Setting.forText source file options) (Node.sitesAll nodes)
      (Marking.start (FileTable.forFile file.filename options.project))
      (Marking.ofTree source file options nodes) :=
  Marking.passes_visitAll _ _ _

theorem fullPath_ofTree :
    (Marking.ofTree source file options nodes).table.fullPath =
      file.filename := by
  rw [(passes_ofTree source file options nodes).fullPath]
  exact FileTable.fullPath_forFile file.filename options.project

/-- The insertions of a traversal are those for its marks, in every mode. -/
theorem insertions_eq_map_marks :
    (Marking.ofTree source file options nodes).insertions =
      (Tally.zero.marks (Setting.forText source file options)
        (Node.sitesAll nodes)).map
          (Site.insertion (Setting.forText source file options)
            file.filename) := by
  have passes := (passes_ofTree source file options nodes).insertions
  have start : (Marking.start (FileTable.forFile file.filename
      options.project)).tally = Tally.zero := rfl
  have named : (Marking.start (FileTable.forFile file.filename
      options.project)).table.fullPath = file.filename :=
    FileTable.fullPath_forFile file.filename options.project
  have nothing : (Marking.start (FileTable.forFile file.filename
      options.project)).insertions = [] := rfl
  rw [nothing, start, named, List.nil_append] at passes
  exact passes

variable {options}

/-- The marks of a traversal are those of the script. -/
theorem marks_ofTree (whole : options.mode ≠ .split) :
    (Marking.start (FileTable.forFile file.filename
      options.project)).tally.marks (Setting.forText source file options)
        (Node.sitesAll nodes) = marksOf file nodes :=
  Tally.marks_eq_numbered whole _ _

theorem insertions_ofTree (whole : options.mode ≠ .split) :
    (Marking.ofTree source file options nodes).insertions =
      (marksOf file nodes).map (Site.insertion
        (Setting.forText source file options) file.filename) := by
  rw [insertions_eq_map_marks, Tally.marks_eq_numbered whole]
  rfl

theorem recorded_ofTree (whole : options.mode ≠ .split)
    {mark : Site × Nat} (member : mark ∈ marksOf file nodes) :
    Site.RecordedIn (Setting.forText source file options)
      (Marking.ofTree source file options nodes).table mark := by
  have recorded := (passes_ofTree source file options nodes).recorded
  rw [marks_ofTree source file nodes whole] at recorded
  exact recorded mark member

/-- The insertion that registers a table behind the text. -/
def registration (table : FileTable) : Insertion where
  offset := Text.byteLength source
  text := registryStatement table

/-- The written form of the table stands in the statement that registers it. -/
theorem written_infix_registryStatement (table : FileTable) :
    table.written.toList <:+: (registryStatement table).toList := by
  have middle (opening written closing : String) :
      written.toList <:+: (opening ++ written ++ closing).toList := by
    simp only [String.toList_append]
    exact List.infix_append _ _ _
  unfold registryStatement
  exact middle _ _ _

end Runs

/-- What two runs over one script have in common, when one of them writes
locations and the other one keys.  `marks` are the marked sites with the numbers
of their entries, and each run has a table of its own. -/
structure ModesAgree (options : Options) (source : String)
    (file : FileOptions) (marks : List (Site × Nat))
    (pathTable keyTable : FileTable) : Prop where
  path : annotate { options with mode := .path } source file =
    .ok (some (String.ofList (Insertion.applyAll source.toList
      (marks.map (fun mark => mark.1.carrying Marker.combined
          (Site.pathValue source.toList file.filename mark)) ++
        if pathTable.styled = [] then []
        else [registration source.toList pathTable]))))
  key : annotate { options with mode := .key } source file =
    .ok (some (String.ofList (Insertion.applyAll source.toList
      (marks.map (fun mark => mark.1.carrying Marker.expressionKey
          (Site.keyValue file.filename mark)) ++
        [registration source.toList keyTable]))))
  quoted : ∀ value, Json.read? (Json.quoted value) = some (.string value)
  embedded : ∀ table, table.written.toList <:+: (registryStatement table).toList
  registered : ∀ registry : Registry, ∀ table ∈ [pathTable, keyTable],
    registry.registerText? table.written = some (registry.register table)
  /-- An element that carries a location carries the one of its start. -/
  location : ∀ opening entry, (.element opening, entry) ∈ marks →
    Location.decode? (Site.pathValue source.toList file.filename
        (.element opening, entry)) =
      some (Site.location source.toList file.filename (.element opening))
  /-- An element that carries a key leads to the same location. -/
  expression : ∀ registry : Registry, ∀ opening entry,
    (.element opening, entry) ∈ marks →
    (registry.register keyTable).expressionLocation?
        (Site.keyValue file.filename (.element opening, entry)) =
      some (Site.location source.toList file.filename (.element opening))
  /-- A template leads to its start through the table of its own run, which is
  written in either run. -/
  styled : ∀ registry : Registry, ∀ tag extent entry,
    (.template tag extent, entry) ∈ marks →
    pathTable.styled ≠ [] ∧
    (registry.register pathTable).styledLocation?
        (Site.pathValue source.toList file.filename
          (.template tag extent, entry)) =
      some (Site.location source.toList file.filename
        (.template tag extent)) ∧
    (registry.register keyTable).styledLocation?
        (Site.keyValue file.filename (.template tag extent, entry)) =
      some (Site.location source.toList file.filename (.template tag extent))

section Agreement

variable {source : List Char} {file : FileOptions} {options : Options}
  {nodes : List Node}

/-- A key of an element leads to the start of the element. -/
theorem expressionLocation?_ofTree (named : file.filename ≠ "")
    (storable : Text.IsStorable source)
    (small : Node.countAll nodes < Text.wordBound)
    (whole : options.mode ≠ .split) (registry : Registry) {opening : Opening}
    {entry : Nat} (member : (.element opening, entry) ∈ marksOf file nodes) :
    (registry.register
        (Marking.ofTree source file options nodes).table).expressionLocation?
        (EntryKey.encode { file := file.filename, entry }) =
      some (Site.location source file.filename (.element opening)) := by
  have recorded := recorded_ofTree source file nodes whole member
  simp only [Site.RecordedIn, Option.map_eq_some_iff] at recorded
  obtain ⟨expression, found, span⟩ := recorded
  have inside := (List.getElem?_eq_some_iff.mp found).1
  have bound : entry < Text.wordBound := by
    have few :=
      (Marking.fitsWords_ofTree storable file options small).2.1
    omega
  have path := fullPath_ofTree source file options nodes
  have lookup := Registry.expressionLocation?_register registry
    (path.symm ▸ named) bound
  rw [path] at lookup
  rw [lookup, FileTable.expressionLocation?, found, Option.map_some]
  simp only [FileTable.locationOf, path, span]
  rfl

/-- A key of a styled template leads to the start of the template. -/
theorem styledLocation?_ofTree (named : file.filename ≠ "")
    (storable : Text.IsStorable source)
    (small : Node.countAll nodes < Text.wordBound)
    (whole : options.mode ≠ .split) (registry : Registry) {tag : Node}
    {extent : Extent} {entry : Nat}
    (member : (.template tag extent, entry) ∈ marksOf file nodes) :
    (Marking.ofTree source file options nodes).table.styled ≠ [] ∧
      (registry.register
        (Marking.ofTree source file options nodes).table).styledLocation?
        (EntryKey.encode { file := file.filename, entry }) =
      some (Site.location source file.filename (.template tag extent)) := by
  have recorded := recorded_ofTree source file nodes whole member
  simp only [Site.RecordedIn, Option.map_eq_some_iff] at recorded
  obtain ⟨definition, found, span⟩ := recorded
  have inside := (List.getElem?_eq_some_iff.mp found).1
  have bound : entry < Text.wordBound := by
    have few :=
      (Marking.fitsWords_ofTree storable file options small).2.2
    omega
  have path := fullPath_ofTree source file options nodes
  have lookup := Registry.styledLocation?_register registry
    (path.symm ▸ named) bound
  rw [path] at lookup
  refine ⟨List.ne_nil_of_length_pos (by omega), ?_⟩
  rw [lookup, FileTable.styledLocation?, found, Option.map_some]
  simp only [FileTable.locationOf, path, span]
  rfl

theorem map_insertion_path (source : List Char) (file : FileOptions)
    (options : Options) (marks : List (Site × Nat)) :
    marks.map (Site.insertion
        (Setting.forText source file { options with mode := .path })
        file.filename) =
      marks.map fun mark => mark.1.carrying Marker.combined
        (Site.pathValue source file.filename mark) := by
  apply List.map_congr_left
  rintro ⟨site, entry⟩ _
  cases site with
  | element opening => rfl
  | template tag extent => rfl

theorem map_insertion_key (source : List Char) (file : FileOptions)
    (options : Options) (marks : List (Site × Nat)) :
    marks.map (Site.insertion
        (Setting.forText source file { options with mode := .key })
        file.filename) =
      marks.map fun mark => mark.1.carrying Marker.expressionKey
        (Site.keyValue file.filename mark) := by
  apply List.map_congr_left
  rintro ⟨site, entry⟩ _
  cases site with
  | element opening => rfl
  | template tag extent => rfl

/-- A run over a script that is read, and not passed over, marks its tree. -/
theorem annotate_of_tree {text : String} (named : file.filename ≠ "")
    (read : readScript file.filename text.toList = .ok nodes) :
    annotate options text file =
      .ok (if passesThrough file.filename options then none
        else (annotateTree text.toList file options nodes).map
          String.ofList) := by
  have required := FileOptions.requireFilename_of_named named
  cases runs : passesThrough file.filename options with
  | true => simp [annotate, required, runs, bind, Except.bind, pure, Except.pure]
  | false =>
      simp [annotate, required, runs, read, bind, Except.bind, pure,
        Except.pure]

/-- The result of a run in one of the modes without filters. -/
theorem annotate_of_read {text : String}
    (named : file.filename ≠ "") (whole : options.mode ≠ .split)
    (read : readScript file.filename text.toList = .ok nodes)
    (runs : passesThrough file.filename options = false)
    (marked : marksOf file nodes ≠ []) :
    annotate options text file =
      .ok (some (String.ofList (Insertion.applyAll text.toList
        ((marksOf file nodes).map (Site.insertion
            (Setting.forText text.toList file options) file.filename) ++
          if options.mode = .key ∨
              (Marking.ofTree text.toList file options nodes).table.styled ≠ []
          then [registration text.toList
            (Marking.ofTree text.toList file options nodes).table]
          else [])))) := by
  have insertions := insertions_ofTree text.toList file nodes whole
  have something : ((marksOf file nodes).map (Site.insertion
      (Setting.forText text.toList file options) file.filename)).isEmpty =
      false := by
    simpa using marked
  rw [annotate_of_tree named read, runs]
  simp only [annotateTree, markTree_eq, insertions, something]
  by_cases registers : options.mode = .key ∨
      (Marking.ofTree text.toList file options nodes).table.styled ≠ []
  · have needed : (decide (options.mode = .key) ||
        !(Marking.ofTree text.toList file options nodes).table.styled.isEmpty) =
        true := by
      simpa using registers
    simp only [needed, registers, if_true]
    rfl
  · have needless : (decide (options.mode = .key) ||
        !(Marking.ofTree text.toList file options nodes).table.styled.isEmpty) =
        false := by
      simpa using registers
    simp only [needless, registers, if_false, List.append_nil]
    rfl

/-- A file that is passed over in one of the two modes is passed over in the
other one. -/
theorem passesThrough_key (filename : String) (options : Options) :
    passesThrough filename { options with mode := .key } =
      passesThrough filename { options with mode := .path } := by
  simp [passesThrough]

/-- The result of a run that has nothing to mark. -/
theorem annotate_of_unmarked {text : String} (named : file.filename ≠ "")
    (whole : options.mode ≠ .split)
    (read : readScript file.filename text.toList = .ok nodes)
    (idle : passesThrough file.filename options = true ∨
      marksOf file nodes = []) :
    annotate options text file = .ok none := by
  rw [annotate_of_tree named read]
  cases runs : passesThrough file.filename options with
  | true => simp
  | false =>
      have unmarked : marksOf file nodes = [] := by simpa [runs] using idle
      have insertions := insertions_ofTree text.toList file nodes whole
      rw [unmarked, List.map_nil] at insertions
      simp [annotateTree, markTree_eq, insertions]

/-- Two runs over one script, one with locations and one with keys, both leave
it alone or both mark the same sites with values for the same locations.  That
the text and the tree fit into memory is all that is asked of them. -/
theorem modesAgree_of_read (options : Options) {text : String}
    (named : file.filename ≠ "") (storable : Text.IsStorable text.toList)
    (small : Node.countAll nodes < Text.wordBound)
    (read : readScript file.filename text.toList = .ok nodes) :
    if passesThrough file.filename { options with mode := .path } = true ∨
        (Node.sitesAll nodes).filter (Site.isMarked file) = [] then
      annotate { options with mode := .path } text file = .ok none ∧
        annotate { options with mode := .key } text file = .ok none
    else
      ∃ marks pathTable keyTable,
        marks.map Prod.fst =
          (Node.sitesAll nodes).filter (Site.isMarked file) ∧
        ModesAgree options text file marks pathTable keyTable := by
  have chosen : (marksOf file nodes).map Prod.fst =
      (Node.sitesAll nodes).filter (Site.isMarked file) :=
    Site.map_fst_numbered file 0 0 _
  have pathWhole : { options with mode := .path }.mode ≠ Mode.split := by simp
  have keyWhole : { options with mode := .key }.mode ≠ Mode.split := by simp
  split
  · next idle =>
      have unmarked : passesThrough file.filename
          { options with mode := .path } = true ∨
            marksOf file nodes = [] := by
        rw [← chosen, List.map_eq_nil_iff] at idle
        exact idle
      refine ⟨annotate_of_unmarked named pathWhole read unmarked, ?_⟩
      apply annotate_of_unmarked named keyWhole read
      rw [passesThrough_key]
      exact unmarked
  · next busy =>
      rw [not_or, Bool.not_eq_true, ← chosen, List.map_eq_nil_iff] at busy
      obtain ⟨pathRuns, marked⟩ := busy
      have keyRuns := (passesThrough_key file.filename options).trans pathRuns
      refine ⟨marksOf file nodes,
        (Marking.ofTree text.toList file { options with mode := .path }
          nodes).table,
        (Marking.ofTree text.toList file { options with mode := .key }
          nodes).table, chosen, ?_⟩
      constructor
      · rw [annotate_of_read named pathWhole read pathRuns marked,
          map_insertion_path]
        simp
      · rw [annotate_of_read named keyWhole read keyRuns marked,
          map_insertion_key]
        simp
      · exact Json.read?_quoted
      · exact written_infix_registryStatement
      · intro registry table member
        simp only [List.mem_cons, List.not_mem_nil, or_false] at member
        rcases member with rfl | rfl
        · exact registry.registerText?_of_written
            (Marking.fitsWords_ofTree storable file _ small).1
        · exact registry.registerText?_of_written
            (Marking.fitsWords_ofTree storable file _ small).1
      · intro opening entry _
        have place := LineIndex.location_lt_wordBound storable
          opening.extent.start
        exact Location.decode?_of_encode named place.1 place.2
      · intro registry opening entry member
        exact expressionLocation?_ofTree named storable small keyWhole registry
          member
      · intro registry tag extent entry member
        have inPath := styledLocation?_ofTree named storable small pathWhole
          registry member
        have inKey := styledLocation?_ofTree named storable small keyWhole
          registry member
        exact ⟨inPath.1, inPath.2, inKey.2⟩

end Agreement

/-- One element in a file below the project, with a colon in its name. -/
theorem modesAgree_paragraph :
    let options : Options := {
      mode := .path, environment := none, project := some "app/"
      current := "development", filter := .all }
    let file : FileOptions := { filename := "app/a:b.jsx", ignored := [] }
    let nodes : List Node := [.group { start := 0, stop := 4 } [.element
      { name := "p", extent := { start := 0, stop := 4 }, nameStop := 2
        typeArgumentsStop := none, attributes := [] } []]]
    file.filename ≠ "" ∧ Text.IsStorable "<p/>".toList ∧
      Node.countAll nodes < Text.wordBound ∧
      readScript file.filename "<p/>".toList = .ok nodes ∧
      ∃ marks pathTable keyTable, marks.map Prod.fst =
          (Node.sitesAll nodes).filter (Site.isMarked file) ∧
        ModesAgree options "<p/>" file marks pathTable keyTable := by
  have read : readScript "app/a:b.jsx" "<p/>".toList =
      .ok [.group { start := 0, stop := 4 } [.element
        { name := "p", extent := { start := 0, stop := 4 }, nameStop := 2
          typeArgumentsStop := none, attributes := [] } []]] := by rfl
  intro options file nodes
  have named : file.filename ≠ "" := by decide
  have storable : Text.IsStorable "<p/>".toList := by
    unfold Text.IsStorable
    decide
  have small : Node.countAll nodes < Text.wordBound := by decide
  refine ⟨named, storable, small, read, ?_⟩
  have agree := modesAgree_of_read options named storable small read
  rw [if_neg] at agree
  · exact agree
  · have runs : passesThrough file.filename { options with mode := .path } =
        false := by decide
    have marked : (Node.sitesAll nodes).all (Site.isMarked file) = true := by
      decide
    simp_all [nodes, Node.sitesAll, Node.sites]

end Script

end SourceMark
