import SourceMark.Proofs.Evaluation
import SourceMark.Proofs.Script.Modes
import SourceMark.Proofs.Text.Insertions

/-!
# Marking a marked script

The tree of a marked script is the tree of the script with attributes added to
the chosen elements, calls in the place of the tags of styled templates, and the
statement that registers the table.  Its sites are those of the script, each
marked or left as it was, so that a second traversal counts as the first one
did, and at each of them it finds nothing to mark.
-/

namespace SourceMark

namespace Script

/-! ## The tree of a marked script -/

/-- Stands for the bytes of a construct that the marks bring in. -/
def Extent.unknown : Extent := { start := 0, stop := 0 }

/-- The names of the attributes that mark an element. -/
def Mode.attributeNames : Mode → List String
  | .path => [Marker.combined]
  | .key => [Marker.expressionKey]
  | .split => [Marker.splitFile, Marker.splitLine, Marker.splitColumn]

/-- An opening tag with the attributes of a mark, which come first. -/
def Opening.marked (mode : Mode) (opening : Opening) : Opening :=
  { opening with attributes := mode.attributeNames ++ opening.attributes }

namespace Node

/-- A literal that a mark brings in. -/
def literal : Node := .group .unknown []

/-- A tag with a call of `attrs`, whose argument is a function that gives an
object with one text. -/
def withAttrs (tag : Node) : Node :=
  .group .unknown [.member tag "attrs" .unknown,
    .arrow .unknown [.group .unknown [.group .unknown [literal]]]]

mutual

/-- A construct with its marks, when so much has been counted in front of
it. -/
def marked (setting : Setting) (tally : Tally) : Node → Node
  | .name text extent => .name text extent
  | .member object property extent =>
      .member (object.marked setting tally) property extent
  | .function role named extent parts =>
      .function role named extent (markedAll setting tally parts)
  | .arrow extent parts => .arrow extent (markedAll setting tally parts)
  | .declarator binding extent target value =>
      .declarator binding extent (markedAll setting tally target)
        (markedValue setting (tally.behind setting (sitesAll target)) value)
  | .taggedTemplate tag extent parts =>
      let (chosen, next) := tally.choose setting (.template tag extent)
      let tag' := tag.marked setting next
      .taggedTemplate (if chosen then tag'.withAttrs else tag') extent
        (markedAll setting (next.behind setting tag.sites) parts)
  | .element opening parts =>
      let (chosen, next) := tally.choose setting (.element opening)
      let parts' := markedAll setting next parts
      if chosen then
        .element (opening.marked setting.options.mode) (literal :: parts')
      else
        .element opening parts'
  | .group extent parts => .group extent (markedAll setting tally parts)

/-- Constructs in order with their marks. -/
def markedAll (setting : Setting) (tally : Tally) : List Node → List Node
  | [] => []
  | node :: nodes =>
      node.marked setting tally ::
        markedAll setting (tally.behind setting node.sites) nodes

/-- The value of a variable with its marks. -/
def markedValue (setting : Setting) (tally : Tally) :
    Option Node → Option Node
  | none => none
  | some node => some (node.marked setting tally)

end

mutual

/-- The tree of a value that is written into a script. -/
def ofJson : Json → Node
  | .list items => .group .unknown (ofItems items)
  | .record fields => .group .unknown (ofFields fields)
  | _ => literal

/-- The trees of the items of a list. -/
def ofItems : List Json → List Node
  | [] => []
  | item :: items => ofJson item :: ofItems items

/-- The trees of the values in a record; its names are no values. -/
def ofFields : List (String × Json) → List Node
  | [] => []
  | (_, value) :: fields => ofJson value :: ofFields fields

end

/-- The record of all tables, a property of the page. -/
def tables : Node :=
  .member (.name "window" .unknown) "__LOCATOR_DATA__" .unknown

/-- The statement that registers a table. -/
def registration (table : FileTable) : Node :=
  let typed := .group .unknown
    [.group .unknown [.name "window" .unknown], literal]
  let provided := .group .unknown [.group .unknown
    [tables, .group .unknown [tables, literal]]]
  let assigned := .group .unknown [.group .unknown
    [.group .unknown [tables, literal], ofJson table.toJson]]
  .group .unknown [.group .unknown [.group .unknown [.arrow .unknown
    [.group .unknown [typed, .group .unknown [provided, assigned]]]]]]

end Node

/-- The tree of a script after a run over it.  The semicolon in front of the
statement that registers the table is a statement of its own when the last one
of the script needs none. -/
def markedScript (source : List Char) (file : FileOptions) (options : Options)
    (nodes : List Node) (complete : Bool) : List Node :=
  let (table, insertions) := markTree source file options nodes
  let marked := Node.markedAll (Setting.forText source file options) Tally.zero
    nodes
  if !insertions.isEmpty && (options.mode = .key || !table.styled.isEmpty) then
    marked ++ (if complete then [Node.group .unknown []] else []) ++
      [Node.registration table]
  else
    marked

/-! ## Trees that differ in places only -/

namespace Node

mutual

/-- Whether two constructs are the same apart from their places. -/
def alike : Node → Node → Bool
  | .name text _, .name other _ => text = other
  | .member object property _, .member object' property' _ =>
      alike object object' && property = property'
  | .function role named _ parts, .function role' named' _ parts' =>
      role = role' && named = named' && alikeAll parts parts'
  | .arrow _ parts, .arrow _ parts' => alikeAll parts parts'
  | .declarator binding _ target value,
      .declarator binding' _ target' value' =>
      binding = binding' && alikeAll target target' && alikeValue value value'
  | .taggedTemplate tag _ parts, .taggedTemplate tag' _ parts' =>
      alike tag tag' && alikeAll parts parts'
  | .element opening parts, .element opening' parts' =>
      opening.name = opening'.name &&
        opening.attributes = opening'.attributes && alikeAll parts parts'
  | .group _ parts, .group _ parts' => alikeAll parts parts'
  | _, _ => false

/-- Whether constructs are the same one by one, apart from their places. -/
def alikeAll : List Node → List Node → Bool
  | [], [] => true
  | node :: nodes, node' :: nodes' => alike node node' && alikeAll nodes nodes'
  | _, _ => false

/-- Whether the values of two variables are the same apart from their
places. -/
def alikeValue : Option Node → Option Node → Bool
  | none, none => true
  | some node, some node' => alike node node'
  | _, _ => false

end

end Node

/-- What of a site bears on whether it is marked. -/
inductive Guise where
  | element (name : String) (attributes : List String)
  | template (styled : Option String)

/-- What of a site bears on whether it is marked. -/
def Site.guise : Site → Guise
  | .element opening => .element opening.name opening.attributes
  | .template tag _ => .template (Marking.styledTag? tag)

theorem Marking.styledTag?_of_alike {first second : Node}
    (same : first.alike second = true) :
    styledTag? first = styledTag? second := by
  cases first with
  | member object property extent =>
      cases second with
      | member object' property' extent' =>
          simp only [Node.alike, Bool.and_eq_true, decide_eq_true_eq] at same
          obtain ⟨objects, rfl⟩ := same
          cases object with
          | name text extent =>
              cases object' with
              | name text' extent' =>
                  simp only [Node.alike, decide_eq_true_eq] at objects
                  rw [objects, styledTag?, styledTag?]
              | _ => simp [Node.alike] at objects
          | _ =>
              cases object' with
              | name text' extent' => simp [Node.alike] at objects
              | _ => rfl
      | _ => simp [Node.alike] at same
  | _ =>
      cases second with
      | member object' property' extent' => simp [Node.alike] at same
      | _ => rfl

namespace Node

mutual

theorem guises_of_alike (first second : Node)
    (same : first.alike second = true) :
    first.sites.map Site.guise = second.sites.map Site.guise := by
  match first with
  | .name _ _ =>
      cases second with
      | name _ _ => rfl
      | _ => simp [alike] at same
  | .member object _ _ =>
      cases second with
      | member object' _ _ =>
          simp only [alike, Bool.and_eq_true] at same
          exact guises_of_alike object object' same.1
      | _ => simp [alike] at same
  | .function _ _ _ parts =>
      cases second with
      | function _ _ _ parts' =>
          simp only [alike, Bool.and_eq_true] at same
          exact guisesAll_of_alikeAll parts parts' same.2
      | _ => simp [alike] at same
  | .arrow _ parts =>
      cases second with
      | arrow _ parts' =>
          simp only [alike] at same
          exact guisesAll_of_alikeAll parts parts' same
      | _ => simp [alike] at same
  | .declarator _ _ target value =>
      cases second with
      | declarator _ _ target' value' =>
          simp only [alike, Bool.and_eq_true] at same
          simp only [sites, List.map_append,
            guisesAll_of_alikeAll target target' same.1.2,
            guisesOfValue_of_alikeValue value value' same.2]
      | _ => simp [alike] at same
  | .taggedTemplate tag _ parts =>
      cases second with
      | taggedTemplate tag' _ parts' =>
          simp only [alike, Bool.and_eq_true] at same
          simp only [sites, List.map_cons, List.map_append, Site.guise,
            Marking.styledTag?_of_alike same.1,
            guises_of_alike tag tag' same.1,
            guisesAll_of_alikeAll parts parts' same.2]
      | _ => simp [alike] at same
  | .element _ parts =>
      cases second with
      | element _ parts' =>
          simp only [alike, Bool.and_eq_true, decide_eq_true_eq] at same
          simp only [sites, List.map_cons, Site.guise, same.1.1, same.1.2,
            guisesAll_of_alikeAll parts parts' same.2]
      | _ => simp [alike] at same
  | .group _ parts =>
      cases second with
      | group _ parts' =>
          simp only [alike] at same
          exact guisesAll_of_alikeAll parts parts' same
      | _ => simp [alike] at same

theorem guisesAll_of_alikeAll (first second : List Node)
    (same : alikeAll first second = true) :
    (sitesAll first).map Site.guise = (sitesAll second).map Site.guise := by
  match first, second with
  | [], [] => rfl
  | node :: nodes, node' :: nodes' =>
      simp only [alikeAll, Bool.and_eq_true] at same
      simp only [sitesAll, List.map_append, guises_of_alike node node' same.1,
        guisesAll_of_alikeAll nodes nodes' same.2]
  | [], _ :: _
  | _ :: _, [] => simp [alikeAll] at same

theorem guisesOfValue_of_alikeValue (first second : Option Node)
    (same : alikeValue first second = true) :
    (sitesOfValue first).map Site.guise =
      (sitesOfValue second).map Site.guise := by
  match first, second with
  | none, none => rfl
  | some node, some node' =>
      exact guises_of_alike node node' (by simpa only [alikeValue] using same)
  | none, some _
  | some _, none => simp [alikeValue] at same

end

end Node

/-! ## The sites of a marked script -/

namespace Site

/-- A site with its mark, when so much has been counted in front of it. -/
def marked (setting : Setting) (tally : Tally) : Site → Site
  | .element opening =>
      if (tally.choose setting (.element opening)).1 then
        .element (opening.marked setting.options.mode)
      else
        .element opening
  | .template tag extent =>
      let (chosen, next) := tally.choose setting (.template tag extent)
      let tag' := tag.marked setting next
      .template (if chosen then tag'.withAttrs else tag') extent

/-- Sites in order with their marks. -/
def markedAll (setting : Setting) (tally : Tally) : List Site → List Site
  | [] => []
  | site :: sites =>
      site.marked setting tally ::
        markedAll setting (tally.choose setting site).2 sites

theorem markedAll_append (setting : Setting) (tally : Tally)
    (first second : List Site) :
    markedAll setting tally (first ++ second) =
      markedAll setting tally first ++
        markedAll setting (tally.behind setting first) second := by
  induction first generalizing tally with
  | nil => rfl
  | cons site sites induction =>
      rw [List.cons_append, markedAll, induction]
      rfl

end Site

namespace Node

theorem sites_withAttrs (tag : Node) : tag.withAttrs.sites = tag.sites := by
  simp [withAttrs, literal, sites, sitesAll]

mutual

/-- Marks go onto the sites, and bring no sites of their own. -/
theorem sites_marked (setting : Setting) (tally : Tally) (node : Node) :
    (node.marked setting tally).sites =
      Site.markedAll setting tally node.sites := by
  match node with
  | .name _ _ => rfl
  | .member object _ _ => exact sites_marked setting tally object
  | .function _ _ _ parts
  | .arrow _ parts
  | .group _ parts => exact sitesAll_markedAll setting tally parts
  | .declarator _ _ target value =>
      simp only [marked, sites, Site.markedAll_append,
        sitesAll_markedAll setting _ target,
        sitesOfValue_markedValue setting _ value]
  | .taggedTemplate tag extent parts =>
      have inner := sites_marked setting
        (tally.choose setting (.template tag extent)).2 tag
      simp only [marked, sites, Site.markedAll, Site.marked,
        Site.markedAll_append, sitesAll_markedAll setting _ parts]
      split
      · rw [sites_withAttrs, inner]
      · rw [inner]
  | .element opening parts =>
      have inner := sitesAll_markedAll setting
        (tally.choose setting (.element opening)).2 parts
      simp only [marked, sites, Site.markedAll, Site.marked]
      split
      · simp only [sites, sitesAll, literal, List.nil_append, inner]
      · simp only [sites, inner]

theorem sitesAll_markedAll (setting : Setting) (tally : Tally)
    (nodes : List Node) :
    sitesAll (markedAll setting tally nodes) =
      Site.markedAll setting tally (sitesAll nodes) := by
  match nodes with
  | [] => rfl
  | node :: nodes =>
      simp only [markedAll, sitesAll, Site.markedAll_append,
        sites_marked setting _ node, sitesAll_markedAll setting _ nodes]

theorem sitesOfValue_markedValue (setting : Setting) (tally : Tally)
    (value : Option Node) :
    sitesOfValue (markedValue setting tally value) =
      Site.markedAll setting tally (sitesOfValue value) := by
  match value with
  | none => rfl
  | some node => exact sites_marked setting tally node

end

mutual

theorem sites_ofJson (value : Json) : (ofJson value).sites = [] := by
  match value with
  | .list items => exact sitesAll_ofItems items
  | .record fields => exact sitesAll_ofFields fields
  | .null | .boolean _ | .natural _ | .decimal _ | .string _ | .spoiled => rfl

theorem sitesAll_ofItems (items : List Json) :
    sitesAll (ofItems items) = [] := by
  match items with
  | [] => rfl
  | item :: items =>
      simp only [ofItems, sitesAll, sites_ofJson item, sitesAll_ofItems items,
        List.append_nil]

theorem sitesAll_ofFields (fields : List (String × Json)) :
    sitesAll (ofFields fields) = [] := by
  match fields with
  | [] => rfl
  | (_, value) :: fields =>
      simp only [ofFields, sitesAll, sites_ofJson value,
        sitesAll_ofFields fields, List.append_nil]

end

theorem sites_registration (table : FileTable) :
    (registration table).sites = [] := by
  simp [registration, tables, literal, sites, sitesAll, sites_ofJson]

theorem sitesAll_append (first second : List Node) :
    sitesAll (first ++ second) = sitesAll first ++ sitesAll second := by
  induction first with
  | nil => rfl
  | cons node nodes induction =>
      rw [List.cons_append, sitesAll, sitesAll, induction, List.append_assoc]

end Node

theorem sitesAll_markedScript (source : List Char) (file : FileOptions)
    (options : Options) (nodes : List Node) (complete : Bool) :
    Node.sitesAll (markedScript source file options nodes complete) =
      Site.markedAll (Setting.forText source file options) Tally.zero
        (Node.sitesAll nodes) := by
  have nothing : Node.sitesAll
      (if complete then [Node.group .unknown []] else []) = [] := by
    cases complete
    · rfl
    · rfl
  unfold markedScript
  dsimp only
  split
  · simp only [Node.sitesAll_append, Node.sitesAll_markedAll, nothing,
      Node.sitesAll, Node.sites_registration, List.append_nil]
  · exact Node.sitesAll_markedAll _ _ _

/-! ## The second traversal -/

/-- Sites of the same guise are chosen alike. -/
theorem Tally.choose_of_guise {setting : Setting} {first second : Site}
    (same : first.guise = second.guise) (tally : Tally) :
    tally.choose setting first = tally.choose setting second := by
  cases first with
  | element opening =>
      cases second with
      | element opening' =>
          simp only [Site.guise, Guise.element.injEq] at same
          simp only [choose, Marking.select, hasAttribute, same.1, same.2]
      | template tag extent => simp [Site.guise] at same
  | template tag extent =>
      cases second with
      | element opening => simp [Site.guise] at same
      | template tag' extent' =>
          simp only [Site.guise, Guise.template.injEq] at same
          simp only [choose, same]

/-- Whether anything is marked is seen from the guises of the sites. -/
theorem Tally.marks_eq_nil_iff_of_guises (setting : Setting) (tally : Tally)
    {first second : List Site}
    (same : first.map Site.guise = second.map Site.guise) :
    tally.marks setting first = [] ↔ tally.marks setting second = [] := by
  induction first generalizing tally second with
  | nil =>
      rw [List.map_nil, eq_comm, List.map_eq_nil_iff] at same
      rw [same]
  | cons site sites induction =>
      cases second with
      | nil => simp at same
      | cons site' sites' =>
          obtain ⟨here, later⟩ := List.cons.inj same
          simp only [marks, choose_of_guise here]
          split
          · simp
          · exact induction _ later

/-- The options of a run that may follow another one: both have no filters, or
both have the same ones. -/
inductive Repeats (options again : Options) : Prop where
  | whole (first : options.mode ≠ .split) (second : again.mode ≠ .split)
  | split (first : options.mode = .split) (second : again.mode = .split)
      (filter : again.filter = options.filter)

theorem Site.isMarked_of_ignored {file again : FileOptions}
    (ignored : again.ignored = file.ignored) :
    isMarked again = isMarked file := by
  funext site
  cases site with
  | element opening => simp only [isMarked, FileOptions.ignores, ignored]
  | template tag extent => rfl

/-- A marked element shows that it is marked, in whichever of the two modes
without filters. -/
theorem hasAttribute_marked_of_whole {mode : Mode} (whole : mode ≠ .split)
    (opening : Opening) :
    hasAttribute (opening.marked mode)
      [Marker.combined, Marker.expressionKey] = true := by
  cases mode with
  | path => simp [hasAttribute, Opening.marked, Mode.attributeNames]
  | key => simp [hasAttribute, Opening.marked, Mode.attributeNames]
  | split => exact absurd rfl whole

theorem hasAttribute_marked_split (opening : Opening) :
    hasAttribute (opening.marked .split) [Marker.splitFile] = true := by
  simp [hasAttribute, Opening.marked, Mode.attributeNames]

section Again

variable {setting again : Setting}

/-- The second run selects neither an element that the first one has marked nor
one that it has left alone, and counts as the first one did. -/
theorem Marking.select_again
    (ignored : again.file.ignored = setting.file.ignored)
    (repeats : Repeats setting.options again.options) (opening : Opening)
    (counted : Nat) :
    select again
        (if (select setting opening counted).1 then
          opening.marked setting.options.mode
        else
          opening) counted =
      (false, (select setting opening counted).2) := by
  cases repeats with
  | whole first second =>
      rw [select_of_whole first, select_of_whole second,
        Site.isMarked_of_ignored ignored]
      cases marked : Site.isMarked setting.file (.element opening) with
      | true =>
          have shown := hasAttribute_marked_of_whole first opening
          simp [Site.isMarked, shown]
      | false => simp [marked]
  | split first second filter =>
      have same : again.counts opening.name counted =
          setting.counts opening.name counted := by
        simp only [Setting.counts, FileOptions.ignores, ignored, filter]
      have shown := hasAttribute_marked_split opening
      have named : (opening.marked .split).name = opening.name := rfl
      rw [select_of_split first, select_of_split second, first]
      cases counts : setting.counts opening.name counted with
      | false => simp [same, counts]
      | true =>
          cases marked : hasAttribute opening [Marker.splitFile] with
          | true => simp [same, counts, marked]
          | false => simp [same, counts, shown, named]

/-- Marks inside the tag of a template do not make a styled one of it. -/
theorem Marking.styledTag?_marked (tally : Tally) (tag : Node) :
    styledTag? (tag.marked setting tally) = styledTag? tag := by
  cases tag with
  | member object property extent =>
      cases object with
      | element opening parts =>
          simp only [Node.marked]
          split
          · rfl
          · rfl
      | _ => rfl
  | element opening parts =>
      simp only [Node.marked]
      split
      · rfl
      · rfl
  | _ => rfl

/-- The tag of a styled template is a call afterwards. -/
theorem Marking.styledTag?_withAttrs (tag : Node) :
    styledTag? tag.withAttrs = none := rfl

/-- At no site of a marked script does the second run find anything to mark, and
it counts there as the first one did. -/
theorem Tally.choose_again
    (ignored : again.file.ignored = setting.file.ignored)
    (repeats : Repeats setting.options again.options) {tally other : Tally}
    (counted : other.counted = tally.counted) (site : Site) :
    (other.choose again (site.marked setting tally)).1 = false ∧
      (other.choose again (site.marked setting tally)).2.counted =
        (tally.choose setting site).2.counted := by
  cases site with
  | element opening =>
      have selected := Marking.select_again ignored repeats opening
        tally.counted
      have split : Site.marked setting tally (.element opening) =
          .element (if (Marking.select setting opening tally.counted).1 then
            opening.marked setting.options.mode
          else
            opening) := by
        simp only [Site.marked, choose]
        exact (apply_ite Site.element _ _ _).symm
      rw [split]
      simp only [choose, counted, selected]
      exact ⟨trivial, trivial⟩
  | template tag extent =>
      refine ⟨?_, counted⟩
      simp only [Site.marked, choose]
      cases repeats with
      | whole first second =>
          have instrumented : (setting.options.mode != .split) = true := by
            simpa using first
          by_cases styled : (Marking.styledTag? tag).isSome = true
          · simp [styled, instrumented, Marking.styledTag?_withAttrs]
          · simp [styled, Marking.styledTag?_marked]
      | split first second filter => simp [second]

/-- A traversal of marked sites marks none of them. -/
theorem Tally.marks_again
    (ignored : again.file.ignored = setting.file.ignored)
    (repeats : Repeats setting.options again.options) {tally other : Tally}
    (counted : other.counted = tally.counted) (sites : List Site) :
    other.marks again (Site.markedAll setting tally sites) = [] := by
  induction sites generalizing tally other with
  | nil => rfl
  | cons site sites induction =>
      obtain ⟨idle, next⟩ := choose_again ignored repeats counted site
      simp only [Site.markedAll, marks, induction next, idle,
        Bool.false_eq_true, if_false]

end Again

/-- A run over the tree of a marked script puts nothing in, and a text that is
read as such a tree, whatever the places are in it, is left alone. -/
theorem annotate_of_markedScript {options again : Options}
    {file other : FileOptions} (repeats : Repeats options again)
    (ignored : other.ignored = file.ignored) (source : List Char)
    (nodes : List Node) (complete : Bool) (out : String) :
    let marked := markedScript source file options nodes complete
    (markTree out.toList other again marked).2 = [] ∧
      ∀ parsed, Node.alikeAll parsed marked = true →
        other.filename ≠ "" →
        readScript other.filename out.toList = .ok parsed →
        annotate again out other = .ok none := by
  intro marked
  have idle : Tally.zero.marks (Setting.forText out.toList other again)
      (Node.sitesAll marked) = [] := by
    rw [sitesAll_markedScript]
    exact Tally.marks_again ignored repeats rfl (Node.sitesAll nodes)
  have nothing {parsed : List Node}
      (unmarked : Tally.zero.marks (Setting.forText out.toList other again)
        (Node.sitesAll parsed) = []) :
      (markTree out.toList other again parsed).2 = [] := by
    rw [markTree_eq, insertions_eq_map_marks, unmarked, List.map_nil]
  refine ⟨nothing idle, ?_⟩
  intro parsed same named read
  have guises := Node.guisesAll_of_alikeAll _ _ same
  have unmarked := (Tally.marks_eq_nil_iff_of_guises _ _ guises).mpr idle
  have unchanged : annotateTree out.toList other again parsed = none := by
    simp only [annotateTree, nothing unmarked, List.isEmpty_nil, if_true]
  rw [annotate_of_tree named read, unchanged, Option.map_none, ite_self]

/-- One element is marked, and there is no mark left for the one in the styled
template, which gets none itself next to such marks.  In the marked script the
first element counts as before, so the second one is left alone again. -/
theorem annotate_of_markedScript_limited :
    let options : Options := {
      mode := .split, environment := none, project := none
      current := "development"
      filter := { included := none, excluded := none, limit := some 1 } }
    let file : FileOptions := { filename := "a.js", ignored := [] }
    let source := "<p>\x7bstyled.t\x60$\x7b<b/>\x7d\x60\x7d</p>"
    let out := "<p data-source-file=\x7b\"a.js\"\x7d data-source-line=\"1\" " ++
      "data-source-column=\"0\">\x7bstyled.t\x60$\x7b<b/>\x7d\x60\x7d</p>"
    ∃ nodes parsed,
      readScript file.filename source.toList = .ok nodes ∧
      annotate options source file = .ok (some out) ∧
      readScript file.filename out.toList = .ok parsed ∧
      Node.alikeAll parsed
        (markedScript source.toList file options nodes false) = true ∧
      annotate options out file = .ok none := by
  intro options file source out
  let nodes := (readScript file.filename source.toList).toOption.getD []
  have named : file.filename ≠ "" := by decide
  have runs : passesThrough file.filename options = false := by decide +kernel
  have read : readScript file.filename source.toList = .ok nodes :=
    eq_ok_getD [] (by decide +kernel)
  obtain ⟨parsed, readAgain, same⟩ : ∃ parsed,
      readScript file.filename out.toList = .ok parsed ∧
        Node.alikeAll parsed
          (markedScript source.toList file options nodes false) = true :=
    exists_ok_of_toOption_map (by decide +kernel)
  have done : annotateTree source.toList file options nodes =
      some out.toList := by
    simp only [annotateTree, Insertion.applyAll_eq_interleave]
    decide +kernel
  have marked : annotate options source file = .ok (some out) := by
    rw [annotate_of_tree named read, runs, done, Option.map_some,
      String.ofList_toList]
    rfl
  have repeats : Repeats options options := .split rfl rfl rfl
  have again := annotate_of_markedScript repeats (rfl : file.ignored = _)
    source.toList nodes false out
  have unchanged := again.2 parsed same named readAgain
  exact ⟨nodes, parsed, read, marked, readAgain, same, unchanged⟩

end Script

end SourceMark
