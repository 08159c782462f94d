import SourceMark.Annotator
import SourceMark.Marker
import SourceMark.Template.Blocks
import SourceMark.Template.Tree
import SourceMark.Text.Insertion

/-!
# Annotating a component file

The tree of the template gets an added attribute at every eligible element, and
the added attributes become insertions behind the names of their tags.  Lines
and columns count from the start of the file, offsets of insertions from the
start of the template.
-/

namespace SourceMark

namespace Template

/-- Tags that put no element of their own on the page. -/
def builtInTags : List String :=
  ["template", "slot", "component", "transition", "transition-group",
    "keep-alive", "teleport", "suspense", "Component"]

/-- Whether a tag already has the combined attribute as a plain one. -/
def isMarked (attributes : List TagAttribute) : Bool :=
  attributes.any fun given =>
    given.isStatic && given.name == Marker.combined

/-- Whether an element gets an attribute. -/
def isEligible (options : FileOptions) (tag : String)
    (attributes : List TagAttribute) : Bool :=
  !(builtInTags.contains tag || options.ignores tag) && !isMarked attributes

/-- The attribute that carries the place of an element, not yet escaped. -/
def addedAttribute (filename : String) (place : Place) : TagAttribute where
  name := Marker.combined
  value := some (Location.ofPosition filename place.position).encode
  isAdded := true

mutual

/-- Add the attribute to every eligible element of a node. -/
def annotateNode (filename : String) (options : FileOptions) : Node → Node
  | .element tag attributes place selfClosing children =>
      let attributes :=
        if isEligible options tag attributes then
          attributes ++ [addedAttribute filename place]
        else
          attributes
      .element tag attributes place selfClosing
        (annotateNodes filename options children)
  | .repeated source child =>
      .repeated source (annotateNode filename options child)
  | .choice branches => .choice (annotateBranches filename options branches)
  | .text value => .text value
  | .interpolation value => .interpolation value
  | .comment value => .comment value

/-- Add the attribute to every eligible element of some nodes. -/
def annotateNodes (filename : String) (options : FileOptions) :
    List Node → List Node
  | [] => []
  | node :: nodes =>
      annotateNode filename options node ::
        annotateNodes filename options nodes

/-- Add the attribute to every eligible element of some branches. -/
def annotateBranches (filename : String) (options : FileOptions) :
    List (Option String × Node) → List (Option String × Node)
  | [] => []
  | (condition, node) :: branches =>
      (condition, annotateNode filename options node) ::
        annotateBranches filename options branches

end

mutual

/-- How many elements of a node are eligible. -/
def countNode (options : FileOptions) : Node → Nat
  | .element tag attributes _ _ children =>
      (if isEligible options tag attributes then 1 else 0) +
        countNodes options children
  | .repeated _ child => countNode options child
  | .choice branches => countBranches options branches
  | .text _ => 0
  | .interpolation _ => 0
  | .comment _ => 0

/-- How many elements of some nodes are eligible. -/
def countNodes (options : FileOptions) : List Node → Nat
  | [] => 0
  | node :: nodes => countNode options node + countNodes options nodes

/-- How many elements of some branches are eligible. -/
def countBranches (options : FileOptions) :
    List (Option String × Node) → Nat
  | [] => 0
  | (_, node) :: branches =>
      countNode options node + countBranches options branches

end

/-- The value of the added attribute, if it begins with the file name. -/
def addedValue? (filename : String) (attributes : List TagAttribute) :
    Option String :=
  let added := attributes.find? fun given =>
    given.isAdded && given.name == Marker.combined &&
      match given.value with
      | some value => Text.startsWith value filename
      | none => false
  match added with
  | some given => given.value
  | none => none

/-- The insertion for one element, whose offsets count from `base`. -/
def insertionFor (filename : String) (base : Nat) (tag : String)
    (attributes : List TagAttribute) (place : Place) : List Insertion :=
  match addedValue? filename attributes with
  | some value =>
      [{ offset := place.offset - base + 1 + Text.byteLength tag.toList
         text := " " ++ Marker.combined ++ "=\"" ++
          String.ofList (Marker.escape value.toList) ++ "\"" }]
  | none => []

mutual

/-- The insertions for the added attributes of a node. -/
def insertionsOfNode (filename : String) (base : Nat) : Node → List Insertion
  | .element tag attributes place _ children =>
      insertionFor filename base tag attributes place ++
        insertionsOfNodes filename base children
  | .repeated _ child => insertionsOfNode filename base child
  | .choice branches => insertionsOfBranches filename base branches
  | .text _ => []
  | .interpolation _ => []
  | .comment _ => []

/-- The insertions for the added attributes of some nodes. -/
def insertionsOfNodes (filename : String) (base : Nat) :
    List Node → List Insertion
  | [] => []
  | node :: nodes =>
      insertionsOfNode filename base node ++
        insertionsOfNodes filename base nodes

/-- The insertions for the added attributes of some branches. -/
def insertionsOfBranches (filename : String) (base : Nat) :
    List (Option String × Node) → List Insertion
  | [] => []
  | (_, node) :: branches =>
      insertionsOfNode filename base node ++
        insertionsOfBranches filename base branches

end

/-- The file with its template block replaced. -/
def replaceBody (source : List Char) (block : Block) (body : List Char) :
    List Char :=
  match Text.cutAt? source block.start with
  | some (before, rest) => before ++ body ++ rest.drop block.body.length
  | none => source

/-- Mark the elements of one template block. -/
def annotateBlock (source : List Char) (options : FileOptions)
    (block : Block) : Except Fault (Option (List Char)) :=
  match parse (LineIndex.ofText source).location block.start block.body with
  | .error fault => .error fault
  | .ok nodes =>
      if countNodes options nodes = 0 then
        .ok none
      else
        let filename := options.filename
        let marked := annotateNodes filename options nodes
        let insertions := insertionsOfNodes filename block.start marked
        .ok (some (replaceBody source block
          (Insertion.applyAll block.body insertions)))

/-- Mark the elements of the template of a component file.  A file without a
template, with a template in another language or with faulty markup is left
alone. -/
def annotateFile (source : List Char) (options : FileOptions) :
    Except Fault (Option (List Char)) := do
  let blocks ← splitBlocks source
  match blocks.template with
  | none => return none
  | some block =>
      if block.isMarkup then
        annotateBlock source options block
      else
        return none

/-- Mark the elements of the template of a component file. -/
def annotate (source : String) (options : FileOptions) : Annotation := do
  let _ ← options.requireFilename
  match annotateFile source.toList options with
  | .ok code => return code.map String.ofList
  | .error fault => if fault.isFinal then throw .aborted else return none

/-- The annotator of component files. -/
def annotator : Annotator where
  dialect := "vue"
  accepts := fun filename _ => Text.endsWith filename ".vue"
  annotate := annotate

end Template

end SourceMark
