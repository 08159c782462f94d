import SourceMark.Template.Tag

/-!
# The blocks of a component file

A component file is a row of blocks: at most one template, and any number of
scripts, styles and custom blocks.  The body of a template may hold further
template elements; every other body is text up to its end tag.
-/

namespace SourceMark

namespace Template

/-- A block of a component file. -/
structure Block where
  kind : String
  attributes : List TagAttribute
  /-- The offset at which the body starts. -/
  start : Nat
  body : List Char
deriving Repr, DecidableEq

namespace Block

/-- The offset behind the body. -/
def stop (block : Block) : Nat :=
  block.start + Text.byteLength block.body

/-- The language that the block names. -/
def lang? (block : Block) : Option String :=
  match block.attributes.find? fun given => given.name == "lang" with
  | some given => given.value
  | none => none

/-- Whether the body is plain markup. -/
def isMarkup (block : Block) : Bool :=
  match block.lang? with
  | none => true
  | some lang => lang = "html"

/-- Whether the block is the template of its file. -/
def isTemplate (block : Block) : Bool :=
  block.kind = "template"

end Block

/-- Whether a text starts with this opening of a tag, and the name ends
there. -/
def startsTag (opening : List Char) (text : List Char) : Bool :=
  opening.isPrefixOf text &&
    match text.drop opening.length with
    | [] => false
    | character :: _ =>
        character = '>' || character = '/' || Text.isAsciiBlank character

/-- The characters that open a comment. -/
def commentOpening : List Char := ['<', '!', '-', '-']

/-- The characters that close a comment. -/
def commentClosing : List Char := ['-', '-', '>']

/-- The cursor behind the comment that comes next.  The closing mark may share
characters with the opening one. -/
def behindComment? (cursor : Cursor) : Option Cursor :=
  match Cursor.find? commentClosing cursor.offset cursor.rest with
  | some (_, close) => some (close.skip 3)
  | none => none

theorem length_behindComment? {cursor behind : Cursor}
    (found : behindComment? cursor = some behind) :
    behind.rest.length < cursor.rest.length := by
  unfold behindComment? at found
  split at found
  · next before close equality =>
      obtain rfl := by simpa using found
      have total := Cursor.length_find? equality
      have here := Cursor.isPrefixOf_of_find? equality
      have positive : 0 < close.rest.length := by
        cases rest : close.rest with
        | nil => simp [rest, commentClosing] at here
        | cons character later => simp
      rw [Cursor.length_skip]
      omega
  · simp at found

/-- What a piece of the body of a template does to the number of template
elements that are open. -/
inductive BodyPiece where
  | plain
  | opens
  | closes
deriving Repr, DecidableEq

/-- The next piece of the body of a template and the cursor behind it: a
comment, the tag of a template element, or a single character.  There is none
when a comment or a tag lacks its end. -/
def bodyPiece? (character : Char) (rest : List Char) (offset : Nat) :
    Option (BodyPiece × Cursor) :=
  if commentOpening.isPrefixOf (character :: rest) then
    match behindComment? { rest := character :: rest, offset } with
    | some behind => some (.plain, behind)
    | none => none
  else if startsTag "</template".toList (character :: rest) then
    match Cursor.find? ['>'] (offset + character.utf8Size) rest with
    | some (_, bracket) => some (.closes, bracket.skip 1)
    | none => none
  else if startsTag "<template".toList (character :: rest) then
    match readOpenTag { rest := character :: rest, offset } with
    | .ok (some (tag, behind)) =>
        some (if tag.selfClosing then .plain else .opens, behind)
    | _ => none
  else
    some (.plain, { rest, offset := offset + character.utf8Size })

theorem length_bodyPiece? {character : Char} {rest : List Char} {offset : Nat}
    {piece : BodyPiece} {behind : Cursor}
    (found : bodyPiece? character rest offset = some (piece, behind)) :
    behind.rest.length ≤ rest.length := by
  unfold bodyPiece? at found
  split at found
  · split at found
    · next later equality =>
        obtain ⟨_, rfl⟩ := by simpa using found
        have := length_behindComment? equality
        simp only [List.length_cons] at this
        omega
    · simp at found
  · split at found
    · split at found
      · next before bracket equality =>
          simp only [Option.some.injEq, Prod.mk.injEq] at found
          obtain ⟨_, rfl⟩ := found
          have := Cursor.length_find? equality
          rw [Cursor.length_skip]
          omega
      · simp at found
    · split at found
      · split at found
        · next tag later equality =>
            simp only [Option.some.injEq, Prod.mk.injEq] at found
            obtain ⟨_, rfl⟩ := found
            have := length_readOpenTag equality
            simp only [List.length_cons] at this
            omega
        · simp at found
      · simp only [Option.some.injEq, Prod.mk.injEq] at found
        obtain ⟨_, rfl⟩ := found
        exact Nat.le_refl _

/-- The end of the template whose body is being read, with `depth` further
template elements open inside it: the cursor in front of the end tag and the
cursor behind it. -/
def templateEnd? (depth offset : Nat) : List Char → Option (Cursor × Cursor)
  | [] => none
  | character :: rest =>
      match _equality : bodyPiece? character rest offset with
      | none => none
      | some (.plain, behind) =>
          templateEnd? depth behind.offset behind.rest
      | some (.opens, behind) =>
          templateEnd? (depth + 1) behind.offset behind.rest
      | some (.closes, behind) =>
          match depth with
          | 0 => some ({ rest := character :: rest, offset }, behind)
          | depth + 1 => templateEnd? depth behind.offset behind.rest
termination_by text => text.length
decreasing_by
  all_goals
    have := length_bodyPiece? ‹_›
    simp only [List.length_cons]
    omega

theorem length_templateEnd? {depth offset : Nat} {text : List Char}
    {close after : Cursor}
    (found : templateEnd? depth offset text = some (close, after)) :
    after.rest.length ≤ text.length := by
  match text with
  | [] => simp [templateEnd?] at found
  | character :: rest =>
      rw [templateEnd?] at found
      simp only [List.length_cons]
      split at found
      · simp at found
      · next behind equality =>
          have := length_bodyPiece? equality
          have := length_templateEnd? found
          omega
      · next behind equality =>
          have := length_bodyPiece? equality
          have := length_templateEnd? found
          omega
      · next behind equality =>
          have := length_bodyPiece? equality
          split at found
          · obtain ⟨_, rfl⟩ := by simpa using found
            omega
          · have := length_templateEnd? found
            omega
termination_by text.length
decreasing_by
  all_goals
    have := length_bodyPiece? ‹_›
    simp only [List.length_cons]
    omega

/-- The body of a block behind its opening tag, and the cursor behind the
block. -/
def readBody (tag : OpenTag) (behind : Cursor) :
    Except Fault (List Char × Cursor) :=
  if tag.selfClosing then
    .ok ([], behind)
  else if tag.name = "template" then
    match templateEnd? 0 behind.offset behind.rest with
    | some (close, after) => .ok (Cursor.upTo behind close, after)
    | none => .error (.missingEndTag "template")
  else
    match findEndTag? tag.name.toList behind.offset behind.rest with
    | some (body, close) => .ok (body, behindBracket close)
    | none => .error (.missingEndTag tag.name)

theorem length_readBody {tag : OpenTag} {behind after : Cursor}
    {body : List Char} (success : readBody tag behind = .ok (body, after)) :
    after.rest.length ≤ behind.rest.length := by
  unfold readBody at success
  split at success
  · obtain ⟨_, rfl⟩ := by simpa using success
    exact Nat.le_refl _
  · split at success
    · split at success
      · next close later equality =>
          obtain ⟨_, rfl⟩ := by simpa using success
          exact length_templateEnd? equality
      · simp at success
    · split at success
      · next inner close equality =>
          simp only [Except.ok.injEq, Prod.mk.injEq] at success
          obtain ⟨_, rfl⟩ := success
          have := length_findEndTag? equality
          have := length_behindBracket close
          omega
      · simp at success

/-- The blocks from a place of the file on.  A second template is refused when
it has been read. -/
def blocksFrom (hasTemplate : Bool) (offset : Nat) :
    List Char → Except Fault (List Block)
  | [] => .ok []
  | character :: rest =>
      if character ≠ '<' then
        blocksFrom hasTemplate (offset + character.utf8Size) rest
      else if commentOpening.isPrefixOf (character :: rest) then
        match _comment : behindComment? { rest := character :: rest, offset } with
        | some behind => blocksFrom hasTemplate behind.offset behind.rest
        | none => .error (.openComment offset)
      else
        match _tag : readOpenTag { rest := character :: rest, offset } with
        | .error fault => .error fault
        | .ok none =>
            blocksFrom hasTemplate (offset + character.utf8Size) rest
        | .ok (some (tag, behind)) =>
            match _body : readBody tag behind with
            | .error fault => .error fault
            | .ok (body, after) =>
                let block : Block := {
                  kind := tag.name
                  attributes := tag.attributes
                  start := behind.offset
                  body }
                if block.isTemplate && hasTemplate then
                  .error .secondTemplate
                else
                  match blocksFrom (hasTemplate || block.isTemplate)
                      after.offset after.rest with
                  | .ok blocks => .ok (block :: blocks)
                  | .error fault => .error fault
termination_by text => text.length
decreasing_by
  · simp
  · exact length_behindComment? _comment
  · simp
  · have read := length_readOpenTag _tag
    have body := length_readBody _body
    simp only [List.length_cons] at read ⊢
    omega

/-- The blocks of a component file by kind. -/
structure Blocks where
  template : Option Block
  scripts : List Block
  styles : List Block
  custom : List Block
deriving Repr, DecidableEq

/-- Sort blocks by kind; within a kind they keep their order. -/
def Blocks.ofList (blocks : List Block) : Blocks where
  template := blocks.find? Block.isTemplate
  scripts := blocks.filter fun block => block.kind = "script"
  styles := blocks.filter fun block => block.kind = "style"
  custom := blocks.filter fun block =>
    !(["template", "script", "style"].contains block.kind)

/-- Split a component file into its blocks. -/
def splitBlocks (source : List Char) : Except Fault Blocks :=
  match blocksFrom false 0 source with
  | .ok blocks => .ok (Blocks.ofList blocks)
  | .error fault => .error fault

end Template

end SourceMark
