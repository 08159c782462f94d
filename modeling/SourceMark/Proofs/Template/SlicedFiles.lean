import SourceMark.Proofs.Template.Annotation
import SourceMark.Proofs.Template.SlicedTrees
import SourceMark.Proofs.Text.OnePass

/-!
# Files read and marked by byte offsets

Both loops over a file jump to the next bracket and go on from there.  Nothing
is lost on the way: between brackets there is neither a block nor a tag of a
template.

Marking a component file by offsets cuts it in front of the template and behind
it, and puts the marks into the template from the last one to the first.  Every
cut lies between characters, so marking breaks only where the reading of the
template does.
-/

namespace SourceMark

namespace Template

open Cursor (IsWindow)

/-! ## Jumping to the next bracket -/

theorem bodyPiece?_of_ne {character : Char} (other : character ≠ '<')
    (rest : List Char) (offset : Nat) :
    bodyPiece? character rest offset =
      some (.plain, { rest, offset := offset + character.utf8Size }) := by
  have none (name : List Char) :
      ('<' :: name).isPrefixOf (character :: rest) = false :=
    Sliced.prefix_of_ne other rest
  have untagged (name : List Char) :
      startsTag ('<' :: name) (character :: rest) = false := by
    simp only [startsTag, none, Bool.false_and]
  have closing : "</template".toList = '<' :: "/template".toList := rfl
  have opening : "<template".toList = '<' :: "template".toList := rfl
  simp only [bodyPiece?, commentOpening, none, closing, opening, untagged,
    Bool.false_eq_true, if_false]

theorem find?_bracket (character : Char) (rest : List Char) (offset : Nat) :
    (character = '<' ∧ Cursor.find? ['<'] offset (character :: rest) =
        some ([], { rest := character :: rest, offset })) ∨
      (character ≠ '<' ∧ Cursor.find? ['<'] offset (character :: rest) =
        (Cursor.find? ['<'] (offset + character.utf8Size) rest).map
          fun found => (character :: found.1, found.2)) := by
  by_cases bracket : character = '<'
  · subst bracket
    exact .inl ⟨rfl, rfl⟩
  · refine .inr ⟨bracket, ?_⟩
    simp only [Cursor.find?, Sliced.prefix_of_ne bracket, Bool.false_eq_true,
      if_false]
    cases Cursor.find? ['<'] (offset + character.utf8Size) rest with
    | none => rfl
    | some found => rfl

theorem templateEnd?_of_find? (depth offset : Nat) (text : List Char) :
    templateEnd? depth offset text =
      (Cursor.find? ['<'] offset text).bind fun found =>
        templateEnd? depth found.2.offset found.2.rest := by
  induction text generalizing offset with
  | nil => rw [templateEnd?]; rfl
  | cons character rest induction =>
      rcases find?_bracket character rest offset with
        ⟨_, found⟩ | ⟨other, found⟩
      · rw [found]
        rfl
      · have skip : templateEnd? depth offset (character :: rest) =
            templateEnd? depth (offset + character.utf8Size) rest := by
          rw [templateEnd?_cons, bodyPiece?_of_ne other]
        rw [skip, induction, found, Option.bind_map]
        rfl

theorem blocksFrom_of_find? (hasTemplate : Bool) (offset : Nat)
    (text : List Char) :
    blocksFrom hasTemplate offset text =
      match Cursor.find? ['<'] offset text with
      | none => .ok []
      | some (_, close) => blocksFrom hasTemplate close.offset close.rest := by
  induction text generalizing offset with
  | nil => rw [blocksFrom]; rfl
  | cons character rest induction =>
      rcases find?_bracket character rest offset with
        ⟨_, found⟩ | ⟨other, found⟩
      · rw [found]
      · have skip : blocksFrom hasTemplate offset (character :: rest) =
            blocksFrom hasTemplate (offset + character.utf8Size) rest := by
          rw [blocksFrom, if_pos other]
        rw [skip, induction, found]
        cases Cursor.find? ['<'] (offset + character.utf8Size) rest with
        | none => rfl
        | some hit => rfl

theorem rest_of_bracket {cursor close : Cursor} {before : List Char}
    (found : Cursor.find? ['<'] cursor.offset cursor.rest =
      some (before, close)) :
    ∃ more, close = { rest := '<' :: more, offset := close.offset } := by
  obtain ⟨more, here⟩ :=
    List.isPrefixOf_iff_prefix.mp (Cursor.isPrefixOf_of_find? found)
  exact ⟨more, by rw [← List.singleton_append, here]⟩

namespace Sliced

/-! ## The body of a template -/

theorem isAsciiTest_endsName : Text.IsAsciiTest endsName := by
  apply isAsciiTest_of_false
  intro character beyond
  simp [endsName, isAsciiBlank_of_le beyond,
    ne_of_le '>' beyond (by decide),
    ne_of_le '/' beyond (by decide)]

/-- The byte behind the name of a tag tells whether the name ends there. -/
theorem startsTag_eq (opening text : List Char) :
    startsTag opening text = .ok (Template.startsTag opening text) := by
  by_cases leads : opening.isPrefixOf text = true
  · obtain ⟨rest, rfl⟩ := List.isPrefixOf_iff_prefix.mp leads
    have next := (IsWindow.ofText rest).stands_whole isAsciiTest_endsName
    simp only [Cursor.ofText] at next
    simp only [startsTag, Template.startsTag, leads, if_true, slice_behind,
      bind, Except.bind, next, pure, Except.pure, Bool.true_and,
      List.drop_left]
    cases rest with
    | nil => rfl
    | cons character rest => rfl
  · simp only [startsTag, Template.startsTag, leads, Bool.false_eq_true,
      if_false, Bool.false_and]
    rfl

section Files

variable {source more : List Char} {offset : Nat}

theorem bracketFrom_eq {cursor : Cursor}
    (window : IsWindow source (Text.byteLength source) cursor) :
    bracketFrom source cursor.offset =
      .ok ((Cursor.find? ['<'] cursor.offset cursor.rest).map
        fun found => found.2.offset) := by
  simp only [bracketFrom, slice_rest window, bind, Except.bind,
    find?_eq ['<'] cursor.rest cursor.offset]
  cases found : Cursor.find? ['<'] cursor.offset cursor.rest with
  | none => rfl
  | some hit =>
      obtain ⟨before, close⟩ := hit
      have place := (Cursor.reaches_find? found).offset
      simp only [Option.map_some, place]
      rfl

/-- How the loop over the body of a template goes on behind a bracket, with so
many template elements open inside the template. -/
def ofPiece (depth offset : Nat) :
    Option (BodyPiece × Cursor) → Round Nat (Option (Nat × Nat))
  | none => .done none
  | some (.plain, behind) => .next behind.offset (depth + 1)
  | some (.opens, behind) => .next behind.offset (depth + 2)
  | some (.closes, behind) =>
      match depth with
      | 0 => .done (some (offset, behind.offset))
      | depth + 1 => .next behind.offset (depth + 1)

/-- The offsets of the end of a template, of which the loop counts the template
as one open element. -/
def bodyAnswer (cursor : Cursor) (depth : Nat) :
    Except Halt (Option (Nat × Nat)) :=
  .ok ((templateEnd? (depth - 1) cursor.offset cursor.rest).map
    fun ends => (ends.1.offset, ends.2.offset))

theorem find?_comment (offset : Nat) (rest : List Char) :
    (find? commentClosing rest).map (offset + · + 3) =
      (behindComment? { rest, offset }).map Cursor.offset := by
  have three : Text.byteLength commentClosing = 3 := rfl
  have length : commentClosing.length = 3 := rfl
  have behind := find?_behind commentClosing rest offset
  rw [three, length] at behind
  rw [behind, behindComment?]
  cases Cursor.find? commentClosing offset rest with
  | none => rfl
  | some found => rfl

/-- The closing bracket of a tag is searched for from its opening one on. -/
theorem find?_closing (offset : Nat) (more : List Char) :
    (find? ['>'] ('<' :: more)).map (offset + · + 1) =
      (Cursor.find? ['>'] (offset + '<'.utf8Size) more).map
        fun found => (found.2.skip 1).offset := by
  have one : Text.byteLength ['>'] = 1 := rfl
  have length : ['>'].length = 1 := rfl
  have behind := find?_behind ['>'] ('<' :: more) offset
  rw [one, length] at behind
  rw [behind, Cursor.find?]
  cases Cursor.find? ['>'] (offset + '<'.utf8Size) more with
  | none => rfl
  | some found => rfl

theorem bodyBracket_eq (depth : Nat)
    (window : IsWindow source (Text.byteLength source)
      { rest := '<' :: more, offset }) :
    bodyBracket source offset (depth + 1) =
      .ok (ofPiece depth offset (bodyPiece? '<' more offset)) := by
  have whole := slice_rest window
  simp only [bodyBracket, whole, bind, Except.bind, startsTag_eq, bodyPiece?]
  by_cases comments : commentOpening.isPrefixOf ('<' :: more) = true
  · have comment := find?_comment offset ('<' :: more)
    simp only [comments, if_true]
    cases found : behindComment? { rest := '<' :: more, offset } with
    | none =>
        rw [found, Option.map_none, Option.map_eq_none_iff] at comment
        rw [comment]
        rfl
    | some behind =>
        rw [found, Option.map_some, Option.map_eq_some_iff] at comment
        obtain ⟨close, ends, place⟩ := comment
        rw [ends]
        simp only [place]
        rfl
  · simp only [comments, Bool.false_eq_true, if_false]
    by_cases closes : Template.startsTag "</template".toList ('<' :: more) = true
    · have closing := find?_closing offset more
      simp only [closes, if_true]
      cases found : Cursor.find? ['>'] (offset + '<'.utf8Size) more with
      | none =>
          rw [found, Option.map_none, Option.map_eq_none_iff] at closing
          rw [closing]
          rfl
      | some hit =>
          rw [found, Option.map_some, Option.map_eq_some_iff] at closing
          obtain ⟨close, ends, place⟩ := closing
          rw [ends]
          simp only [place]
          cases depth with
          | zero => rfl
          | succ depth => rfl
    · simp only [closes, Bool.false_eq_true, if_false]
      by_cases opens : Template.startsTag "<template".toList ('<' :: more) =
          true
      · simp only [opens, if_true, openTag_eq window]
        cases readOpenTag { rest := '<' :: more, offset } with
        | error fault => rfl
        | ok result =>
            cases result with
            | none => rfl
            | some found =>
                obtain ⟨tag, behind⟩ := found
                cases closing : tag.selfClosing with
                | true => simp [ofTag, ofPiece, closing, pure, Except.pure]
                | false => simp [ofTag, ofPiece, closing, pure, Except.pure]
      · simp only [opens, Bool.false_eq_true, if_false]
        rfl

theorem agrees_bodyBracket {depth : Nat} (isOpen : 0 < depth)
    (window : IsWindow source (Text.byteLength source)
      { rest := '<' :: more, offset }) :
    Agrees (bodyBracket source) bodyAnswer (0 < ·)
      { rest := '<' :: more, offset } depth := by
  obtain ⟨depth, rfl⟩ := Nat.exists_eq_add_one.mpr isOpen
  have round := bodyBracket_eq depth window
  have answer : bodyAnswer { rest := '<' :: more, offset } (depth + 1) =
      .ok ((templateEnd? depth offset ('<' :: more)).map
        fun ends => (ends.1.offset, ends.2.offset)) := rfl
  rw [templateEnd?_cons] at answer
  cases piece : bodyPiece? '<' more offset with
  | none =>
      rw [piece] at round answer
      exact .ends round answer
  | some given =>
      obtain ⟨kind, behind⟩ := given
      obtain ⟨taken, passed⟩ := leads_bodyPiece? piece
      have some := passed.ne_nil (Nat.lt_succ_of_le (length_bodyPiece? piece))
      rw [piece] at round answer
      cases kind with
      | plain => exact .goes round passed some (Nat.succ_pos depth) answer
      | opens => exact .goes round passed some (Nat.succ_pos _) answer
      | closes =>
          cases depth with
          | zero => exact .ends round answer
          | succ depth =>
              exact .goes round passed some (Nat.succ_pos depth) answer

/-- A round over the body of a template gets behind the next piece that starts
with a bracket. -/
theorem agrees_bodyRound (cursor : Cursor) (depth : Nat)
    (window : IsWindow source (Text.byteLength source) cursor)
    (isOpen : 0 < depth) :
    Agrees (bodyRound source) bodyAnswer (0 < ·) cursor depth := by
  have search := bracketFrom_eq window
  have skip := templateEnd?_of_find? (depth - 1) cursor.offset cursor.rest
  cases found : Cursor.find? ['<'] cursor.offset cursor.rest with
  | none =>
      rw [found] at search skip
      have done : bodyRound source cursor.offset depth = .ok (.done none) := by
        simp only [bodyRound, search, bind, Except.bind]
        rfl
      apply Agrees.ends done
      rw [bodyAnswer, skip]
      rfl
  | some hit =>
      obtain ⟨before, close⟩ := hit
      have moved := Cursor.reaches_find? found
      obtain ⟨more, bracket⟩ := rest_of_bracket found
      have here := window.reaches moved
      rw [found] at search skip
      have jumps : bodyRound source cursor.offset depth =
          bodyBracket source close.offset depth := by
        simp only [bodyRound, search, bind, Except.bind, Option.map_some]
      have known : bodyAnswer cursor depth = bodyAnswer close depth := by
        rw [bodyAnswer, skip, Option.bind_some, bodyAnswer]
      rw [bracket] at here
      have agrees := agrees_bodyBracket isOpen here
      rw [← bracket] at agrees
      exact agrees.jump jumps moved known

theorem loop_bodyRound {cursor : Cursor}
    (window : IsWindow source (Text.byteLength source) cursor) :
    loop (Text.byteLength source) (bodyRound source) cursor.offset 1 =
      .ok ((templateEnd? 0 cursor.offset cursor.rest).map
        fun ends => (ends.1.offset, ends.2.offset)) :=
  loop_eq agrees_bodyRound window Nat.one_pos

/-! ## The blocks of a file -/

/-- The offset behind the body of a block, and the one behind the block. -/
def ofBody (start : Nat) :
    Except Fault (List Char × Cursor) → Except Halt (Nat × Nat)
  | .ok (body, after) => .ok (start + Text.byteLength body, after.offset)
  | .error fault => .error (.fault fault)

theorem bodyEnds_eq {behind : Cursor} (tag : OpenTag)
    (window : IsWindow source (Text.byteLength source) behind) :
    bodyEnds source tag behind.offset =
      ofBody behind.offset (readBody tag behind) := by
  unfold bodyEnds readBody
  by_cases closed : tag.selfClosing = true
  · simp only [closed, if_true]
    rfl
  · simp only [closed, Bool.false_eq_true, if_false]
    by_cases nests : tag.name = "template"
    · simp only [nests, if_true, bind, Except.bind, loop_bodyRound window]
      cases found : templateEnd? 0 behind.offset behind.rest with
      | none => rfl
      | some ends =>
          obtain ⟨close, after⟩ := ends
          obtain ⟨body, ending, inside, _⟩ := leads_templateEnd? found
          have place := inside.offset
          simp only at place
          simp only [Option.map_some, ofBody, inside.upTo_eq, place]
          rfl
    · simp only [nests, if_false, bind, Except.bind, endTag_eq window]
      cases found : findEndTag? tag.name.toList behind.offset behind.rest with
      | none => rfl
      | some hit =>
          obtain ⟨body, close⟩ := hit
          have moved := reaches_findEndTag? found
          have place := moved.offset
          simp only at place
          simp only [Option.map_some, behindEnd_eq (window.reaches moved),
            ofBody]
          rw [← place]
          rfl

/-- The blocks from a place of the file on, behind those that are given. -/
def blockAnswer (cursor : Cursor) (given : List Span) :
    Except Halt (List Span) :=
  match blocksFrom (given.any Span.isTemplate) cursor.offset cursor.rest with
  | .ok blocks => .ok (given ++ blocks.map Span.ofBlock)
  | .error fault => .error (.fault fault)

theorem blockAnswer_mk (rest : List Char) (offset : Nat) (given : List Span) :
    blockAnswer { rest, offset } given =
      match blocksFrom (given.any Span.isTemplate) offset rest with
      | .ok blocks => .ok (given ++ blocks.map Span.ofBlock)
      | .error fault => .error (.fault fault) :=
  rfl

theorem agrees_blockComment (given : List Span)
    (comments : commentOpening.isPrefixOf ('<' :: more) = true)
    (window : IsWindow source (Text.byteLength source)
      { rest := '<' :: more, offset }) :
    Agrees (blockBracket source) blockAnswer (fun _ => True)
      { rest := '<' :: more, offset } given := by
  have whole := slice_rest window
  have ends := find?_comment offset ('<' :: more)
  have answer := blockAnswer_mk ('<' :: more) offset given
  rw [blocksFrom_bracket, if_pos comments] at answer
  cases found : behindComment? { rest := '<' :: more, offset } with
  | none =>
      rw [found, Option.map_none, Option.map_eq_none_iff] at ends
      rw [found] at answer
      refine .halts ?_ answer
      simp only [blockBracket, whole, bind, Except.bind, comments, if_true,
        ends]
      rfl
  | some behind =>
      obtain ⟨taken, moved⟩ := leads_behindComment? found
      have shorter := length_behindComment? found
      rw [found, Option.map_some, Option.map_eq_some_iff] at ends
      obtain ⟨close, ends, place⟩ := ends
      rw [found] at answer
      -- The end of the comment may lie in its opening mark: nothing is sliced.
      refine .goes ?_ moved (moved.ne_nil shorter) trivial answer
      simp only [blockBracket, whole, bind, Except.bind, comments, if_true,
        ends, place]
      rfl

theorem agrees_blockTag (given : List Span)
    (other : ¬ commentOpening.isPrefixOf ('<' :: more) = true)
    (window : IsWindow source (Text.byteLength source)
      { rest := '<' :: more, offset }) {tag : OpenTag} {behind : Cursor}
    (read : readOpenTag { rest := '<' :: more, offset } =
      .ok (some (tag, behind))) :
    Agrees (blockBracket source) blockAnswer (fun _ => True)
      { rest := '<' :: more, offset } given := by
  have whole := slice_rest window
  obtain ⟨taken, moved⟩ := reaches_readOpenTag read
  have ends := bodyEnds_eq tag (window.reaches moved)
  have answer := blockAnswer_mk ('<' :: more) offset given
  rw [blocksFrom_bracket, if_neg other, read] at answer
  cases inside : readBody tag behind with
  | error fault =>
      rw [inside] at ends
      simp only [inside] at answer
      refine .halts ?_ answer
      simp only [blockBracket, whole, bind, Except.bind, other,
        Bool.false_eq_true, if_false, openTag_eq window, read, ofTag, ends,
        ofBody]
  | ok found =>
      obtain ⟨body, after⟩ := found
      obtain ⟨ending, passed⟩ := reaches_readBody inside
      have both := moved.trans passed
      have shorter : after.rest.length < ('<' :: more).length :=
        Nat.lt_of_le_of_lt (length_readBody inside) (length_readOpenTag read)
      let block : Block := {
        kind := tag.name
        attributes := tag.attributes
        start := behind.offset
        body }
      rw [inside] at ends
      have round : blockBracket source offset given =
          if block.isTemplate && given.any Span.isTemplate then
            .error (.fault .secondTemplate)
          else
            .ok (.next after.offset (given ++ [Span.ofBlock block])) := by
        simp only [blockBracket, whole, bind, Except.bind, other,
          Bool.false_eq_true, if_false, openTag_eq window, read, ofTag, ends,
          ofBody]
        rfl
      simp only [inside] at answer
      by_cases second : (block.isTemplate && given.any Span.isTemplate) = true
      · rw [if_pos second] at round answer
        exact .halts round answer
      · rw [if_neg second] at round answer
        have counted : (given ++ [Span.ofBlock block]).any Span.isTemplate =
            (given.any Span.isTemplate || block.isTemplate) := by
          simp [Span.isTemplate, Span.ofBlock, Block.isTemplate]
        refine .goes round both (both.ne_nil shorter) trivial
          (answer.trans ?_)
        rw [blockAnswer, counted]
        cases blocksFrom (given.any Span.isTemplate || block.isTemplate)
            after.offset after.rest with
        | error fault => rfl
        | ok blocks => simp [block, Except.map]

theorem agrees_blockBracket (given : List Span)
    (window : IsWindow source (Text.byteLength source)
      { rest := '<' :: more, offset }) :
    Agrees (blockBracket source) blockAnswer (fun _ => True)
      { rest := '<' :: more, offset } given := by
  by_cases comments : commentOpening.isPrefixOf ('<' :: more) = true
  · exact agrees_blockComment given comments window
  · have whole := slice_rest window
    have answer := blockAnswer_mk ('<' :: more) offset given
    rw [blocksFrom_bracket, if_neg comments] at answer
    cases read : readOpenTag { rest := '<' :: more, offset } with
    | error fault =>
        rw [read] at answer
        refine .halts ?_ answer
        simp only [blockBracket, whole, bind, Except.bind, comments,
          Bool.false_eq_true, if_false, openTag_eq window, read, ofTag]
    | ok result =>
        cases result with
        | none =>
            have one : Cursor.Reaches { rest := '<' :: more, offset } ['<']
                { rest := more, offset := offset + 1 } :=
              (Cursor.Reaches.refl _).cons
            rw [read] at answer
            refine .goes ?_ one (by simp) trivial answer
            simp only [blockBracket, whole, bind, Except.bind, comments,
              Bool.false_eq_true, if_false, openTag_eq window, read, ofTag]
            rfl
        | some tagged => exact agrees_blockTag given comments window read

/-- A round over the blocks of a file gets behind what the next bracket
opens. -/
theorem agrees_blockRound (cursor : Cursor) (given : List Span)
    (window : IsWindow source (Text.byteLength source) cursor) :
    Agrees (blockRound source) blockAnswer (fun _ => True) cursor given := by
  have search := bracketFrom_eq window
  have skip := blocksFrom_of_find? (given.any Span.isTemplate) cursor.offset
    cursor.rest
  cases found : Cursor.find? ['<'] cursor.offset cursor.rest with
  | none =>
      rw [found] at search skip
      have done : blockRound source cursor.offset given =
          .ok (.done given) := by
        simp only [blockRound, search, bind, Except.bind]
        rfl
      apply Agrees.ends done
      simp [blockAnswer, skip]
  | some hit =>
      obtain ⟨before, close⟩ := hit
      have moved := Cursor.reaches_find? found
      obtain ⟨more, bracket⟩ := rest_of_bracket found
      have here := window.reaches moved
      rw [found] at search skip
      have jumps : blockRound source cursor.offset given =
          blockBracket source close.offset given := by
        simp only [blockRound, search, bind, Except.bind, Option.map_some]
      have known : blockAnswer cursor given = blockAnswer close given := by
        simp only [blockAnswer, skip]
      rw [bracket] at here
      have agrees := agrees_blockBracket given here
      rw [← bracket] at agrees
      exact agrees.jump jumps moved known

theorem splitBlocks_eq (source : List Char) :
    splitBlocks source =
      match blocksFrom false 0 source with
      | .ok blocks => .ok (blocks.map Span.ofBlock)
      | .error fault => .error (.fault fault) := by
  have rounds (cursor : Cursor) (given : List Span)
      (window : IsWindow source (Text.byteLength source) cursor)
      (_ : True) := agrees_blockRound cursor given window
  have all : splitBlocks source = blockAnswer (Cursor.ofText source) [] :=
    loop_eq rounds (IsWindow.ofText source) trivial
  rw [all, blockAnswer]
  rfl

end Files

end Sliced

/-! ## Faults between blocks -/

theorem isFinal_of_readBody {tag : OpenTag} {behind : Cursor} {fault : Fault}
    (failed : readBody tag behind = .error fault) : fault.isFinal = false := by
  unfold readBody at failed
  split at failed
  · simp at failed
  · split at failed
    · split at failed
      · simp at failed
      · obtain rfl := by simpa using failed
        rfl
    · split at failed
      · simp at failed
      · obtain rfl := by simpa using failed
        rfl

/-- What is wrong with the blocks of a file is a fault that a reading gets
over. -/
theorem isFinal_of_blocksFrom {hasTemplate : Bool} {offset : Nat}
    {text : List Char} {fault : Fault}
    (failed : blocksFrom hasTemplate offset text = .error fault) :
    fault.isFinal = false := by
  fun_induction blocksFrom hasTemplate offset text generalizing fault
  case case1 => simp at failed
  case case2 induction => exact induction failed
  case case3 induction => exact induction failed
  case case4 =>
    obtain rfl := by simpa using failed
    rfl
  case case5 read =>
    obtain rfl := by simpa using failed
    exact Sliced.isFinal_of_readOpenTag read
  case case6 induction => exact induction failed
  case case7 inside =>
    obtain rfl := by simpa using failed
    exact isFinal_of_readBody inside
  case case8 =>
    obtain rfl := by simpa using failed
    rfl
  case case9 => simp at failed
  case case10 later induction =>
    obtain rfl := by simpa using failed
    exact induction later

namespace Sliced

/-! ## Carrying out the insertions -/

section Insertions

variable {body : List Char}

/-- The insertions behind an offset leave the text in front of it as it is, so
the text that has grown can still be cut there. -/
theorem insertAt_interleave {insertion : Insertion}
    {later : List Insertion}
    (beyond : ∀ other ∈ later, insertion.offset ≤ other.offset) :
    insertAt body insertion (Insertion.interleave later 0 body) =
      .ok (Insertion.interleave (insertion :: later) 0 body) := by
  rw [← Insertion.applyOne_interleave body beyond]
  unfold insertAt Insertion.applyOne
  cases cut : Text.cutAt? body insertion.offset with
  | none => rfl
  | some parts =>
      have placed : insertion.isPlaced body = true := by
        simp [Insertion.isPlaced, Text.isBoundary, cut]
      obtain ⟨grown, cutsGrown⟩ := Option.isSome_iff_exists.mp
        (Insertion.isBoundary_grown placed beyond)
      rw [cutsGrown]

theorem foldrM_insertAt {insertions : List Insertion}
    (ordered : insertions.Pairwise
      fun first second => first.offset ≤ second.offset) :
    insertions.foldrM (insertAt body) body =
      .ok (Insertion.interleave insertions 0 body) := by
  induction insertions with
  | nil => rw [Insertion.interleave_nil]; rfl
  | cons insertion later induction =>
      obtain ⟨beyond, ordered⟩ := List.pairwise_cons.mp ordered
      rw [List.foldrM_cons, induction ordered]
      exact insertAt_interleave beyond

theorem foldrM_sorted (insertions : List Insertion) :
    (Insertion.sorted insertions).foldrM (insertAt body) body =
      .ok (Insertion.applyAll body insertions) := by
  rw [foldrM_insertAt (Insertion.sorted_pairwise insertions),
    Insertion.applyAll_eq_interleave]
  congr 1
  apply Insertion.interleave_congr
  intro before after _
  exact Insertion.textsAt_sorted insertions _

end Insertions

/-! ## Marking a file -/

section Marking

variable {source : List Char} {options : FileOptions} {block : Block}

theorem annotateBlock_eq
    (window : IsWindow source block.stop
      { rest := block.body, offset := block.start }) :
    annotateBlock source options block.start block.stop =
      settle (Template.annotateBlock source options block) := by
  have parsed := parse_eq window
  have body := slice_rest window
  obtain ⟨before, after, whole, place, stop⟩ := window
  simp only at whole place stop body parsed
  simp only [annotateBlock, bind, Except.bind, parsed, Template.annotateBlock]
  cases success : Template.parse (LineIndex.ofText source).location block.start
      block.body with
  | error fault => rfl
  | ok nodes =>
      simp only [settle]
      by_cases nothing : countNodes options nodes = 0
      · simp only [nothing, if_true]
        rfl
      · have behind : (Node.elementsAll nodes).any (fun element =>
            decide (element.place.offset < block.start)) = false := by
          rw [List.any_eq_false]
          intro element member
          obtain ⟨_, front, back, _, offset⟩ :=
            element_at_place success element member
          rw [offset, decide_eq_true_eq]
          omega
        have front : slice source 0 block.start = .ok before := by
          rw [whole, place]
          exact slice_front before (block.body ++ after)
        have back : slice source block.stop (Text.byteLength source) =
            .ok after := by
          rw [stop, whole, place, ← List.append_assoc,
            ← Text.byteLength_append]
          exact slice_behind (before ++ block.body) after
        have cut : Text.cutAt? source block.start =
            some (before, block.body ++ after) := by
          rw [whole, place, Text.cutAt?_append]
        simp only [nothing, if_false, behind, Bool.false_eq_true, body, front,
          back, foldrM_sorted, replaceBody, cut, List.drop_left,
          List.append_assoc]
        rfl

theorem annotateFile_eq (source : List Char) (options : FileOptions) :
    annotateFile source options =
      settle (Template.annotateFile source options) := by
  have splits := splitBlocks_eq source
  simp only [annotateFile, Template.annotateFile, bind, Except.bind]
  cases found : blocksFrom false 0 source with
  | error fault =>
      rw [found] at splits
      simp only [splits, Template.splitBlocks, found, settle,
        halt_of_not_isFinal (isFinal_of_blocksFrom found)]
  | ok blocks =>
      have whole : Template.splitBlocks source = .ok (Blocks.ofList blocks) := by
        rw [Template.splitBlocks, found]
      have searched : (blocks.map Span.ofBlock).find? Span.isTemplate =
          (blocks.find? Block.isTemplate).map Span.ofBlock := List.find?_map ..
      have template : (Blocks.ofList blocks).template =
          blocks.find? Block.isTemplate := rfl
      rw [found] at splits
      simp only [splits, whole, searched, template]
      cases held : blocks.find? Block.isTemplate with
      | none => rfl
      | some block =>
          have markup : (Span.ofBlock block).isMarkup = block.isMarkup := by
            simp only [Span.isMarkup, Span.ofBlock, Block.isMarkup,
              Block.lang?]
            cases block.attributes.find? fun given => given.name == "lang" with
            | none => rfl
            | some lang => rfl
          obtain ⟨before, after, inside, start⟩ :=
            template_in_source whole (template.trans held)
          have window : IsWindow source block.stop
              { rest := block.body, offset := block.start } :=
            ⟨before, after, inside, start, rfl⟩
          simp only [Option.map_some, markup]
          cases block.isMarkup with
          | true => exact annotateBlock_eq window
          | false => rfl

end Marking

/-- Marking by offsets comes to the same result for every text. -/
theorem annotate_eq (source : String) (options : FileOptions) :
    annotate source options = Template.annotate source options := by
  simp only [annotate, Template.annotate, annotateFile_eq]
  cases options.requireFilename with
  | error failure => rfl
  | ok filename =>
      cases Template.annotateFile source.toList options with
      | ok code => rfl
      | error fault =>
          cases final : fault.isFinal with
          | true => simp [settle, halt, final, bind, Except.bind]
          | false => simp [settle, halt, final, bind, Except.bind]

end Sliced

end Template

end SourceMark
