import SourceMark.Template.Blocks
import SourceMark.Proofs.Template.Tags

/-!
# Where the blocks of a file stand

Every block that is split off a component file has its body in the file, at the
offset that it names.
-/

namespace SourceMark

namespace Template

theorem leads_behindComment? {cursor behind : Cursor}
    (found : behindComment? cursor = some behind) :
    ∃ taken, Cursor.Reaches cursor taken behind := by
  unfold behindComment? at found
  split at found
  · next before close equality =>
      obtain rfl := by simpa using found
      exact ⟨_, (Cursor.reaches_find? equality).trans
        (Cursor.reaches_skip 3 close)⟩
  · simp at found

theorem eq_of_startsTag {character : Char} {name rest : List Char}
    (starts : startsTag ('<' :: name) (character :: rest) = true) :
    character = '<' := by
  simp only [startsTag, Bool.and_eq_true, List.isPrefixOf_iff_prefix,
    List.cons_prefix_cons] at starts
  exact starts.1.1.symm

/-- An opening tag that is read stands at the cursor. -/
theorem reaches_readOpenTag {rest : List Char} {offset : Nat} {tag : OpenTag}
    {behind : Cursor}
    (success : readOpenTag { rest := '<' :: rest, offset } =
      .ok (some (tag, behind))) :
    ∃ taken, Cursor.Reaches { rest := '<' :: rest, offset } taken behind := by
  obtain ⟨_, _, _, _, _, passed, _⟩ := readOpenTag_local success
  exact ⟨_, passed⟩

theorem leads_bodyPiece? {character : Char} {rest : List Char} {offset : Nat}
    {piece : BodyPiece} {behind : Cursor}
    (found : bodyPiece? character rest offset = some (piece, behind)) :
    ∃ taken, Cursor.Reaches { rest := character :: rest, offset } taken
      behind := by
  unfold bodyPiece? at found
  split at found
  · split at found
    · next later equality =>
        obtain ⟨_, rfl⟩ := by simpa using found
        exact leads_behindComment? equality
    · simp at found
  · split at found
    · split at found
      · next before bracket equality =>
          simp only [Option.some.injEq, Prod.mk.injEq] at found
          obtain ⟨_, rfl⟩ := found
          have passed := (Cursor.reaches_find? equality).trans
            (Cursor.reaches_skip 1 bracket)
          exact ⟨_, passed.cons⟩
      · simp at found
    · split at found
      · next opens =>
          split at found
          · next tag later equality =>
              simp only [Option.some.injEq, Prod.mk.injEq] at found
              obtain ⟨_, rfl⟩ := found
              obtain rfl := eq_of_startsTag opens
              exact reaches_readOpenTag equality
          · simp at found
      · simp only [Option.some.injEq, Prod.mk.injEq] at found
        obtain ⟨_, rfl⟩ := found
        exact ⟨_, (Cursor.Reaches.refl _).cons⟩

/-- How the search for the end of a template goes on behind a piece. -/
theorem templateEnd?_cons (depth : Nat) (character : Char) (rest : List Char)
    (offset : Nat) :
    templateEnd? depth offset (character :: rest) =
      match bodyPiece? character rest offset with
      | none => none
      | some (.plain, behind) => templateEnd? depth behind.offset behind.rest
      | some (.opens, behind) =>
          templateEnd? (depth + 1) behind.offset behind.rest
      | some (.closes, behind) =>
          match depth with
          | 0 => some ({ rest := character :: rest, offset }, behind)
          | depth + 1 => templateEnd? depth behind.offset behind.rest := by
  rw [templateEnd?]
  split
  · next given => simp only [given]
  · next behind given => simp only [given]
  · next behind given => simp only [given]
  · next behind given =>
      cases depth with
      | zero => simp only [given]
      | succ depth => simp only [given]

/-- The end of a template comes behind its body. -/
theorem leads_templateEnd? {depth offset : Nat} {text : List Char}
    {close after : Cursor}
    (found : templateEnd? depth offset text = some (close, after)) :
    ∃ body ending, Cursor.Reaches { rest := text, offset } body close ∧
      Cursor.Reaches close ending after := by
  match text with
  | [] => simp [templateEnd?] at found
  | character :: rest =>
      rw [templateEnd?] at found
      split at found
      · simp at found
      · next behind equality =>
          obtain ⟨taken, passed⟩ := leads_bodyPiece? equality
          obtain ⟨body, ending, inside, behind⟩ := leads_templateEnd? found
          exact ⟨taken ++ body, ending, passed.trans inside, behind⟩
      · next behind equality =>
          obtain ⟨taken, passed⟩ := leads_bodyPiece? equality
          obtain ⟨body, ending, inside, behind⟩ := leads_templateEnd? found
          exact ⟨taken ++ body, ending, passed.trans inside, behind⟩
      · next behind equality =>
          obtain ⟨taken, passed⟩ := leads_bodyPiece? equality
          split at found
          · obtain ⟨rfl, rfl⟩ := by simpa using found
            exact ⟨[], taken, Cursor.Reaches.refl _, passed⟩
          · obtain ⟨body, ending, inside, behind⟩ := leads_templateEnd? found
            exact ⟨taken ++ body, ending, passed.trans inside, behind⟩
termination_by text.length
decreasing_by
  all_goals
    have := length_bodyPiece? ‹_›
    simp only [List.length_cons]
    omega

/-- The body of a block stands right behind its opening tag. -/
theorem reaches_readBody {tag : OpenTag} {behind after : Cursor}
    {body : List Char} (success : readBody tag behind = .ok (body, after)) :
    ∃ ending, Cursor.Reaches behind (body ++ ending) after := by
  unfold readBody at success
  split at success
  · obtain ⟨rfl, rfl⟩ := by simpa using success
    exact ⟨[], Cursor.Reaches.refl _⟩
  · split at success
    · split at success
      · next close later equality =>
          obtain ⟨rfl, rfl⟩ := by simpa using success
          obtain ⟨inner, ending, inside, passed⟩ := leads_templateEnd? equality
          rw [inside.upTo_eq]
          exact ⟨ending, inside.trans passed⟩
      · simp at success
    · split at success
      · next inner close equality =>
          simp only [Except.ok.injEq, Prod.mk.injEq] at success
          obtain ⟨rfl, rfl⟩ := success
          obtain ⟨ending, passed, _⟩ := behindBracket_local close
          exact ⟨ending, (reaches_findEndTag? equality).trans passed⟩
      · simp at success

/-- What a bracket in front of a block, or outside of blocks, starts. -/
theorem blocksFrom_bracket (hasTemplate : Bool) (rest : List Char)
    (offset : Nat) :
    blocksFrom hasTemplate offset ('<' :: rest) =
      if commentOpening.isPrefixOf ('<' :: rest) then
        match behindComment? { rest := '<' :: rest, offset } with
        | some behind => blocksFrom hasTemplate behind.offset behind.rest
        | none => .error (.openComment offset)
      else
        match readOpenTag { rest := '<' :: rest, offset } with
        | .error fault => .error fault
        | .ok none => blocksFrom hasTemplate (offset + 1) rest
        | .ok (some (tag, behind)) =>
            match readBody tag behind with
            | .error fault => .error fault
            | .ok (body, after) =>
                let block : Block := {
                  kind := tag.name
                  attributes := tag.attributes
                  start := behind.offset
                  body }
                if block.isTemplate && hasTemplate then
                  .error .secondTemplate
                else
                  (blocksFrom (hasTemplate || block.isTemplate) after.offset
                    after.rest).map (block :: ·) := by
  rw [blocksFrom, if_neg (by simp)]
  split
  · split
    · next found => simp only [found]
    · next found => simp only [found]
  · split
    · next read => simp only [read]
    · next read =>
        simp only [read]
        rfl
    · next read =>
        simp only [read]
        split
        · next inside => simp only [inside]
        · next inside =>
            simp only [inside]
            generalize blocksFrom _ _ _ = later
            cases later with
            | error fault => rfl
            | ok blocks => rfl

/-- Every block stands in the text that it is split off. -/
theorem block_in_text {hasTemplate : Bool} {offset : Nat} {text : List Char}
    {blocks : List Block}
    (success : blocksFrom hasTemplate offset text = .ok blocks) :
    ∀ block ∈ blocks, ∃ before after,
      text = before ++ (block.body ++ after) ∧
        block.start = offset + Text.byteLength before := by
  match text with
  | [] =>
      obtain rfl := by simpa [blocksFrom] using success
      simp
  | character :: rest =>
      -- What comes behind some characters stands behind them in the text.
      have shift {taken : List Char} {behind : Cursor}
          (passed : Cursor.Reaches { rest := character :: rest, offset } taken
            behind) {block : Block}
          (found : ∃ before after,
            behind.rest = before ++ (block.body ++ after) ∧
              block.start = behind.offset + Text.byteLength before) :
          ∃ before after,
            character :: rest = before ++ (block.body ++ after) ∧
              block.start = offset + Text.byteLength before := by
        obtain ⟨before, after, inside, start⟩ := found
        have whole : character :: rest = taken ++ behind.rest := passed.rest
        refine ⟨taken ++ before, after, ?_, ?_⟩
        · rw [whole, inside, List.append_assoc]
        · rw [start, passed.offset, Text.byteLength_append, Nat.add_assoc]
      have next : Cursor.Reaches { rest := character :: rest, offset }
          [character] { rest, offset := offset + character.utf8Size } :=
        (Cursor.Reaches.refl _).cons
      rw [blocksFrom] at success
      split at success
      · intro block member
        exact shift next (block_in_text success block member)
      · next bracket =>
          split at success
          · split at success
            · next behind comment =>
                obtain ⟨taken, passed⟩ := leads_behindComment? comment
                have shorter := length_behindComment? comment
                intro block member
                exact shift passed (block_in_text success block member)
            · simp at success
          · split at success
            · simp at success
            · intro block member
              exact shift next (block_in_text success block member)
            · next tag behind read =>
                obtain rfl : character = '<' := by simpa using bracket
                obtain ⟨taken, opened⟩ := reaches_readOpenTag read
                split at success
                · simp at success
                · next body after inside =>
                    obtain ⟨ending, passed⟩ := reaches_readBody inside
                    have shorterTag := length_readOpenTag read
                    have shorterBody := length_readBody inside
                    simp only at success
                    split at success
                    · simp at success
                    · split at success
                      · next later equality =>
                          obtain rfl := by simpa using success
                          intro block member
                          rcases List.mem_cons.mp member with rfl | member
                          · refine shift opened ⟨[], ending ++ after.rest, ?_, ?_⟩
                            · simpa using passed.rest
                            · simp [Text.byteLength]
                          · exact shift (opened.trans passed)
                              (block_in_text equality block member)
                      · simp at success
termination_by text.length
decreasing_by
  all_goals
    simp only [List.length_cons] at *
    omega

/-- The template of a file stands in the file. -/
theorem template_in_source {source : List Char} {blocks : Blocks}
    {block : Block} (success : splitBlocks source = .ok blocks)
    (template : blocks.template = some block) :
    ∃ before after, source = before ++ (block.body ++ after) ∧
      block.start = Text.byteLength before := by
  unfold splitBlocks at success
  split at success
  · next found equality =>
      obtain rfl := by simpa using success
      have member := List.mem_of_find?_eq_some template
      obtain ⟨before, after, inside, start⟩ :=
        block_in_text equality block member
      exact ⟨before, after, inside, by rw [start, Nat.zero_add]⟩
  · simp at success

end Template

end SourceMark
