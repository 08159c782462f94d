import SourceMark.Proofs.Template.Nesting

/-!
# Splitting a file with another template

How a file is split up to a place is decided by the text in front of it and by
little of what follows: nothing behind the next closing bracket counts.  When
the body of the template is replaced by another balanced text, the new file is
therefore split at the same places.
-/

namespace SourceMark

namespace Template

/-! ## What may follow a part of a file -/

/-- Two texts are alike for what stands in front of them: they are the same, or
the same at least up to a closing bracket. -/
def StartsAlike (later back : List Char) : Prop :=
  later = back ∨ ∃ common, '>' ∈ common ∧ common <+: later ∧ common <+: back

theorem StartsAlike.refl (text : List Char) : StartsAlike text text := .inl rfl

/-- Texts go on alike behind a part with a bracket in it. -/
theorem StartsAlike.of_common {common : List Char} (bracket : '>' ∈ common)
    (later back : List Char) : StartsAlike (common ++ later) (common ++ back) :=
  .inr ⟨common, bracket, List.prefix_append _ _, List.prefix_append _ _⟩

theorem StartsAlike.head? {later back : List Char}
    (alike : StartsAlike later back) : later.head? = back.head? := by
  rcases alike with rfl | ⟨common, bracket, ⟨_, rfl⟩, ⟨_, rfl⟩⟩
  · rfl
  · cases common with
    | nil => simp at bracket
    | cons first others => rfl

theorem StartsAlike.isPrefixOf {later back mark : List Char}
    (alike : StartsAlike later back) (absent : '>' ∉ mark)
    (front : List Char) :
    mark.isPrefixOf (front ++ later) = mark.isPrefixOf (front ++ back) := by
  rcases alike with rfl | ⟨common, bracket, ⟨_, rfl⟩, ⟨_, rfl⟩⟩
  · rfl
  · have known : '>' ∈ front ++ common := List.mem_append_right _ bracket
    rw [← List.append_assoc, ← List.append_assoc,
      Text.isPrefixOf_append_of_mem known absent,
      Text.isPrefixOf_append_of_mem known absent]

/-! ## Single readers -/

theorem behindComment?_local {text : List Char} {offset : Nat}
    {behind : Cursor} (found : behindComment? { rest := text, offset } =
      some behind) :
    ∃ front, '>' ∈ front ∧
      Cursor.Reaches { rest := text, offset } front behind ∧
      ∀ later start, behindComment? { rest := front ++ later, offset := start } =
        some { rest := later, offset := start + Text.byteLength front } := by
  unfold behindComment? at found
  split at found
  · next before close equality =>
      obtain rfl := by simpa using found
      refine ⟨before ++ commentClosing, by simp [commentClosing],
        reaches_behind equality, ?_⟩
      intro later start
      obtain ⟨again, refound, skipped⟩ :=
        find?_again (by simp [commentClosing]) equality later start
      rw [List.append_assoc, behindComment?, refound, ← skipped]
      rfl
  · simp at found

/-- A bracket opens no tag just when no letter follows it. -/
theorem readOpenTag_eq_none_iff (rest : List Char) (offset : Nat) :
    readOpenTag { rest := '<' :: rest, offset } = .ok none ↔
      rest.head?.any Text.isAsciiLetter = false := by
  cases rest with
  | nil => simp [readOpenTag]
  | cons letter others =>
      cases isLetter : Text.isAsciiLetter letter with
      | false => simp [readOpenTag, isLetter]
      | true =>
          simp only [readOpenTag, isLetter, if_true, List.head?_cons,
            Option.any_some, reduceCtorEq, iff_false]
          split
          · simp
          · simp

/-- A tag is no comment. -/
theorem uncommented_of_readOpenTag {rest : List Char} {offset : Nat}
    {tag : OpenTag} {behind : Cursor}
    (read : readOpenTag { rest := '<' :: rest, offset } =
      .ok (some (tag, behind))) :
    commentOpening.isPrefixOf ('<' :: rest) = false := by
  cases lettered : rest.head?.any Text.isAsciiLetter with
  | false => simp [(readOpenTag_eq_none_iff rest offset).mpr lettered] at read
  | true =>
      cases rest with
      | nil => simp at lettered
      | cons letter others =>
          rw [List.head?_cons, Option.any_some] at lettered
          have other : '!' ≠ letter := by
            rintro rfl
            exact absurd lettered (by decide)
          simp [commentOpening, List.isPrefixOf, other]

/-- What can stand in the place of the body of a block: that body, or any
balanced text if the body is the one of a template and not empty. -/
def MayReplace (tag : OpenTag) (body other : List Char) : Prop :=
  other = body ∨ tag.name = "template" ∧ body ≠ [] ∧ Balanced 0 other

/-- A body is read up to the same end tag when it is replaced, and whatever
follows as long as it starts alike. -/
theorem readBody_local {tag : OpenTag} {behind after : Cursor}
    {body : List Char} (bracketless : '>' ∉ tag.name.toList)
    (success : readBody tag behind = .ok (body, after)) :
    ∃ ending, Cursor.Reaches behind (body ++ ending) after ∧
      (tag.name = "template" → body ≠ [] → Balanced 0 body) ∧
      ∀ other, MayReplace tag body other → ∀ later start,
        later.head? = after.rest.head? →
        readBody tag { rest := other ++ (ending ++ later), offset := start } =
          .ok (other, {
            rest := later
            offset := start + Text.byteLength (other ++ ending) }) := by
  unfold readBody at success
  split at success
  · next closed =>
      obtain ⟨rfl, rfl⟩ := by simpa using success
      refine ⟨[], Cursor.Reaches.refl _, fun _ absurd => absurd.elim rfl, ?_⟩
      rintro other (rfl | ⟨-, inhabited, -⟩) later start -
      · simp [readBody, closed, Text.byteLength]
      · exact absurd rfl inhabited
  · next left =>
      split at success
      · next template =>
          split at success
          · next close later found =>
              obtain ⟨rfl, rfl⟩ := by simpa using success
              obtain ⟨inner, ending, inside, passed, closes, balanced⟩ :=
                balanced_of_templateEnd? found
              rw [inside.upTo_eq]
              refine ⟨ending, inside.trans passed, fun _ _ => balanced, ?_⟩
              intro other replaces later start _
              have again : Balanced 0 other := by
                rcases replaces with rfl | ⟨-, -, again⟩
                · exact balanced
                · exact again
              have ends := templateEnd?_of_balanced again closes later start
              have upTo : Cursor.Reaches
                  { rest := other ++ (ending ++ later), offset := start } other
                  { rest := ending ++ later,
                    offset := start + Text.byteLength other } := ⟨rfl, rfl⟩
              simp [readBody, left, template, ends, upTo.upTo_eq]
          · simp at success
      · next unlike =>
          split at success
          · next inner close found =>
              simp only [Except.ok.injEq, Prod.mk.injEq] at success
              obtain ⟨rfl, rfl⟩ := success
              obtain ⟨ending, passed, again⟩ :=
                findEndTag?_local bracketless found
              refine ⟨ending, passed, fun template => absurd template unlike, ?_⟩
              rintro other (rfl | ⟨template, -⟩) later start same
              · obtain ⟨refound, ends⟩ := again later start same
                simp [readBody, left, unlike, refound, ends]
              · exact absurd template unlike
          · simp at success

/-! ## Parts of a file -/

theorem blocksFrom_other {first : Char} (other : first ≠ '<')
    (hasTemplate : Bool) (offset : Nat) (rest : List Char) :
    blocksFrom hasTemplate offset (first :: rest) =
      blocksFrom hasTemplate (offset + first.utf8Size) rest := by
  rw [blocksFrom, if_pos other]

/-- A block behind its opening tag. -/
def OpenTag.block (tag : OpenTag) (start : Nat) (body : List Char) : Block where
  kind := tag.name
  attributes := tag.attributes
  start
  body

/-- A part of a file that holds no template and gives some blocks, wherever it
stands and whatever follows as long as it starts alike. -/
structure HoldsOthers (hasTemplate : Bool) (front back : List Char)
    (given : Nat → List Block) : Prop where
  others : ∀ start, ∀ block ∈ given start, block.isTemplate = false
  reads : ∀ later start, StartsAlike later back →
    blocksFrom hasTemplate start (front ++ later) =
      (blocksFrom hasTemplate (start + Text.byteLength front) later).map
        (given start ++ ·)

/-- A part of a file that is its template, whose body can be replaced. -/
structure HoldsTemplate (tag : OpenTag)
    (opening body ending back : List Char) : Prop where
  named : tag.name = "template"
  bracket : '>' ∈ opening
  balanced : body ≠ [] → Balanced 0 body
  reads : ∀ other, MayReplace tag body other → ∀ later start,
    StartsAlike later back →
    blocksFrom false start (opening ++ (other ++ (ending ++ later))) =
      (blocksFrom true
        (start + Text.byteLength (opening ++ (other ++ ending))) later).map
          (tag.block (start + Text.byteLength opening) other :: ·)

theorem blocksFrom_block {tag : OpenTag} {opening body ending : List Char}
    {hasTemplate : Bool} {start : Nat} {later : List Char}
    (whole : IsOpenTag tag ('<' :: opening))
    (inside : readBody tag {
        rest := body ++ (ending ++ later)
        offset := start + Text.byteLength ('<' :: opening) } =
      .ok (body, {
        rest := later
        offset := start + Text.byteLength ('<' :: opening) +
          Text.byteLength (body ++ ending) }))
    (single : (decide (tag.name = "template") && hasTemplate) = false) :
    blocksFrom hasTemplate start
        (('<' :: opening) ++ (body ++ (ending ++ later))) =
      (blocksFrom (hasTemplate || tag.name = "template")
        (start + Text.byteLength (('<' :: opening) ++ (body ++ ending)))
        later).map
          (tag.block (start + Text.byteLength ('<' :: opening)) body :: ·) := by
  have read := whole.readOpenTag_append (body ++ (ending ++ later)) start
  have comment := uncommented_of_readOpenTag read
  rw [List.cons_append, blocksFrom_bracket, comment, if_neg (by simp), read]
  simp only [inside, Block.isTemplate, single, Bool.false_eq_true, if_false]
  rw [Nat.add_assoc, ← Text.byteLength_append]
  rfl

/-- One template at most among a block and what is split off behind it. -/
theorem single_iff {test : Bool} {hasTemplate : Bool} {count : Nat} :
    hasTemplate.toNat + (count + if test = true then 1 else 0) ≤ 1 ↔
      (test && hasTemplate) = false ∧
        (hasTemplate || test).toNat + count ≤ 1 := by
  cases test with
  | false => simp
  | true =>
      cases hasTemplate with
      | false => simp [Nat.add_comm]
      | true => simp

theorem HoldsOthers.of_nothing {hasTemplate : Bool} {front back : List Char}
    (reads : ∀ later start, StartsAlike later back →
      blocksFrom hasTemplate start (front ++ later) =
        blocksFrom hasTemplate (start + Text.byteLength front) later) :
    HoldsOthers hasTemplate front back fun _ => [] where
  others := by simp
  reads := by
    intro later start alike
    rw [reads later start alike]
    cases blocksFrom hasTemplate (start + Text.byteLength front) later with
    | error fault => rfl
    | ok blocks => rfl

section Parts

variable {hasTemplate : Bool} {rest : List Char} {offset : Nat}

theorem holdsOthers_of_comment {behind : Cursor}
    (comment : commentOpening.isPrefixOf ('<' :: rest) = true)
    (found : behindComment? { rest := '<' :: rest, offset } = some behind) :
    ∃ front, '<' :: rest = front ++ behind.rest ∧ front ≠ [] ∧
      HoldsOthers hasTemplate front behind.rest fun _ => [] := by
  obtain ⟨front, bracket, reaches, again⟩ := behindComment?_local found
  have whole : '<' :: rest = front ++ behind.rest := reaches.rest
  refine ⟨front, whole, List.ne_nil_of_mem bracket, .of_nothing ?_⟩
  intro later start _
  rw [whole, Text.isPrefixOf_append_of_mem bracket (by decide)] at comment
  have still : commentOpening.isPrefixOf (front ++ later) = true := by
    rw [Text.isPrefixOf_append_of_mem bracket (by decide), comment]
  have found := again later start
  cases front with
  | nil => simp at bracket
  | cons first others =>
      obtain ⟨rfl, -⟩ := List.cons.inj whole
      rw [List.cons_append] at still found ⊢
      rw [blocksFrom_bracket, if_pos still, found]

theorem holdsOthers_of_bracket
    (uncommented : ¬ commentOpening.isPrefixOf ('<' :: rest) = true)
    (unread : readOpenTag { rest := '<' :: rest, offset } = .ok none) :
    HoldsOthers hasTemplate ['<'] rest fun _ => [] := by
  refine .of_nothing ?_
  intro later start alike
  have still : commentOpening.isPrefixOf ('<' :: later) =
      commentOpening.isPrefixOf ('<' :: rest) :=
    alike.isPrefixOf (by decide) ['<']
  rw [← still] at uncommented
  rw [readOpenTag_eq_none_iff, ← alike.head?,
    ← readOpenTag_eq_none_iff later start] at unread
  rw [List.singleton_append, blocksFrom_bracket, if_neg uncommented, unread]
  rfl

theorem parts_of_block {tag : OpenTag} {behind after : Cursor}
    {body : List Char}
    (read : readOpenTag { rest := '<' :: rest, offset } =
      .ok (some (tag, behind)))
    (inside : readBody tag behind = .ok (body, after))
    (single : (decide (tag.name = "template") && hasTemplate) = false) :
    (∃ front given, '<' :: rest = front ++ after.rest ∧ front ≠ [] ∧
      HoldsOthers hasTemplate front after.rest given) ∨
    (hasTemplate = false ∧ ∃ opening ending,
      '<' :: rest = opening ++ (body ++ (ending ++ after.rest)) ∧
        HoldsTemplate tag opening body ending after.rest) := by
  obtain ⟨_, _, _, named, _⟩ := readOpenTag_local read
  have bracketless : '>' ∉ tag.name.toList := by
    intro member
    exact absurd (named '>' member) (by decide)
  obtain ⟨text, begins, bracket, opens⟩ := isOpenTag_of_readOpenTag read
  obtain ⟨ending, passed, balanced, again⟩ := readBody_local bracketless inside
  have whole : '<' :: rest = text ++ (body ++ (ending ++ after.rest)) := by
    have begun : '<' :: rest = text ++ behind.rest := begins.rest
    rw [begun, passed.rest, List.append_assoc]
  obtain ⟨opening, rfl⟩ : ∃ opening, text = '<' :: opening := by
    cases text with
    | nil => simp at bracket
    | cons first opening => exact ⟨opening, by rw [(List.cons.inj whole).1]⟩
  have blocks (other : List Char) (replaces : MayReplace tag body other)
      (later : List Char) (start : Nat)
      (alike : StartsAlike later after.rest) :
      blocksFrom hasTemplate start
          (('<' :: opening) ++ (other ++ (ending ++ later))) = _ :=
    blocksFrom_block opens (again other replaces later _ alike.head?) single
  by_cases template : tag.name = "template"
  · obtain rfl : hasTemplate = false := by simpa [template] using single
    refine .inr ⟨rfl, '<' :: opening, ending, whole, template,
      List.mem_of_getLast? bracket, balanced template, ?_⟩
    simpa [template] using blocks
  · refine .inl ⟨('<' :: opening) ++ (body ++ ending),
      fun start => [tag.block (start + Text.byteLength ('<' :: opening)) body],
      by simp [whole], by simp, ?_, ?_⟩
    · simp [OpenTag.block, Block.isTemplate, template]
    · intro later start alike
      have split := blocks body (.inl rfl) later start alike
      simpa [template] using split

/-- A file starts with a part without a template or with its template. -/
theorem parts_of_blocksFrom {first : Char} {blocks : List Block}
    (success : blocksFrom hasTemplate offset (first :: rest) = .ok blocks) :
    (∃ front back given, first :: rest = front ++ back ∧ front ≠ [] ∧
      HoldsOthers hasTemplate front back given) ∨
    (hasTemplate = false ∧ ∃ tag opening body ending back,
      first :: rest = opening ++ (body ++ (ending ++ back)) ∧
        HoldsTemplate tag opening body ending back) := by
  by_cases bracket : first = '<'
  · subst bracket
    rw [blocksFrom_bracket] at success
    split at success
    · next comment =>
        split at success
        · next behind found =>
            obtain ⟨front, whole, inhabited, holds⟩ :=
              holdsOthers_of_comment comment found
            exact .inl ⟨front, _, _, whole, inhabited, holds⟩
        · simp at success
    · next uncommented =>
        split at success
        · simp at success
        · next unread =>
            exact .inl ⟨['<'], rest, _, rfl, by simp,
              holdsOthers_of_bracket uncommented unread⟩
        · next tag behind read =>
            split at success
            · simp at success
            · next body after inside =>
                cases single : decide (tag.name = "template") &&
                    hasTemplate with
                | true => simp [Block.isTemplate, single] at success
                | false =>
                    rcases parts_of_block read inside single with
                      ⟨front, given, others⟩ |
                        ⟨first, opening, ending, template⟩
                    · exact .inl ⟨front, after.rest, given, others⟩
                    · exact .inr ⟨first, tag, opening, body, ending,
                        after.rest, template⟩
  · refine .inl ⟨[first], rest, _, rfl, by simp, .of_nothing ?_⟩
    intro later start _
    rw [List.singleton_append, blocksFrom_other bracket]
    rfl

end Parts

/-! ## Whole files -/

/-- Wherever a file starts, its first part gives the same blocks but for their
offsets. -/
theorem part_of_blocksFrom {hasTemplate : Bool} {offset : Nat} {first : Char}
    {rest : List Char} {blocks : List Block}
    (success : blocksFrom hasTemplate offset (first :: rest) = .ok blocks) :
    ∃ front back next, ∃ given : Nat → List Block,
      first :: rest = front ++ back ∧ front ≠ [] ∧
      ∀ start, blocksFrom hasTemplate start (first :: rest) =
        (blocksFrom next (start + Text.byteLength front) back).map
          (given start ++ ·) := by
  rcases parts_of_blocksFrom success with
    ⟨front, back, given, whole, inhabited, holds⟩ |
      ⟨rfl, tag, opening, body, ending, back, whole, holds⟩
  · refine ⟨front, back, hasTemplate, given, whole, inhabited, fun start => ?_⟩
    rw [whole, holds.reads back start (.refl back)]
  · have inhabited : opening ++ (body ++ ending) ≠ [] := by
      have some := List.ne_nil_of_mem holds.bracket
      simp [some]
    refine ⟨opening ++ (body ++ ending), back, true,
      fun start => [tag.block (start + Text.byteLength opening) body],
      by simp [whole], inhabited, fun start => ?_⟩
    rw [whole, holds.reads body (.inl rfl) back start (.refl back)]
    rfl

/-- A text that is split somewhere is split everywhere. -/
theorem exists_blocks_at {hasTemplate : Bool} {offset : Nat}
    {text : List Char} {blocks : List Block}
    (success : blocksFrom hasTemplate offset text = .ok blocks) (start : Nat) :
    ∃ again, blocksFrom hasTemplate start text = .ok again := by
  match text with
  | [] => exact ⟨[], by rw [blocksFrom]⟩
  | first :: rest =>
      obtain ⟨front, back, next, given, whole, inhabited, reads⟩ :=
        part_of_blocksFrom success
      have shorter := congrArg List.length whole
      have positive := List.length_pos_iff.mpr inhabited
      rw [List.length_append] at shorter
      rw [reads] at success
      obtain ⟨later, further, -⟩ := exists_ok_of_map success
      obtain ⟨again, there⟩ := exists_blocks_at further
        (start + Text.byteLength front)
      exact ⟨given start ++ again, by rw [reads, there]; rfl⟩
termination_by text.length
decreasing_by
  simp only [List.length_append, List.length_cons] at *
  omega

/-- The template of a text stands between two parts of it, and any balanced
text can be put in its place. -/
structure Replaceable (offset : Nat) (before after : List Char)
    (block : Block) : Prop where
  bracket : '>' ∈ before
  start : block.start = offset + Text.byteLength before
  balanced : Balanced 0 block.body
  replaced : ∀ other, Balanced 0 other → ∃ again,
    blocksFrom false offset (before ++ (other ++ after)) = .ok again ∧
      again.find? Block.isTemplate = some { block with body := other }

section Replaced

variable {offset : Nat} {block : Block}

theorem HoldsOthers.find?_append {hasTemplate : Bool} {front back : List Char}
    {given : Nat → List Block} (holds : HoldsOthers hasTemplate front back given)
    (start : Nat) (blocks : List Block) :
    (given start ++ blocks).find? Block.isTemplate =
      blocks.find? Block.isTemplate := by
  have none : (given start).find? Block.isTemplate = none :=
    List.find?_eq_none.mpr fun block member =>
      Bool.eq_false_iff.mp (holds.others start block member)
  rw [List.find?_append, none, Option.none_or]

theorem HoldsOthers.replaceable {front before after : List Char}
    {given : Nat → List Block}
    (holds : HoldsOthers false front (before ++ (block.body ++ after)) given)
    (inside : Replaceable (offset + Text.byteLength front) before after block) :
    Replaceable offset (front ++ before) after block where
  bracket := List.mem_append_right front inside.bracket
  start := by rw [inside.start, Text.byteLength_append, Nat.add_assoc]
  balanced := inside.balanced
  replaced := by
    intro other balanced
    obtain ⟨again, split, template⟩ := inside.replaced other balanced
    refine ⟨given offset ++ again, ?_, ?_⟩
    · rw [List.append_assoc,
        holds.reads _ _ (.of_common inside.bracket _ _), split]
      rfl
    · rw [holds.find?_append, template]

theorem OpenTag.isTemplate_block {tag : OpenTag}
    (named : tag.name = "template") (start : Nat) (body : List Char) :
    (tag.block start body).isTemplate = true := by
  simp [OpenTag.block, Block.isTemplate, named]

theorem HoldsTemplate.replaceable {tag : OpenTag}
    {opening body ending back : List Char} {blocks : List Block} {start : Nat}
    (holds : HoldsTemplate tag opening body ending back)
    (inhabited : body ≠ [])
    (further : blocksFrom true start back = .ok blocks) :
    Replaceable offset opening (ending ++ back)
      (tag.block (offset + Text.byteLength opening) body) where
  bracket := holds.bracket
  start := rfl
  balanced := holds.balanced inhabited
  replaced := by
    intro other balanced
    have replaces : MayReplace tag body other :=
      .inr ⟨holds.named, inhabited, balanced⟩
    obtain ⟨again, there⟩ := exists_blocks_at further
      (offset + Text.byteLength (opening ++ (other ++ ending)))
    refine ⟨tag.block (offset + Text.byteLength opening) other :: again, ?_, ?_⟩
    · rw [holds.reads other replaces back _ (.refl back), there]
      rfl
    · rw [List.find?_cons_of_pos (tag.isTemplate_block holds.named _ _)]
      rfl

end Replaced

/-- The template of a file can be replaced, unless it is empty. -/
theorem replaceable_of_blocksFrom {offset : Nat} {text : List Char}
    {blocks : List Block} {block : Block}
    (success : blocksFrom false offset text = .ok blocks)
    (template : blocks.find? Block.isTemplate = some block)
    (inhabited : block.body ≠ []) :
    ∃ before after, text = before ++ (block.body ++ after) ∧
      Replaceable offset before after block := by
  match text with
  | [] =>
      obtain rfl : blocks = [] := by simpa [blocksFrom] using success
      simp at template
  | first :: rest =>
      rcases parts_of_blocksFrom success with
        ⟨front, back, given, whole, wide, holds⟩ |
          ⟨-, tag, opening, body, ending, back, whole, holds⟩
      · have shorter := congrArg List.length whole
        have positive := List.length_pos_iff.mpr wide
        rw [List.length_append] at shorter
        rw [whole, holds.reads back _ (.refl back)] at success
        obtain ⟨later, further, rfl⟩ := exists_ok_of_map success
        rw [holds.find?_append] at template
        obtain ⟨before, after, rfl, inside⟩ :=
          replaceable_of_blocksFrom further template inhabited
        exact ⟨front ++ before, after, by rw [whole, List.append_assoc],
          holds.replaceable inside⟩
      · rw [whole, holds.reads body (.inl rfl) back _ (.refl back)] at success
        obtain ⟨later, further, rfl⟩ := exists_ok_of_map success
        rw [List.find?_cons_of_pos (tag.isTemplate_block holds.named _ _)]
          at template
        obtain rfl := Option.some.inj template
        exact ⟨opening, ending ++ back, whole,
          holds.replaceable inhabited further⟩
termination_by text.length
decreasing_by
  simp only [List.length_append, List.length_cons] at *
  omega

end Template

end SourceMark
