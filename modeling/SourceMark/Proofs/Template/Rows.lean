import SourceMark.Proofs.Template.Resplitting
import SourceMark.Proofs.Template.SlicedEndTags

/-!
# The blocks of a file in a row

The blocks that are split off a file stand in it one behind the other, so that
no text inside a block is taken for another one.  Each starts behind the tag
that opens it.  It ends where its end tag does, which is the first one behind
the start, unless the name of the block lets an end tag hide: the search goes on
behind a mark whose name continues, and so it misses an end tag that starts with
the last character of the mark.
-/

namespace SourceMark

namespace Template

/-! ## The first end tag -/

/-- A text ends in the mark of an end tag of that name. -/
def EndsInMark (name text : List Char) : Prop :=
  ∃ lead mark, text = lead ++ mark ∧
    Text.lowerAscii mark = Sliced.endMark name

/-- An end tag of that name follows a body, and none starts inside the body but
such as share their bracket with a mark. -/
structure EndsFirst (name body after : List Char) : Prop where
  here : startsEndTag name after = true
  hidden : ∀ front back, body = front ++ back → back ≠ [] →
    startsEndTag name (back ++ after) = true → EndsInMark name (front ++ ['<'])

section Search

variable {name : List Char}

/-- A name without a slash has no further bracket with a slash in its mark. -/
theorem eq_nil_of_endMark (slashless : '/' ∉ name) {front rest : List Char}
    (mark : Text.lowerAscii (front ++ '<' :: '/' :: rest) =
      Sliced.endMark name) : front = [] := by
  match front with
  | [] => rfl
  | [first] => simp [Text.lowerAscii, Sliced.endMark] at mark
  | first :: second :: front =>
      have tail : Text.lowerAscii (front ++ '<' :: '/' :: rest) =
          Text.lowerAscii name :=
        (List.cons.inj (List.cons.inj mark).2).2
      have slash : Text.isAsciiLetter '/' = false := by decide
      have inside : '/' ∈ Text.lowerAscii (front ++ '<' :: '/' :: rest) := by
        rw [mem_lowerAscii_iff slash]
        simp
      rw [tail, mem_lowerAscii_iff slash] at inside
      exact absurd inside slashless

theorem EndsInMark.append {text : List Char} (ends : EndsInMark name text)
    (front : List Char) : EndsInMark name (front ++ text) := by
  obtain ⟨lead, mark, rfl, lowered⟩ := ends
  exact ⟨front ++ lead, mark, by simp, lowered⟩

/-- An end tag inside a mark of its name starts with the last character of the
mark, or with its first one. -/
theorem endsInMark_of_inside (slashless : '/' ∉ name)
    {front back : List Char} (inhabited : back ≠ [])
    (mark : Text.lowerAscii (front ++ back) = Sliced.endMark name)
    {later : List Char} (starts : startsEndTag name (back ++ later) = true) :
    front = [] ∨ EndsInMark name (front ++ ['<']) := by
  obtain ⟨rest, shape⟩ := eq_cons_of_startsEndTag starts
  match back with
  | [] => exact absurd rfl inhabited
  | [only] =>
      obtain ⟨rfl, -⟩ := by simpa using shape
      exact .inr ⟨[], front ++ ['<'], rfl, mark⟩
  | first :: second :: more =>
      obtain ⟨rfl, rfl, -⟩ := by simpa using shape
      exact .inl (eq_nil_of_endMark slashless mark)

/-- Where no end tag starts, the search goes on behind the next character, or
behind the mark whose name continues. -/
theorem findEndTagBehind?_next {text body : List Char} {offset : Nat}
    {close : Cursor} (untagged : startsEndTag name text = false)
    (found : findEndTagBehind? name 0 offset text = some (body, close)) :
    ∃ taken later inner start, text = taken ++ later ∧ body = taken ++ inner ∧
      findEndTagBehind? name 0 start later = some (inner, close) ∧
      (taken.length = 1 ∨ Text.lowerAscii taken = Sliced.endMark name) := by
  by_cases marked : startsEndMark name text = true
  · obtain ⟨taken, later, apart, mark, -, again⟩ :=
      Sliced.parts_of_startsEndMark marked offset
    rw [again untagged] at found
    obtain ⟨⟨inner, after⟩, next, same⟩ := Option.map_eq_some_iff.mp found
    obtain ⟨rfl, rfl⟩ := Prod.mk.inj same
    exact ⟨taken, later, inner, _, apart, rfl, next, .inr mark⟩
  · cases text with
    | nil => simp [findEndTagBehind?] at found
    | cons first rest =>
        rw [Sliced.findEndTagBehind?_cons untagged, if_neg marked] at found
        obtain ⟨⟨inner, after⟩, next, same⟩ := Option.map_eq_some_iff.mp found
        obtain ⟨rfl, rfl⟩ := Prod.mk.inj same
        exact ⟨[first], rest, inner, _, rfl, rfl, next, .inl rfl⟩

/-- What the search for an end tag misses shares its bracket with a mark. -/
theorem endsInMark_of_findEndTagBehind? (slashless : '/' ∉ name)
    {text front back : List Char} {offset : Nat} {close : Cursor}
    (found : findEndTagBehind? name 0 offset text =
      some (front ++ back, close))
    (inhabited : back ≠ [])
    (starts : startsEndTag name (back ++ close.rest) = true) :
    EndsInMark name (front ++ ['<']) := by
  have whole : text = front ++ back ++ close.rest :=
    (reaches_findEndTagBehind? found).rest
  by_cases here : startsEndTag name text = true
  · rw [Sliced.findEndTagBehind?_here here] at found
    obtain ⟨nothing, -⟩ := by simpa using found
    exact absurd nothing.2 inhabited
  · have behind : front ≠ [] := by
      rintro rfl
      exact here (whole ▸ starts)
    obtain ⟨taken, later, inner, start, apart, same, next, passed⟩ :=
      findEndTagBehind?_next (Bool.eq_false_iff.mpr here) found
    have filled : 0 < taken.length := by
      rcases passed with single | mark
      · omega
      · rw [Sliced.length_of_endMark mark]
        omega
    have shorter : later.length < text.length := by
      rw [apart, List.length_append]
      omega
    -- The end tag starts behind what is passed, or else inside the mark.
    rcases List.append_eq_append_iff.mp same with
      ⟨between, rfl, rfl⟩ | ⟨between, rfl, rfl⟩
    · by_cases none : between = []
      · subst none
        have ends : EndsInMark name ([] ++ ['<']) :=
          endsInMark_of_findEndTagBehind? slashless next inhabited starts
        exact ends.append front
      · rcases passed with single | mark
        · have first := List.length_pos_iff.mpr behind
          have second := List.length_pos_iff.mpr none
          rw [List.length_append] at single
          omega
        · rw [List.append_assoc] at starts
          exact (endsInMark_of_inside slashless none mark starts).resolve_left
            behind
    · rw [List.append_assoc]
      exact (endsInMark_of_findEndTagBehind? slashless next inhabited
        starts).append taken
termination_by text.length
decreasing_by
  all_goals exact shorter

/-- The search for an end tag misses none but such as share their bracket with a
mark. -/
theorem endsFirst_of_findEndTagBehind? (slashless : '/' ∉ name)
    {text body : List Char} {offset : Nat} {close : Cursor}
    (found : findEndTagBehind? name 0 offset text = some (body, close)) :
    EndsFirst name body close.rest where
  here := startsEndTag_of_findEndTagBehind? found
  hidden := by
    rintro front back rfl inhabited starts
    exact endsInMark_of_findEndTagBehind? slashless found inhabited starts

/-- No end tag is missed for a name that does not end in a bracket. -/
theorem EndsFirst.first {body after : List Char}
    (ends : EndsFirst name body after) (other : name.getLast? ≠ some '<') :
    ∀ front back, body = front ++ back → back ≠ [] →
      startsEndTag name (back ++ after) = false := by
  intro front back inside inhabited
  refine Bool.eq_false_iff.mpr fun starts => other ?_
  obtain ⟨lead, mark, shape, lowered⟩ :=
    ends.hidden front back inside inhabited starts
  have filled : mark ≠ [] := by
    rintro rfl
    exact absurd (Sliced.length_of_endMark lowered) (by simp)
  have last : mark.getLast? = some '<' := by
    have final := congrArg List.getLast? shape
    rw [List.getLast?_concat, List.getLast?_append,
      List.getLast?_eq_some_getLast filled, Option.some_or] at final
    rw [List.getLast?_eq_some_getLast filled, ← final]
  have ended : (Sliced.endMark name).getLast? = some '<' := by
    rw [← lowered, Text.lowerAscii, List.getLast?_map, last]
    rfl
  cases name with
  | nil => exact absurd ended (by decide)
  | cons first rest =>
      rw [Sliced.endMark, List.getLast?_cons_of_ne_nil (by simp),
        List.getLast?_cons_of_ne_nil (by simp [Text.lowerAscii]),
        Text.lowerAscii, List.getLast?_map] at ended
      obtain ⟨final, found, lower⟩ := Option.map_eq_some_iff.mp ended
      rw [found, eq_of_toLower_eq (by decide) lower]

end Search

/-! ## Blocks behind their tags -/

/-- A block with the tag that opens it and the text behind its body. -/
structure Block.IsCut (block : Block) (tag : OpenTag)
    (opening after : List Char) : Prop where
  kind : block.kind = tag.name
  attributes : block.attributes = tag.attributes
  opens : IsOpenTag tag opening
  spelled : ∃ inside, opening = '<' :: (block.kind.toList ++ inside) ∧
    inside.getLast? = some '>'
  childless : tag.selfClosing = true → block.body = []
  template : tag.selfClosing = false → block.isTemplate = true →
    startsTag "</template".toList after = true
  other : tag.selfClosing = false → block.isTemplate = false →
    EndsFirst block.kind.toList block.body after

/-- What a body ends at. -/
theorem ends_of_readBody {tag : OpenTag} {behind after : Cursor}
    {body : List Char} (slashless : '/' ∉ tag.name.toList)
    (inside : readBody tag behind = .ok (body, after)) :
    ∃ ending, Cursor.Reaches behind (body ++ ending) after ∧
      (tag.selfClosing = true → body = []) ∧
      (tag.selfClosing = false → tag.name = "template" →
        startsTag "</template".toList (ending ++ after.rest) = true) ∧
      (tag.selfClosing = false → tag.name ≠ "template" →
        EndsFirst tag.name.toList body (ending ++ after.rest)) := by
  unfold readBody at inside
  split at inside
  · next childless =>
      obtain ⟨rfl, rfl⟩ := by simpa using inside
      exact ⟨[], .refl _, fun _ => rfl, by simp [childless],
        by simp [childless]⟩
  · next left =>
      split at inside
      · next template =>
          split at inside
          · next close later found =>
              obtain ⟨rfl, rfl⟩ := by simpa using inside
              obtain ⟨body, ending, passed, ends, closes, _⟩ :=
                balanced_of_templateEnd? found
              rw [passed.upTo_eq]
              refine ⟨ending, passed.trans ends, fun closed => absurd closed left,
                fun _ _ => ?_, fun _ other => absurd template other⟩
              cases closes with
              | closing starts _ =>
                  exact startsTag_of_prefix starts (List.prefix_append _ _)
          · simp at inside
      · next unlike =>
          split at inside
          · next inner close found =>
              simp only [Except.ok.injEq, Prod.mk.injEq] at inside
              obtain ⟨rfl, rfl⟩ := inside
              obtain ⟨ending, passed, _⟩ := behindBracket_local close
              refine ⟨ending, (reaches_findEndTag? found).trans passed,
                fun closed => absurd closed left,
                fun _ template => absurd template unlike, fun _ _ => ?_⟩
              rw [← passed.rest]
              exact endsFirst_of_findEndTagBehind? slashless found
          · simp at inside

/-- A block that is read stands behind its tag. -/
theorem isCut_of_readBody {rest body : List Char} {offset : Nat}
    {tag : OpenTag} {behind after : Cursor}
    (read : readOpenTag { rest := '<' :: rest, offset } =
      .ok (some (tag, behind)))
    (inside : readBody tag behind = .ok (body, after)) :
    ∃ opening ending,
      Cursor.Reaches { rest := '<' :: rest, offset } opening behind ∧
      Cursor.Reaches behind (body ++ ending) after ∧
      (tag.block behind.offset body).IsCut tag opening
        (ending ++ after.rest) := by
  obtain ⟨inner, bracket, _, named, _, reaches, _⟩ := readOpenTag_local read
  obtain ⟨opening, begins, _, opens⟩ := isOpenTag_of_readOpenTag read
  obtain rfl : opening = '<' :: (tag.name.toList ++ inner) :=
    List.append_cancel_right (begins.rest.symm.trans reaches.rest)
  have slashless : '/' ∉ tag.name.toList := by
    intro member
    exact absurd (named '/' member) (by decide)
  obtain ⟨ending, passed, childless, template, other⟩ :=
    ends_of_readBody slashless inside
  refine ⟨_, ending, begins, passed, rfl, rfl, opens, ⟨inner, rfl, bracket⟩,
    childless, ?_, ?_⟩
  · intro left named
    exact template left (of_decide_eq_true named)
  · intro left unlike
    exact other left (of_decide_eq_false unlike)

/-! ## Rows -/

/-- Blocks that stand in a text one behind the other: each of them, with the tag
that opens it, stands behind the body of the one before. -/
inductive IsRow : Nat → List Char → List Block → Prop where
  | nil {offset : Nat} {text : List Char} : IsRow offset text []
  | cons {offset : Nat} {gap opening after : List Char} {tag : OpenTag}
      {block : Block} {blocks : List Block}
      (start : block.start = offset + Text.byteLength (gap ++ opening))
      (cut : block.IsCut tag opening after)
      (later : IsRow block.stop after blocks) :
      IsRow offset (gap ++ (opening ++ (block.body ++ after)))
        (block :: blocks)

/-- Further text may stand in front of a row. -/
theorem IsRow.behind {offset : Nat} {text : List Char} {blocks : List Block}
    (front : List Char)
    (row : IsRow (offset + Text.byteLength front) text blocks) :
    IsRow offset (front ++ text) blocks := by
  cases row with
  | nil => exact .nil
  | @cons _ gap opening after tag block blocks start cut later =>
      rw [← List.append_assoc]
      refine .cons ?_ cut later
      rw [start, List.append_assoc, Text.byteLength_append front, Nat.add_assoc]

/-- What a file starts with: a part outside of blocks, or a block. -/
theorem head_of_blocksFrom {hasTemplate : Bool} {offset : Nat} {first : Char}
    {rest : List Char} {blocks : List Block}
    (success : blocksFrom hasTemplate offset (first :: rest) = .ok blocks) :
    (∃ gap behind, gap ≠ [] ∧
      Cursor.Reaches { rest := first :: rest, offset } gap behind ∧
      blocksFrom hasTemplate behind.offset behind.rest = .ok blocks) ∨
    (first = '<' ∧ ∃ tag behind body after later,
      readOpenTag { rest := '<' :: rest, offset } =
        .ok (some (tag, behind)) ∧
      readBody tag behind = .ok (body, after) ∧
      (decide (tag.name = "template") && hasTemplate) = false ∧
      blocksFrom (hasTemplate || tag.name = "template") after.offset
        after.rest = .ok later ∧
      blocks = tag.block behind.offset body :: later) := by
  by_cases bracket : first = '<'
  · subst bracket
    rw [blocksFrom_bracket] at success
    split at success
    · split at success
      · next behind found =>
          obtain ⟨gap, passed⟩ := leads_behindComment? found
          have shorter := length_behindComment? found
          exact .inl ⟨gap, behind, passed.ne_nil shorter, passed, success⟩
      · simp at success
    · split at success
      · simp at success
      · exact .inl ⟨['<'], { rest, offset := offset + 1 }, by simp,
          (Cursor.Reaches.refl _).cons, success⟩
      · next tag behind read =>
          split at success
          · simp at success
          · next body after inside =>
              simp only at success
              split at success
              · simp at success
              · next single =>
                  obtain ⟨later, further, rfl⟩ := exists_ok_of_map success
                  exact .inr ⟨rfl, tag, behind, body, after, later, read, inside,
                    Bool.eq_false_iff.mpr single, further, rfl⟩
  · rw [blocksFrom_other bracket] at success
    exact .inl ⟨[first], { rest, offset := offset + first.utf8Size }, by simp,
      (Cursor.Reaches.refl _).cons, success⟩

/-- The blocks of a file stand in a row, and one template at most is among
them. -/
theorem isRow_of_blocksFrom {hasTemplate : Bool} {offset : Nat}
    {text : List Char} {blocks : List Block}
    (success : blocksFrom hasTemplate offset text = .ok blocks) :
    IsRow offset text blocks ∧
      hasTemplate.toNat + blocks.countP Block.isTemplate ≤ 1 := by
  match text with
  | [] =>
      obtain rfl := by simpa [blocksFrom] using success
      exact ⟨.nil, by simpa using hasTemplate.toNat_le⟩
  | first :: rest =>
      rcases head_of_blocksFrom success with
        ⟨gap, behind, filled, passed, further⟩ |
        ⟨rfl, tag, behind, body, after, later, read, inside, single, further,
          rfl⟩
      · have whole : first :: rest = gap ++ behind.rest := passed.rest
        have shorter : behind.rest.length < (first :: rest).length := by
          rw [whole, List.length_append]
          have := List.length_pos_iff.mpr filled
          omega
        obtain ⟨row, count⟩ := isRow_of_blocksFrom further
        rw [passed.offset] at row
        exact ⟨whole ▸ row.behind gap, count⟩
      · obtain ⟨opening, ending, begins, passed, cut⟩ :=
          isCut_of_readBody read inside
        have shorterTag := length_readOpenTag read
        have shorterBody := length_readBody inside
        obtain ⟨row, count⟩ := isRow_of_blocksFrom further
        have whole : '<' :: rest =
            [] ++ (opening ++ (body ++ (ending ++ after.rest))) := by
          have begun : '<' :: rest = opening ++ behind.rest := begins.rest
          rw [begun, passed.rest, List.append_assoc, List.nil_append]
        have place : after.offset = (tag.block behind.offset body).stop +
            Text.byteLength ending := by
          rw [passed.offset, Text.byteLength_append, ← Nat.add_assoc]
          rfl
        constructor
        · rw [place] at row
          rw [whole]
          exact .cons begins.offset cut (row.behind ending)
        · rw [List.countP_cons]
          exact single_iff.mpr ⟨single, count⟩
termination_by text.length
decreasing_by
  · exact shorter
  · simp only [List.length_cons] at *
    omega

section Consequences

variable {offset : Nat} {text : List Char} {blocks : List Block}

/-- Every block of a row stands behind its tag. -/
theorem IsRow.exists_cut (row : IsRow offset text blocks) :
    ∀ block ∈ blocks, ∃ tag before opening after,
      text = before ++ (opening ++ (block.body ++ after)) ∧
      block.start = offset + Text.byteLength (before ++ opening) ∧
      block.IsCut tag opening after := by
  induction row with
  | nil => simp
  | @cons offset gap opening after tag block blocks start cut _ induction =>
      intro other member
      rcases List.mem_cons.mp member with rfl | member
      · exact ⟨tag, gap, opening, after, rfl, start, cut⟩
      · obtain ⟨tag, before, again, behind, rfl, place, cut⟩ :=
          induction other member
        refine ⟨tag, gap ++ (opening ++ (block.body ++ before)), again, behind,
          by simp, ?_, cut⟩
        rw [place, Block.stop, start]
        simp only [Text.byteLength_append]
        omega

/-- A block of a row ends in front of where the next one starts. -/
theorem IsRow.pairwise (row : IsRow offset text blocks) :
    blocks.Pairwise fun first second => first.stop < second.start := by
  induction row with
  | nil => exact .nil
  | cons start cut later induction =>
      refine List.pairwise_cons.mpr ⟨fun other member => ?_, induction⟩
      obtain ⟨_, before, opening, _, _, place, cut⟩ :=
        later.exists_cut other member
      obtain ⟨inside, rfl, _⟩ := cut.spelled
      have positive := Char.utf8Size_pos '<'
      rw [place, Text.byteLength_append, Text.byteLength]
      omega

/-- All blocks of a file, by kind. -/
def Blocks.all (blocks : Blocks) : List Block :=
  blocks.template.toList ++ (blocks.scripts ++ (blocks.styles ++ blocks.custom))

theorem count_filter (test : Block → Bool) (blocks : List Block)
    (block : Block) : (blocks.filter test).count block =
      if test block then blocks.count block else 0 := by
  split
  · next kept => exact List.count_filter kept
  · next other => exact List.count_eq_zero.mpr (by simp [other])

/-- Sorting by kind loses no block, if there is one template at most. -/
theorem perm_all (single : blocks.countP Block.isTemplate ≤ 1) :
    blocks.Perm (Blocks.ofList blocks).all := by
  have template : (blocks.find? Block.isTemplate).toList =
      blocks.filter Block.isTemplate := by
    rw [← List.head?_filter]
    rw [List.countP_eq_length_filter] at single
    match blocks.filter Block.isTemplate, single with
    | [], _ => rfl
    | [block], _ => rfl
    | _ :: _ :: _, single => simp at single
  rw [Blocks.all, Blocks.ofList, template, List.perm_iff_count]
  intro block
  simp only [List.count_append, count_filter, Block.isTemplate]
  -- Every kind is the one of just one of the parts.
  by_cases isTemplate : block.kind = "template"
  · simp [isTemplate]
  · by_cases isScript : block.kind = "script"
    · simp [isScript]
    · by_cases isStyle : block.kind = "style"
      · simp [isStyle]
      · simp [isTemplate, isScript, isStyle]

/-- The blocks of a file stand in it in a row, each right behind its opening
tag, one template at most among them. -/
theorem splitBlocks_sound {source : List Char} {blocks : Blocks}
    (success : splitBlocks source = .ok blocks) :
    ∃ row : List Block, row.Perm blocks.all ∧ IsRow 0 source row ∧
      row.Pairwise (fun first second => first.stop < second.start) ∧
      row.countP Block.isTemplate ≤ 1 ∧
      ∀ block ∈ row,
        Text.slice? source block.start block.stop = some block.body ∧
        ∃ tag before opening after,
          source = before ++ (opening ++ (block.body ++ after)) ∧
          block.start = Text.byteLength (before ++ opening) ∧
          block.IsCut tag opening after ∧
          (tag.selfClosing = false → block.isTemplate = false →
            block.kind.toList.getLast? ≠ some '<' →
            ∀ front back, block.body = front ++ back → back ≠ [] →
              startsEndTag block.kind.toList (back ++ after) = false) := by
  unfold splitBlocks at success
  split at success
  · next found equality =>
      obtain rfl := by simpa using success
      obtain ⟨row, count⟩ := isRow_of_blocksFrom equality
      have single : found.countP Block.isTemplate ≤ 1 := by
        simpa using count
      refine ⟨found, perm_all single, row, row.pairwise, single, ?_⟩
      intro block member
      obtain ⟨tag, before, opening, after, whole, start, cut⟩ :=
        row.exists_cut block member
      rw [Nat.zero_add] at start
      refine ⟨?_, tag, before, opening, after, whole, start, cut,
        fun left other => (cut.other left other).first⟩
      have window : Cursor.IsWindow source block.stop
          { rest := block.body, offset := block.start } :=
        ⟨before ++ opening, after, by simp [whole], start, rfl⟩
      exact window.slice?_rest
  · simp at success

end Consequences

/-- A script with a mark of its end tag inside, a childless block, a style in a
comment and a template. -/
theorem splitBlocks_sound_script :
    let source := ("<script>a</scripts></SCRIPT ><i18n/><!-- <style> -->" ++
      "<template>é</template>").toList
    ∃ blocks, splitBlocks source = .ok blocks ∧
      blocks.all.map (fun block => (block.kind, block.start, block.stop)) =
        [("template", 62, 64), ("script", 8, 19), ("i18n", 36, 36)] ∧
      ∃ row : List Block, row.Perm blocks.all ∧ IsRow 0 source row ∧
        row.Pairwise (fun first second => first.stop < second.start) ∧
        ∀ block ∈ row,
          Text.slice? source block.start block.stop = some block.body := by
  intro source
  obtain ⟨blocks, split, places⟩ :
      ∃ blocks, splitBlocks source = .ok blocks ∧
        blocks.all.map (fun block => (block.kind, block.start, block.stop)) =
          [("template", 62, 64), ("script", 8, 19), ("i18n", 36, 36)] :=
    exists_ok_of_toOption_map (by decide +kernel)
  obtain ⟨row, same, stands, ordered, _, each⟩ := splitBlocks_sound split
  exact ⟨blocks, split, places, row, same, stands, ordered,
    fun block member => (each block member).1⟩

/-- Not every body of text ends at the first end tag of its name. -/
theorem not_first_endTag :
    ¬ ∀ source blocks, splitBlocks source = .ok blocks →
      ∀ block ∈ blocks.all, block.isTemplate = false → block.body ≠ [] →
        ∀ front back, source = front ++ back →
          block.start ≤ Text.byteLength front →
          Text.byteLength front < block.stop →
          startsEndTag block.kind.toList back = false := by
  intro first
  let block : Block := {
    kind := "a<"
    attributes := []
    start := 4
    body := "</a</a<>".toList }
  have split : splitBlocks "<a<></a</a<></a<>".toList =
      .ok (Blocks.ofList [block]) :=
    eq_ok_of_toOption (by decide +kernel)
  have missed := first _ _ split block (by decide +kernel) (by decide +kernel)
    (by decide +kernel) "<a<></a".toList "</a<></a<>".toList (by decide +kernel)
    (by decide +kernel) (by decide +kernel)
  exact absurd missed (by decide +kernel)

end Template

end SourceMark
