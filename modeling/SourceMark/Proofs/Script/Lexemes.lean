import SourceMark.Proofs.Text.Cursors
import SourceMark.Script.Lexeme

/-!
# What the readers of tokens leave

Whatever reads a token, a literal or the blanks between two tokens takes
characters off the front of a text and adds their bytes to the offset.  So the
cursor that it leaves is a later one of the same text, and offsets in the tree
of a script are those of the characters that were read.
-/

namespace SourceMark

namespace Script

open Cursor

/-! ## Gaps -/

theorem follows_pair {first second : Char} {rest : List Char} {offset : Nat}
    (left : first.utf8Size = 1) (right : second.utf8Size = 1) :
    Follows { rest, offset := offset + 2 }
      { rest := first :: second :: rest, offset } := by
  have begins : Follows { rest := second :: rest, offset := offset + 1 }
      { rest := first :: second :: rest, offset } := follows_ascii rfl left
  exact (follows_ascii rfl right).trans begins

theorem follows_skipped {hasLineEnd : Bool} {character : Char}
    {rest : List Char} {offset : Nat}
    (skips : skipsLine hasLineEnd (character :: rest) = true) :
    Follows { rest, offset := offset + 1 }
      { rest := character :: rest, offset } := by
  have single : character.utf8Size = 1 := by
    unfold skipsLine at skips
    split at skips
    · next equality => cases equality; rfl
    · next equality => cases equality; rfl
    · next equality => cases equality; rfl
    · next equality => cases equality; rfl
    · simp at skips
  exact follows_ascii rfl single

theorem follows_skipGap (mode : GapMode) (hasLineEnd : Bool)
    (start : Option Nat) (offset : Nat) (text : List Char) :
    (skipGap mode hasLineEnd start offset text).next.Follows
      { rest := text, offset } := by
  fun_induction skipGap mode hasLineEnd start offset text
  -- the next token starts here
  case case1 | case7 | case13 => exact Follows.refl _
  case case2 later | case3 later | case4 later | case5 later | case8 later |
      case9 later => exact later.trans (follows_pair rfl rfl)
  case case6 later => exact later.trans (follows_ascii rfl rfl)
  case case10 later | case11 later | case14 later | case15 later |
      case16 later => exact later.trans (follows_cons _ _ _)
  case case12 skips later => exact later.trans (follows_skipped skips)

theorem skipsLine_true {hasLineEnd : Bool} {text : List Char}
    (skips : skipsLine hasLineEnd text = true) : skipsLine true text = true := by
  cases hasLineEnd with
  | true => exact skips
  | false =>
      unfold skipsLine at skips ⊢
      split
      all_goals simp_all

theorem start_skipGap (mode : GapMode) (hasLineEnd : Bool)
    (start : Option Nat) (offset : Nat) (text : List Char) :
    (skipGap mode hasLineEnd start offset text).start =
        start.getD (skipGap mode hasLineEnd start offset text).next.offset ∨
      start = none ∧ ∃ line : Cursor, line.Follows { rest := text, offset } ∧
        (skipGap mode hasLineEnd start offset text).next.Follows line ∧
        (skipGap mode hasLineEnd start offset text).start = line.offset ∧
        skipsLine true line.rest = true := by
  fun_induction skipGap mode hasLineEnd start offset text
  case case1 | case7 | case13 => exact .inl rfl
  case case2 later | case3 later | case4 later | case5 later | case8 later |
      case9 later =>
    refine later.imp_right fun ⟨missing, line, behind, rest⟩ => ?_
    exact ⟨missing, line, behind.trans (follows_pair rfl rfl), rest⟩
  case case6 later =>
    refine later.imp_right fun ⟨missing, line, behind, rest⟩ => ?_
    exact ⟨missing, line, behind.trans (follows_ascii rfl rfl), rest⟩
  case case10 later | case11 later | case14 later | case15 later |
      case16 later =>
    refine later.imp_right fun ⟨missing, line, behind, rest⟩ => ?_
    exact ⟨missing, line, behind.trans (follows_cons _ _ _), rest⟩
  case case12 hasLineEnd start offset character rest _ _ _ _ _ skips later =>
    have first : (skipGap .lineComment hasLineEnd (some (start.getD offset))
        (offset + 1) rest).start = start.getD offset := by
      rcases later with kept | ⟨missing, -⟩
      · exact kept
      · cases missing
    cases start with
    | some start => exact .inl first
    | none =>
        refine .inr ⟨rfl, _, Follows.refl _, ?_, first, skipsLine_true skips⟩
        exact (follows_skipGap _ _ _ _ _).trans (follows_skipped skips)

/-! ## Words -/

theorem utf8Size_of_hexValue? {digit : Char} {value : Nat}
    (found : Text.hexValue? digit = some value) : digit.utf8Size = 1 := by
  rw [Char.utf8Size_eq_one_iff]
  have small : digit ≤ 'f' := by
    unfold Text.hexValue? at found
    split at found
    · next range => exact Char.le_trans range.2 (by decide)
    · split at found
      · next range => exact range.2
      · split at found
        · next range => exact Char.le_trans range.2 (by decide)
        · simp at found
  exact UInt32.le_trans small (by decide)

theorem follows_fixedHex? {value count offset number : Nat}
    {text : List Char} {behind : Cursor}
    (found : fixedHex? value count offset text = some (number, behind)) :
    behind.Follows { rest := text, offset } := by
  fun_induction fixedHex? value count offset text
  case case1 =>
    obtain ⟨-, rfl⟩ := by simpa using found
    exact Follows.refl _
  case case2 => simp at found
  case case3 later => exact (later found).trans (follows_ascii rfl rfl)
  case case4 low digit later =>
    exact (later found).trans
      (follows_ascii rfl (utf8Size_of_hexValue? digit))
  case case5 => simp at found

theorem follows_unicodeEscape? {cursor behind : Cursor} {number : Nat}
    (found : unicodeEscape? cursor = some (number, behind)) :
    behind.Follows cursor := by
  unfold unicodeEscape? at found
  split at found
  · next rest equality =>
      dsimp only at found
      split at found
      · split at found
        · simp at found
        · obtain ⟨-, rfl⟩ := by simpa using found
          have digits := follows_takeWhile
            (fun digit => digit = '_' || (Text.hexValue? digit).isSome)
            (cursor.offset + 1) rest
          exact ((follows_skip 1 _).trans digits).trans
            (follows_ascii equality rfl)
      · simp at found
  · exact follows_fixedHex? found

theorem follows_wordEscape? {cursor behind : Cursor} {characters : List Char}
    (found : wordEscape? cursor = some (characters, behind)) :
    behind.Follows cursor := by
  unfold wordEscape? at found
  split at found
  · obtain ⟨⟨value, after⟩, escape, result⟩ := Option.map_eq_some_iff.mp found
    have later := (follows_unicodeEscape? escape).trans (follows_skip 2 cursor)
    dsimp only at result
    split at result
    · obtain ⟨-, rfl⟩ := by simpa using result
      exact later
    · obtain ⟨-, rfl⟩ := by simpa using result
      exact later
  · simp at found

theorem follows_escapedWord? {fuel : Nat} {cursor : Cursor}
    {spelling : Spelling} (found : escapedWord? fuel cursor = some spelling) :
    spelling.behind.Follows cursor := by
  induction fuel generalizing cursor spelling with
  | zero => simp [escapedWord?] at found
  | succ fuel induction =>
      have plain := follows_takeWhile Text.isWordPart cursor.offset cursor.rest
      simp only [escapedWord?] at found
      split at found
      · split at found
        · next next escape =>
            obtain ⟨rest, further, rfl⟩ := Option.map_eq_some_iff.mp found
            exact ((induction further).trans
              (follows_wordEscape? escape)).trans plain
        · simp at found
      · obtain rfl := by simpa using found
        exact plain

theorem follows_spelling {cursor : Cursor} {spelling : Spelling}
    (found : Spelling.at? cursor = some spelling) :
    spelling.behind.Follows cursor := by
  simp only [Spelling.at?] at found
  split at found
  · exact follows_escapedWord? found
  · obtain rfl := by simpa using found
    exact follows_takeWhile Text.isWordPart cursor.offset cursor.rest

theorem follows_plainWord? {cursor behind : Cursor} {word : String}
    (found : plainWord? cursor = some (word, behind)) :
    behind.Follows cursor := by
  unfold plainWord? at found
  split at found
  · next spelling spelled =>
      dsimp only at found
      split at found
      · simp at found
      · obtain ⟨-, rfl⟩ := by simpa using found
        exact follows_spelling spelled
  · simp at found

theorem follows_tagWord? {cursor behind : Cursor} {word : String}
    (found : tagWord? cursor = some (word, behind)) :
    behind.Follows cursor := by
  unfold tagWord? at found
  split at found
  · split at found
    · split at found
      · next spelling spelled =>
          dsimp only at found
          split at found
          · simp at found
          · obtain ⟨-, rfl⟩ := by simpa using found
            exact (follows_takeWhile _ _ _).trans (follows_spelling spelled)
      · simp at found
    · simp at found
  · simp at found

/-! ## Numbers -/

theorem follows_closeDigits (isDigit : Char → Bool) (cursor : Cursor) :
    (closeDigits isDigit cursor).Follows cursor :=
  follows_takeWhile _ _ _

theorem follows_closeBigNumber (cursor : Cursor) :
    (closeBigNumber cursor).Follows cursor := by
  unfold closeBigNumber
  split
  · exact follows_skip 1 cursor
  · exact Follows.refl _

theorem follows_closeExponent? {cursor behind : Cursor}
    (found : closeExponent? cursor = some behind) :
    behind.Follows cursor := by
  have digits (count : Nat) :
      (closeDecimals (cursor.skip count)).Follows cursor :=
    (follows_closeDigits _ _).trans (follows_skip count cursor)
  unfold closeExponent? at found
  split at found
  · split at found
    · dsimp only at found
      split at found
      · obtain ⟨-, ⟨⟩⟩ := Option.ite_none_right_eq_some.mp found
        exact digits 2
      · obtain ⟨-, ⟨⟩⟩ := Option.ite_none_right_eq_some.mp found
        exact digits 2
      · obtain ⟨-, ⟨⟩⟩ := Option.ite_none_right_eq_some.mp found
        exact digits 1
    · obtain rfl := by simpa using found
      exact Follows.refl _
  · obtain rfl := by simpa using found
    exact Follows.refl _

theorem follows_closeFraction? {cursor behind : Cursor}
    (found : closeFraction? cursor = some behind) :
    behind.Follows cursor := by
  unfold closeFraction? at found
  split at found
  · have digits := follows_closeDigits Text.isAsciiDigit (cursor.skip 1)
    exact ((follows_closeExponent? found).trans digits).trans
      (follows_skip 1 cursor)
  · exact follows_closeExponent? found

theorem follows_closeBased? {base : Nat} {cursor behind : Cursor}
    (found : closeBased? base cursor = some behind) :
    behind.Follows cursor := by
  simp only [closeBased?] at found
  split at found
  · obtain rfl := by simpa using found
    exact (follows_closeBigNumber _).trans (follows_closeDigits _ _)
  · simp at found

theorem follows_closeDecimal? {cursor behind : Cursor}
    (found : closeDecimal? cursor = some behind) :
    behind.Follows cursor := by
  have digits := follows_closeDigits Text.isAsciiDigit cursor
  simp only [closeDecimal?] at found
  split at found
  · obtain rfl := by simpa using found
    exact (follows_skip 1 _).trans digits
  · exact (follows_closeFraction? found).trans digits

theorem follows_closeLegacy? {cursor behind : Cursor}
    (found : closeLegacy? cursor = some behind) :
    behind.Follows cursor := by
  have digits := follows_closeDigits Text.isAsciiDigit cursor
  simp only [closeLegacy?] at found
  split at found
  · exact (follows_closeFraction? found).trans digits
  · obtain rfl := by simpa using found
    exact digits

theorem follows_closeNumber? {cursor behind : Cursor}
    (found : closeNumber? cursor = some behind) :
    behind.Follows cursor := by
  simp only [closeNumber?, Option.filter_eq_some_iff] at found
  obtain ⟨closed, -⟩ := found
  split at closed
  · split at closed
    · exact (follows_closeBased? closed).trans (follows_skip 2 cursor)
    · split at closed
      · exact follows_closeLegacy? closed
      · exact follows_closeDecimal? closed
  · exact follows_closeDecimal? closed

/-! ## Texts, templates and patterns -/

theorem follows_closeEscape? {inTemplate isSound : Bool}
    {cursor behind : Cursor}
    (found : closeEscape? inTemplate cursor = some (isSound, behind)) :
    behind.Follows cursor := by
  unfold closeEscape? at found
  split at found
  · simp at found
  · obtain ⟨-, rfl⟩ := by simpa using found
    exact follows_skip 2 cursor
  · next rest equality =>
      split at found
      · next closed =>
          obtain ⟨-, rfl⟩ := by simpa using found
          exact (follows_fixedHex? closed).trans (follows_ascii equality rfl)
      · obtain ⟨-, rfl⟩ := by simpa using found
        exact follows_skip 1 cursor
  · split at found
    · next closed =>
        obtain ⟨-, rfl⟩ := by simpa using found
        exact (follows_unicodeEscape? closed).trans (follows_skip 1 cursor)
    · obtain ⟨-, rfl⟩ := by simpa using found
      exact follows_skip 1 cursor
  · obtain ⟨-, rfl⟩ := by simpa using found
    exact follows_skip 1 cursor
  · obtain ⟨-, rfl⟩ := by simpa using found
    exact follows_skip 1 cursor

theorem follows_skipPlainText (quote : Char) (cursor : Cursor) :
    (skipPlainText quote cursor).Follows cursor :=
  follows_takeWhile _ _ _

theorem follows_closeText? {quote : Char} {cursor behind : Cursor}
    (found : closeText? quote cursor = some behind) :
    behind.Follows cursor := by
  fun_induction closeText? quote cursor
  case case1 cursor plain rest equality next escape shorter later =>
    have start := follows_skipPlainText quote cursor
    have escaped : next.Follows plain :=
      (follows_closeEscape? escape).trans (follows_ascii equality rfl)
    exact ((later found).trans escaped).trans start
  case case2 => simp at found
  case case3 cursor plain character rest equality _ =>
    obtain rfl := by simpa using found
    have start := follows_skipPlainText quote cursor
    split
    · exact (follows_skip 1 _).trans start
    · exact start
  case case4 cursor plain equality =>
    obtain rfl := by simpa using found
    exact follows_skipPlainText quote cursor

theorem follows_skipPlainTemplate (cursor : Cursor) :
    (skipPlainTemplate cursor).Follows cursor :=
  follows_takeWhile _ _ _

theorem follows_templatePiece? {cursor : Cursor} {piece : TemplatePiece}
    (found : templatePiece? cursor = some piece) :
    piece.behind.Follows cursor := by
  fun_induction templatePiece? cursor generalizing piece
  case case1 cursor plain rest equality isSound next escape shorter later =>
    obtain ⟨further, piece, rfl⟩ := Option.map_eq_some_iff.mp found
    have start := follows_skipPlainTemplate cursor
    have escaped : next.Follows plain :=
      (follows_closeEscape? escape).trans (follows_ascii equality rfl)
    exact ((later piece).trans escaped).trans start
  case case2 => simp at found
  case case3 cursor plain rest equality =>
    obtain rfl := by simpa using found
    exact (follows_skip 2 _).trans (follows_skipPlainTemplate cursor)
  case case4 cursor plain rest _ equality shorter later =>
    have start := follows_skipPlainTemplate cursor
    exact ((later found).trans (follows_ascii equality rfl)).trans start
  case case5 cursor plain _ _ _ _ _ _ =>
    obtain rfl := by simpa using found
    exact (follows_skip 1 _).trans (follows_skipPlainTemplate cursor)
  case case6 => simp at found

theorem follows_closePattern? {inClass : Bool} {offset : Nat}
    {text : List Char} {behind : Cursor}
    (found : closePattern? inClass offset text = some behind) :
    behind.Follows { rest := text, offset } := by
  fun_induction closePattern? inClass offset text
  case case1 => simp at found
  case case2 => simp at found
  case case3 offset escaped rest _ later =>
    exact ((later found).trans (follows_cons escaped rest (offset + 1))).trans
      (follows_ascii rfl rfl)
  case case4 => simp at found
  case case5 character _ _ _ closes =>
    obtain rfl := by simpa using found
    have slash : character = '/' := by simp_all
    exact follows_ascii rfl (slash ▸ rfl)
  case case6 later => exact (later found).trans (follows_cons _ _ _)

/-! ## Tags -/

theorem follows_closeAttribute? {quote : Char} {offset : Nat}
    {text : List Char} {behind : Cursor} (single : quote.utf8Size = 1)
    (found : closeAttribute? quote offset text = some behind) :
    behind.Follows { rest := text, offset } := by
  fun_induction closeAttribute? quote offset text
  case case1 => simp at found
  case case2 =>
    obtain rfl := by simpa using found
    exact follows_ascii rfl single
  case case3 later => exact (later found).trans (follows_cons _ _ _)

theorem follows_closeTagText (cursor : Cursor) :
    (closeTagText cursor).Follows cursor :=
  follows_takeWhile _ _ _

/-! ## Tokens -/

theorem follows_tokenAt (cursor : Cursor) :
    (tokenAt cursor).2.Follows cursor := by
  unfold tokenAt
  split
  · exact Follows.refl _
  · next character rest equality =>
      have behindFirst (single : character.utf8Size = 1) :
          Follows { rest, offset := cursor.offset + 1 } cursor :=
        follows_ascii equality single
      split
      · split
        · next found => exact follows_plainWord? found
        · exact Follows.refl _
      · split
        · split
          · next found => exact follows_closeNumber? found
          · exact Follows.refl _
        · split
          · next quoted =>
              have single : character.utf8Size = 1 := by
                simp only [Bool.or_eq_true, decide_eq_true_eq] at quoted
                rcases quoted with rfl | rfl
                · rfl
                · rfl
              split
              · next found =>
                  exact (follows_closeText? found).trans (behindFirst single)
              · exact Follows.refl _
          · split
            · next sharp =>
              split
              · next found =>
                  split
                  · exact (follows_plainWord? found).trans
                      (behindFirst (sharp ▸ rfl))
                  · exact Follows.refl _
              · exact Follows.refl _
            · split
              · exact follows_skip _ cursor
              · exact Follows.refl _

theorem prefix_of_markAt? {text : List Char} {mark : String}
    (found : markAt? text = some mark) : mark.toList <+: text := by
  unfold markAt? at found
  split at found
  -- a question mark and a dot, which a digit keeps apart
  case h_28 =>
    split at found
    · obtain rfl := by simpa using found
      exact ⟨_, rfl⟩
    · obtain rfl := by simpa using found
      exact ⟨_, rfl⟩
  case h_61 => simp at found
  all_goals
    obtain rfl := by simpa using found
    exact ⟨_, rfl⟩

theorem prefix_of_tokenAt {cursor : Cursor} {mark : String}
    (token : (tokenAt cursor).1 = .mark mark) :
    mark.toList <+: cursor.rest := by
  unfold tokenAt at token
  split at token
  · simp at token
  · -- every other kind of token is tried first
    repeat' split at token
    all_goals simp only [reduceCtorEq, Token.mark.injEq] at token
    next found =>
      rw [← token]
      exact prefix_of_markAt? found

end Script

theorem Cursor.follows_lexeme_place (cursor : Cursor) :
    cursor.lexeme.place.Follows cursor :=
  Script.follows_skipGap _ _ _ _ _

theorem Cursor.follows_lexeme_behind (cursor : Cursor) :
    cursor.lexeme.behind.Follows cursor :=
  (Script.follows_tokenAt _).trans cursor.follows_lexeme_place

/-- A token starts at its first character, or at a line in front of it that is
skipped although no comment begins there. -/
theorem Cursor.start_lexeme (cursor : Cursor) :
    cursor.lexeme.start = cursor.lexeme.place.offset ∨
      ∃ line : Cursor, line.Follows cursor ∧
        cursor.lexeme.place.Follows line ∧
        cursor.lexeme.start = line.offset ∧
        Script.skipsLine true line.rest = true :=
  (Script.start_skipGap _ _ _ _ _).imp_right And.right

/-- A mark stands where its token does. -/
theorem Cursor.prefix_of_lexeme {cursor : Cursor} {mark : String}
    (token : cursor.lexeme.token = .mark mark) :
    mark.toList <+: cursor.lexeme.place.rest :=
  Script.prefix_of_tokenAt token

end SourceMark
