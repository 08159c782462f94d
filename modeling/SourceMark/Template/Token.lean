import SourceMark.Template.Tag

/-!
# Tokens of a template

A template is cut into tokens from left to right by the lexical rules alone.
Nothing is read behind a fault, so a fault is always the last token.
-/

namespace SourceMark

namespace Template

/-- A token of a template. -/
inductive Token where
  | text (value : List Char)
  | interpolation (value : List Char)
  | comment (value : List Char)
  | opening (tag : OpenTag)
  /-- An element whose body is text up to its end tag. -/
  | raw (tag : OpenTag) (body : List Char)
  | closing (name : List Char)
  | fault (fault : Fault)
deriving Repr, DecidableEq

/-- Elements that have neither children nor an end tag. -/
def voidNames : List String :=
  ["area", "base", "br", "col", "embed", "hr", "img", "input", "link", "meta",
    "param", "source", "track", "wbr"]

/-- Elements whose body is text. -/
def rawNames : List String := ["script", "style"]

/-- Whether elements of that name have no children. -/
def isVoid (tag : String) : Bool :=
  voidNames.contains (Text.lowerString tag)

/-- Whether the body of elements of that name is text. -/
def isRaw (tag : String) : Bool :=
  rawNames.contains (Text.lowerString tag)

/-- A character of a text; a bracket or a brace may start something else. -/
def isPlain (character : Char) : Bool :=
  character ≠ '<' && character ≠ '{'

/-- A character of the name of an end tag. -/
def isEndNamePart (character : Char) : Bool :=
  !(Text.isBlank character || character = '>')

/-- A token and the cursor behind it. -/
abbrev Step : Type := Token × Cursor

/-- A fault, behind which nothing is read. -/
def faultStep (fault : Fault) (cursor : Cursor) : Step :=
  (.fault fault, { rest := [], offset := cursor.offset })

/-- A text whose first character is taken whatever it is. -/
def textStep (first : Char) (rest : List Char) (offset : Nat) : Step :=
  let taken := Cursor.takeWhile isPlain (offset + first.utf8Size) rest
  (.text (first :: taken.1), taken.2)

/-- An interpolation, whose opening mark comes next. -/
def interpolationStep (cursor : Cursor) : Step :=
  match Cursor.find? ['}', '}'] cursor.offset cursor.rest with
  | some (before, close) =>
      (.interpolation (Text.trim (before.drop 2)), close.skip 2)
  | none => faultStep (.openInterpolation cursor.offset) cursor

/-- A comment, whose opening mark comes next. -/
def commentStep (cursor : Cursor) : Step :=
  match Cursor.find? ['-', '-', '>'] cursor.offset cursor.rest with
  | some (before, close) =>
      if before.length < 4 then
        faultStep .crossedComment cursor
      else
        (.comment (before.drop 4), close.skip 3)
  | none => faultStep (.openComment cursor.offset) cursor

/-- A declaration, which counts as a comment up to the next bracket. -/
def declarationStep (cursor : Cursor) : Step :=
  match Cursor.find? ['>'] cursor.offset cursor.rest with
  | some (before, close) => (.comment (before.drop 2), close.skip 1)
  | none =>
      (.comment (cursor.rest.drop 2),
        { rest := [],
          offset := cursor.offset + Text.byteLength cursor.rest })

/-- An end tag, whose opening mark comes next. -/
def endTagStep (cursor : Cursor) : Step :=
  let name := (cursor.rest.drop 2).takeWhile isEndNamePart
  match Cursor.find? ['>'] cursor.offset cursor.rest with
  | some (_, close) =>
      if name.isEmpty then
        faultStep (.namelessEndTag cursor.offset) cursor
      else
        (.closing name, close.skip 1)
  | none => faultStep (.openEndTag cursor.offset) cursor

/-- An element behind its opening tag: its body comes along when it is text. -/
def openedStep (tag : OpenTag) (behind : Cursor) : Step :=
  if tag.selfClosing || isVoid tag.name || !isRaw tag.name then
    (.opening tag, behind)
  else
    match findEndTag? tag.name.toList behind.offset behind.rest with
    | some (body, close) => (.raw tag body, behindBracket close)
    | none => faultStep (.missingEndTag tag.name) behind

/-- What starts with a bracket: a tag, or text when no letter follows. -/
def bracketStep (first : Char) (rest : List Char) (offset : Nat) : Step :=
  let cursor : Cursor := { rest := first :: rest, offset }
  match readOpenTag cursor with
  | .error fault => faultStep fault cursor
  | .ok (some (tag, behind)) => openedStep tag behind
  | .ok none => textStep first rest offset

/-- The token at the start of a text, given by its first character. -/
def step (first : Char) (rest : List Char) (offset : Nat) : Step :=
  let cursor : Cursor := { rest := first :: rest, offset }
  if ['{', '{'].isPrefixOf (first :: rest) then
    interpolationStep cursor
  else if ['<', '!', '-', '-'].isPrefixOf (first :: rest) then
    commentStep cursor
  else if ['<', '!'].isPrefixOf (first :: rest) then
    declarationStep cursor
  else if ['<', '/'].isPrefixOf (first :: rest) then
    endTagStep cursor
  else if first = '<' then
    bracketStep first rest offset
  else
    textStep first rest offset

theorem length_textStep (first : Char) (rest : List Char) (offset : Nat) :
    (textStep first rest offset).2.rest.length ≤ rest.length := by
  have := Cursor.length_takeWhile isPlain (offset + first.utf8Size) rest
  simp only [textStep]
  omega

theorem length_faultStep (fault : Fault) (cursor : Cursor) :
    (faultStep fault cursor).2.rest.length = 0 := rfl

theorem length_interpolationStep (first : Char) (rest : List Char)
    (offset : Nat) :
    (interpolationStep { rest := first :: rest, offset }).2.rest.length ≤
      rest.length := by
  unfold interpolationStep
  split
  · next before close equality =>
      have := Cursor.length_find? equality
      simp only [Cursor.length_skip, List.length_cons] at this ⊢
      omega
  · simp [length_faultStep]

theorem length_commentStep (first : Char) (rest : List Char) (offset : Nat) :
    (commentStep { rest := first :: rest, offset }).2.rest.length ≤
      rest.length := by
  unfold commentStep
  split
  · next before close equality =>
      have := Cursor.length_find? equality
      split
      · simp [length_faultStep]
      · simp only [Cursor.length_skip, List.length_cons] at this ⊢
        omega
  · simp [length_faultStep]

theorem length_declarationStep (first : Char) (rest : List Char)
    (offset : Nat) :
    (declarationStep { rest := first :: rest, offset }).2.rest.length ≤
      rest.length := by
  unfold declarationStep
  split
  · next before close equality =>
      have := Cursor.length_find? equality
      simp only [Cursor.length_skip, List.length_cons] at this ⊢
      omega
  · simp

theorem length_endTagStep (first : Char) (rest : List Char) (offset : Nat) :
    (endTagStep { rest := first :: rest, offset }).2.rest.length ≤
      rest.length := by
  unfold endTagStep
  simp only
  split
  · next before close equality =>
      have := Cursor.length_find? equality
      split
      · simp [length_faultStep]
      · simp only [Cursor.length_skip, List.length_cons] at this ⊢
        omega
  · simp [length_faultStep]

theorem length_openedStep (tag : OpenTag) (behind : Cursor) :
    (openedStep tag behind).2.rest.length ≤ behind.rest.length := by
  unfold openedStep
  split
  · simp
  · split
    · next body close equality =>
        have := length_findEndTag? equality
        have := length_behindBracket close
        simp only
        omega
    · simp [length_faultStep]

theorem length_bracketStep (first : Char) (rest : List Char) (offset : Nat) :
    (bracketStep first rest offset).2.rest.length ≤ rest.length := by
  unfold bracketStep
  simp only
  split
  · simp [length_faultStep]
  · next tag behind equality =>
      have read := length_readOpenTag equality
      have opened := length_openedStep tag behind
      simp only [List.length_cons] at read
      omega
  · exact length_textStep first rest offset

/-- Every token takes at least one character. -/
theorem length_step (first : Char) (rest : List Char) (offset : Nat) :
    (step first rest offset).2.rest.length ≤ rest.length := by
  unfold step
  simp only
  split
  · exact length_interpolationStep first rest offset
  · split
    · exact length_commentStep first rest offset
    · split
      · exact length_declarationStep first rest offset
      · split
        · exact length_endTagStep first rest offset
        · split
          · exact length_bracketStep first rest offset
          · exact length_textStep first rest offset

/-- The tokens of a text, each with the offset at which it starts. -/
def tokens (offset : Nat) : List Char → List (Nat × Token)
  | [] => []
  | first :: rest =>
      (offset, (step first rest offset).1) ::
        tokens (step first rest offset).2.offset
          (step first rest offset).2.rest
termination_by text => text.length
decreasing_by
  have := length_step first rest offset
  simp only [List.length_cons]
  omega

end Template

end SourceMark
