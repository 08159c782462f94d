import SourceMark.Text.Blank
import SourceMark.Text.Cut

/-!
# Inline templates of a script

An inline template is the literal behind `template` and a colon.  A backslash
in a literal keeps the next character from closing it; a literal that is never
closed is no literal.
-/

namespace SourceMark

namespace Markup

/-- A literal: its quote, the byte offset behind the opening quote, and what
stands between the quotes. -/
structure Literal where
  quote : Char
  start : Nat
  body : List Char
deriving Repr, DecidableEq

namespace Literal

/-- The text up to the first such quote without a backslash, and the text
behind that quote. -/
def body? (quote : Char) : List Char → Option (List Char × List Char)
  | [] => none
  | character :: rest =>
      if character = quote then
        some ([], rest)
      else if character = '\\' then
        match rest with
        | [] => none
        | escaped :: later =>
            (body? quote later).map fun (body, after) =>
              (character :: escaped :: body, after)
      else
        (body? quote rest).map fun (body, after) => (character :: body, after)

/-- The body and what follows it are shorter than the text. -/
theorem length_body? {quote : Char} {text body rest : List Char}
    (found : body? quote text = some (body, rest)) :
    body.length + rest.length < text.length := by
  fun_induction body? quote text generalizing body rest with
  | case1 => simp at found
  | case2 rest' =>
      obtain ⟨rfl, rfl⟩ := by simpa using found
      simp
  | case3 => simp at found
  | case4 _ escaped later induction =>
      simp only [Option.map_eq_some_iff, Prod.exists] at found
      obtain ⟨inner, after, equality, result⟩ := found
      obtain ⟨rfl, rfl⟩ := by simpa using result
      have := induction equality
      simp only [List.length_cons]
      omega
  | case5 character later _ _ induction =>
      simp only [Option.map_eq_some_iff, Prod.exists] at found
      obtain ⟨inner, after, equality, result⟩ := found
      obtain ⟨rfl, rfl⟩ := by simpa using result
      have := induction equality
      simp only [List.length_cons]
      omega

/-- The name of the property that holds an inline template. -/
def property : List Char :=
  "template".toList

/-- A quote that can open a literal. -/
def isQuote (character : Char) : Bool :=
  character = '\x60' || character = '\x27' || character = '"'

/-- Read `template`, a colon and a literal at the start of the text; answers
with the characters in front of the body, the quote, the body and the text
behind the closing quote. -/
def read? (text : List Char) :
    Option (List Char × Char × List Char × List Char) :=
  if property.isPrefixOf text then
    let named := text.drop property.length
    let gap := named.takeWhile Text.isBlank
    match named.dropWhile Text.isBlank with
    | ':' :: valued =>
        let space := valued.takeWhile Text.isBlank
        match valued.dropWhile Text.isBlank with
        | quote :: later =>
            if isQuote quote then
              (body? quote later).map fun (body, rest) =>
                (property ++ gap ++ [':'] ++ space ++ [quote], quote, body, rest)
            else
              none
        | [] => none
    | _ => none
  else
    none

private theorem length_after_blanks_le (text : List Char) :
    (text.dropWhile Text.isBlank).length ≤ text.length :=
  (List.dropWhile_sublist Text.isBlank).length_le

/-- Behind a literal there is less left than before it. -/
theorem length_read? {text lead body rest : List Char} {quote : Char}
    (found : read? text = some (lead, quote, body, rest)) :
    rest.length < text.length := by
  simp only [read?] at found
  split at found
  · split at found
    · next valued equality =>
        split at found
        · next opening later equality' =>
            split at found
            · simp only [Option.map_eq_some_iff, Prod.exists] at found
              obtain ⟨inner, after, closed, result⟩ := found
              simp only [Prod.mk.injEq] at result
              obtain ⟨_, _, _, rfl⟩ := result
              have closing := length_body? closed
              have first := length_after_blanks_le
                (text.drop property.length)
              have second := length_after_blanks_le valued
              rw [equality] at first
              rw [equality'] at second
              simp only [List.length_cons, List.length_drop] at first second
              omega
            · simp at found
        · simp at found
    · simp at found
  · simp at found

/-- All inline templates of a text that starts at the given byte offset, from
the left. -/
def scan (offset : Nat) (text : List Char) : List Literal :=
  match text with
  | [] => []
  | character :: rest =>
      match found : read? (character :: rest) with
      | some (lead, quote, body, later) =>
          let start := offset + Text.byteLength lead
          { quote, start, body } :: scan (start + Text.byteLength body + 1) later
      | none => scan (offset + character.utf8Size) rest
termination_by text.length
decreasing_by
  · exact length_read? found
  · simp

end Literal

end Markup

end SourceMark
