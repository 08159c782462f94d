import SourceMark.Toml.Scalar
import SourceMark.Toml.Table

/-!
# Reading TOML

A document is read line by line into its tables and answers with one record.
-/

namespace SourceMark

namespace Toml

/-- The text behind a comment, if there is one here. -/
def skipComment : List Char → List Char
  | '#' :: rest =>
      rest.dropWhile fun character => isPlain character || character = '\x7f'
  | text => text

/-- The text without blanks, line ends and comments, which may stand between
the items of a list. -/
def skipGap : Nat → List Char → List Char
  | 0, text => text
  | fuel + 1, text =>
      match skipBlanks text with
      | '#' :: rest => skipGap fuel (skipComment ('#' :: rest))
      | other =>
          match lineEnd? other with
          | some rest => skipGap fuel rest
          | none => other

mutual

/-- Read a value; lists and inline tables nest at most `depth` deep. -/
def value? : Nat → (depth : Nat) → List Char → Option (Json × List Char)
  | 0, _, _ => none
  | fuel + 1, depth, text =>
      match text with
      | '"' :: _ => (text? text).map fun (value, later) => (.string value, later)
      | '\x27' :: _ =>
          (text? text).map fun (value, later) => (.string value, later)
      | '[' :: rest =>
          if depth ≤ 1 then none
          else
            (items? fuel (depth - 1) rest).map fun (items, later) =>
              (.list items, later)
      | '\x7b' :: rest =>
          if depth ≤ 1 then none
          else
            (pairs? fuel (depth - 1) [] rest).map fun (entries, later) =>
              (.record (fieldsOf entries), later)
      | 't' :: 'r' :: 'u' :: 'e' :: later => some (.boolean true, later)
      | 'f' :: 'a' :: 'l' :: 's' :: 'e' :: later => some (.boolean false, later)
      | other => scalar? other

/-- Read the items of a list up to its closing bracket; a comma may stand
behind the last one. -/
def items? : Nat → (depth : Nat) → List Char → Option (List Json × List Char)
  | 0, _, _ => none
  | fuel + 1, depth, text =>
      match skipGap text.length text with
      | ']' :: later => some ([], later)
      | started =>
          match value? fuel depth started with
          | none => none
          | some (item, behind) =>
              match skipGap behind.length behind with
              | ']' :: later => some ([item], later)
              | ',' :: rest =>
                  (items? fuel depth rest).map fun (items, later) =>
                    (item :: items, later)
              | _ => none

/-- Read the pairs of an inline table up to its closing brace, on one line and
without a comma behind the last one. -/
def pairs? : Nat → (depth : Nat) → Entries → List Char →
    Option (Entries × List Char)
  | 0, _, _, _ => none
  | fuel + 1, depth, entries, text =>
      match entries, skipBlanks text with
      | [], '\x7d' :: later => some ([], later)
      | _, started =>
          match key? started with
          | some ((path, key), '=' :: rest) =>
              match value? fuel depth (skipBlanks rest) with
              | none => none
              | some (value, behind) =>
                  match entries.set? (.closed value) key path.isEmpty path with
                  | none => none
                  | some entries =>
                      match skipBlanks behind with
                      | '\x7d' :: later => some (entries, later)
                      | ',' :: rest => pairs? fuel depth entries rest
                      | _ => none
          | _ => none

end

/-- Read the end of a line behind blanks and a comment. -/
def restOfLine? (text : List Char) : Option (List Char) :=
  match skipComment (skipBlanks text) with
  | [] => some []
  | other => lineEnd? other

/-- The tables so far, and the header under which lines are read. -/
structure Draft where
  root : Entries
  header : List String

namespace Draft

/-- Open the table of a header. -/
def open? (draft : Draft) (isRepeated : Bool) (path : List String)
    (key : String) : Option Draft :=
  let change := if isRepeated then Entries.repeatTable? key
    else Entries.openTable? key
  (draft.root.change? change path).map fun root =>
    { root, header := path ++ [key] }

/-- Set a key of the table at hand. -/
def set? (draft : Draft) (path : List String) (key : String) (value : Json) :
    Option Draft :=
  (draft.root.change? (Entries.set? (.closed value) key path.isEmpty path)
    draft.header).map fun root => { draft with root }

end Draft

/-- Read a header of which the bracket has been read. -/
def header? (draft : Draft) (text : List Char) : Option (Draft × List Char) :=
  let isRepeated := text.head? == some '['
  let closing := if isRepeated then [']', ']'] else [']']
  match key? (if isRepeated then text.drop 1 else text) with
  | some ((path, key), behind) =>
      if closing.isPrefixOf behind then
        match draft.open? isRepeated path key with
        | some draft => some (draft, behind.drop closing.length)
        | none => none
      else
        none
  | none => none

/-- Read a key with its value. -/
def pair? (draft : Draft) (text : List Char) : Option (Draft × List Char) :=
  match key? text with
  | some ((path, key), '=' :: rest) =>
      match value? (rest.length + 1) depthLimit (skipBlanks rest) with
      | some (value, later) =>
          (draft.set? path key value).map fun draft => (draft, later)
      | none => none
  | _ => none

/-- Read the lines of a document. -/
def lines? : Nat → Draft → List Char → Option Draft
  | 0, _, _ => none
  | fuel + 1, draft, text =>
      match skipBlanks text with
      | [] => some draft
      | character :: rest =>
          let read :=
            if character = '#' || character = '\n' || character = '\r' then
              some (draft, character :: rest)
            else if character = '[' then
              header? draft rest
            else
              pair? draft (character :: rest)
          match read with
          | none => none
          | some (draft, behind) =>
              match restOfLine? behind with
              | some later => lines? fuel draft later
              | none => none

/-- Read a document; a byte order mark at its start is dropped. -/
def read? (text : String) : Option Json :=
  let source :=
    match text.toList with
    | '\ufeff' :: rest => rest
    | other => other
  (lines? (source.length + 1) { root := [], header := [] } source).map
    fun draft => .record (fieldsOf draft.root)

end Toml

end SourceMark
