import SourceMark.Markup.Literal
import SourceMark.Markup.Marking
import SourceMark.Proofs.Marker

/-!
# What a literal says

The text between the quotes of a literal is read symbol by symbol: a backslash
together with the character behind it, or a single character.  A text that is
cut in front of a character other than a backslash falls into the symbols of
its two parts, but for that character, which a backslash in front of the cut
escapes.
-/

namespace SourceMark

namespace Markup

/-- A character of a literal, and whether a backslash keeps it from meaning
anything to the script. -/
structure Symbol where
  escaped : Bool
  character : Char
deriving Repr, DecidableEq

namespace Symbol

/-- How many bytes a symbol takes. -/
def size (symbol : Symbol) : Nat :=
  (if symbol.escaped then 1 else 0) + symbol.character.utf8Size

/-- How many bytes some symbols take. -/
def sizes : List Symbol → Nat
  | [] => 0
  | symbol :: symbols => symbol.size + sizes symbols

/-- The symbols of the text of a literal.  A backslash at the very end is no
symbol yet. -/
def ofText : List Char → List Symbol
  | [] => []
  | ['\\'] => []
  | '\\' :: character :: rest => ⟨true, character⟩ :: ofText rest
  | character :: rest => ⟨false, character⟩ :: ofText rest

/-- Whether a backslash at the end of a text waits for what it escapes. -/
def dangles : List Char → Bool
  | [] => false
  | ['\\'] => true
  | '\\' :: _ :: rest => dangles rest
  | _ :: rest => dangles rest

/-- The text that symbols stand for. -/
def said (symbols : List Symbol) : List Char :=
  symbols.map character

/-- The byte offsets at which a substitution begins: a dollar sign that no
backslash escapes, with a brace right behind it. -/
def substitutions (offset : Nat) : List Symbol → List Nat
  | ⟨false, '$'⟩ :: ⟨false, '{'⟩ :: rest =>
      offset :: substitutions (offset + 2) rest
  | symbol :: rest => substitutions (offset + symbol.size) rest
  | [] => []

/-- A text is empty, a lone backslash, or begins with a symbol. -/
@[elab_as_elim]
theorem text_induction {motive : List Char → Prop} (empty : motive [])
    (lone : motive ['\\'])
    (escaped : ∀ character rest, motive rest →
      motive ('\\' :: character :: rest))
    (plain : ∀ character rest, character ≠ '\\' → motive rest →
      motive (character :: rest))
    (text : List Char) : motive text := by
  fun_induction ofText text with
  | case1 => exact empty
  | case2 => exact lone
  | case3 character rest induction => exact escaped character rest induction
  | case4 character rest notLone notEscape induction =>
      apply plain character rest _ induction
      rintro rfl
      cases rest with
      | nil => exact notLone rfl rfl
      | cons next rest => exact notEscape next rest rfl rfl

section Plain

variable {character : Char}

@[simp] theorem ofText_escaped (character : Char) (rest : List Char) :
    ofText ('\\' :: character :: rest) = ⟨true, character⟩ :: ofText rest := by
  simp [ofText]

@[simp] theorem dangles_escaped (character : Char) (rest : List Char) :
    dangles ('\\' :: character :: rest) = dangles rest := by
  simp [dangles]

theorem ofText_plain (plain : character ≠ '\\') (rest : List Char) :
    ofText (character :: rest) = ⟨false, character⟩ :: ofText rest := by
  rw [ofText]
  · simp [plain]
  · simp [plain]

theorem dangles_plain (plain : character ≠ '\\') (rest : List Char) :
    dangles (character :: rest) = dangles rest := by
  rw [dangles]
  · simp [plain]
  · simp [plain]

end Plain

@[simp] theorem sizes_cons (symbol : Symbol) (symbols : List Symbol) :
    sizes (symbol :: symbols) = symbol.size + sizes symbols := rfl

@[simp] theorem said_cons (symbol : Symbol) (symbols : List Symbol) :
    said (symbol :: symbols) = symbol.character :: said symbols := rfl

@[simp] theorem said_append (first second : List Symbol) :
    said (first ++ second) = said first ++ said second :=
  List.map_append

theorem byteLength_eq (text : List Char) :
    Text.byteLength text =
      sizes (ofText text) + if dangles text then 1 else 0 := by
  have solidus : '\\'.utf8Size = 1 := rfl
  induction text using text_induction with
  | empty => rfl
  | lone => rfl
  | escaped character rest induction =>
      rw [ofText_escaped, dangles_escaped, sizes_cons]
      simp only [Text.byteLength, size, solidus, induction, if_true]
      omega
  | plain character rest plain induction =>
      rw [ofText_plain plain, dangles_plain plain, sizes_cons]
      simp only [Text.byteLength, size, induction, Bool.false_eq_true, if_false]
      omega

/-- The symbols of a text that is cut in front of anything but a backslash. -/
theorem ofText_append {character : Char} (plain : character ≠ '\\')
    (before after : List Char) :
    ofText (before ++ character :: after) =
      ofText before ++ ⟨dangles before, character⟩ :: ofText after := by
  induction before using text_induction with
  | empty => exact ofText_plain plain after
  | lone => exact ofText_escaped character after
  | escaped first rest induction => simp [induction]
  | plain first rest different induction =>
      rw [List.cons_append, ofText_plain different, ofText_plain different,
        dangles_plain different, induction, List.cons_append]

theorem dangles_append {character : Char} (plain : character ≠ '\\')
    (before after : List Char) :
    dangles (before ++ character :: after) = dangles after := by
  induction before using text_induction with
  | empty => exact dangles_plain plain after
  | lone => exact dangles_escaped character after
  | escaped first rest induction => simp [induction]
  | plain first rest different induction =>
      rw [List.cons_append, dangles_plain different, induction]

/-- What a text says that does not end in a waiting backslash is the text
without its escapes. -/
theorem said_ofText {text : List Char} (settled : dangles text = false) :
    said (ofText text) = withoutEscapes text := by
  induction text using text_induction with
  | empty => rfl
  | lone => simp [dangles] at settled
  | escaped character rest induction =>
      rw [dangles_escaped] at settled
      rw [ofText_escaped, said_cons, induction settled, withoutEscapes]
  | plain character rest plain induction =>
      rw [dangles_plain plain] at settled
      rw [ofText_plain plain, said_cons, induction settled, withoutEscapes]
      simp [plain]

/-! ## Literals -/

/-- No quote is left unescaped. -/
def Quoteless (quote : Char) (symbols : List Symbol) : Prop :=
  (⟨false, quote⟩ : Symbol) ∉ symbols

theorem body?_closing (quote : Char) (rest : List Char) :
    Literal.body? quote (quote :: rest) = some ([], rest) := by
  rw [Literal.body?.eq_def]
  simp

theorem body?_escaped {quote : Char} (solid : quote ≠ '\\')
    (character : Char) (rest : List Char) :
    Literal.body? quote ('\\' :: character :: rest) =
      (Literal.body? quote rest).map fun read =>
        ('\\' :: character :: read.1, read.2) := by
  rw [Literal.body?.eq_def]
  simp [Ne.symm solid]

theorem body?_plain {quote character : Char} (open_ : character ≠ quote)
    (plain : character ≠ '\\') (rest : List Char) :
    Literal.body? quote (character :: rest) =
      (Literal.body? quote rest).map fun read =>
        (character :: read.1, read.2) := by
  rw [Literal.body?.eq_def]
  simp [open_, plain]

/-- In a literal that is read no quote stands unescaped, and its last
backslash escapes something. -/
theorem settled_of_body? {quote : Char} (solid : quote ≠ '\\')
    {text body rest : List Char}
    (found : Literal.body? quote text = some (body, rest)) :
    text = body ++ quote :: rest ∧ Quoteless quote (ofText body) ∧
      dangles body = false := by
  induction text using text_induction generalizing body with
  | empty => simp [Literal.body?] at found
  | lone => simp [Literal.body?, Ne.symm solid] at found
  | escaped character later induction =>
      rw [body?_escaped solid] at found
      obtain ⟨⟨inner, after⟩, equality, result⟩ :=
        Option.map_eq_some_iff.mp found
      obtain ⟨rfl, rfl⟩ := by simpa using result
      obtain ⟨rfl, quoteless, settled⟩ := induction equality
      refine ⟨rfl, ?_, ?_⟩
      · rw [ofText_escaped]
        simpa [Quoteless] using quoteless
      · rw [dangles_escaped, settled]
  | plain character later plain induction =>
      by_cases closes : character = quote
      · subst closes
        rw [body?_closing] at found
        obtain ⟨rfl, rfl⟩ := by simpa using found
        exact ⟨rfl, by simp [Quoteless, ofText], rfl⟩
      · rw [body?_plain closes plain] at found
        obtain ⟨⟨inner, after⟩, equality, result⟩ :=
          Option.map_eq_some_iff.mp found
        obtain ⟨rfl, rfl⟩ := by simpa using result
        obtain ⟨rfl, quoteless, settled⟩ := induction equality
        refine ⟨rfl, ?_, ?_⟩
        · rw [ofText_plain plain]
          simpa [Quoteless, Ne.symm closes] using quoteless
        · rw [dangles_plain plain, settled]

/-- Such a text is read as a literal up to its own quote. -/
theorem body?_of_settled {quote : Char} (solid : quote ≠ '\\')
    {body : List Char} (quoteless : Quoteless quote (ofText body))
    (settled : dangles body = false) (rest : List Char) :
    Literal.body? quote (body ++ quote :: rest) = some (body, rest) := by
  induction body using text_induction with
  | empty => exact body?_closing quote rest
  | lone => simp [dangles] at settled
  | escaped character later induction =>
      rw [ofText_escaped] at quoteless
      rw [dangles_escaped] at settled
      have inner := induction
        (fun member => quoteless (List.mem_cons_of_mem _ member)) settled
      rw [List.cons_append, List.cons_append, body?_escaped solid, inner]
      rfl
  | plain character later plain induction =>
      rw [ofText_plain plain] at quoteless
      rw [dangles_plain plain] at settled
      have different : character ≠ quote := by
        rintro rfl
        exact quoteless List.mem_cons_self
      have inner := induction
        (fun member => quoteless (List.mem_cons_of_mem _ member)) settled
      rw [List.cons_append, body?_plain different plain, inner]
      rfl

/-! ## Escaped texts -/

/-- Whether a character is escaped in front of another one. -/
def needsEscape (quote character : Char) (next : Option Char) : Bool :=
  character = '\\' || character = quote ||
    (character = '$' && quote = '\x60' && next == some '{')

theorem ofText_escapeWithin_cons (quote character : Char) (rest : List Char) :
    ofText (escapeWithin quote (character :: rest)) =
      ⟨needsEscape quote character rest.head?, character⟩ ::
        ofText (escapeWithin quote rest) := by
  by_cases solidus : character = '\\'
  · simp [escapeWithin, solidus, needsEscape]
  · by_cases closes : character = quote
    · subst closes
      simp [escapeWithin, solidus, needsEscape]
    · by_cases opens : character = '$' && quote = '\x60' &&
          rest.head? == some '{'
      · simp [escapeWithin, solidus, closes, opens, needsEscape]
      · have loose : needsEscape quote character rest.head? = false := by
          simpa [needsEscape, solidus, closes] using opens
        rw [escapeWithin, if_neg solidus, if_neg closes, if_neg opens,
          ofText_plain solidus, loose]

theorem dangles_escapeWithin (quote : Char) (text : List Char) :
    dangles (escapeWithin quote text) = false := by
  induction text with
  | nil => rfl
  | cons character rest induction =>
      rw [escapeWithin]
      split
      · rw [dangles_escaped, induction]
      · next solidus =>
          split
          · rw [dangles_escaped, induction]
          · split
            · rw [dangles_escaped, induction]
            · rw [dangles_plain solidus, induction]

theorem said_escapeWithin (quote : Char) (text : List Char) :
    said (ofText (escapeWithin quote text)) = text := by
  induction text with
  | nil => rfl
  | cons character rest induction =>
      rw [ofText_escapeWithin_cons, said_cons, induction]

theorem quoteless_escapeWithin (quote : Char) (text : List Char) :
    Quoteless quote (ofText (escapeWithin quote text)) := by
  induction text with
  | nil => simp [escapeWithin, ofText, Quoteless]
  | cons character rest induction =>
      rw [ofText_escapeWithin_cons]
      intro member
      rcases List.mem_cons.mp member with here | later
      · obtain ⟨loose, rfl⟩ := by simpa using here
        simp [needsEscape] at loose
      · exact induction later

/-- Between two backticks an escaped text begins no substitution. -/
theorem substitutions_escapeWithin (offset : Nat) (text : List Char) :
    substitutions offset (ofText (escapeWithin '\x60' text)) = [] := by
  induction text generalizing offset with
  | nil => simp [escapeWithin, ofText, substitutions]
  | cons character rest induction =>
      rw [ofText_escapeWithin_cons, substitutions.eq_def]
      split
      · next later equality =>
          -- The dollar sign would have been escaped.
          obtain ⟨same, tail⟩ := List.cons.inj equality
          cases rest with
          | nil => simp [escapeWithin, ofText] at tail
          | cons next others =>
              rw [ofText_escapeWithin_cons] at tail
              obtain ⟨brace, _⟩ := List.cons.inj tail
              simp only [Symbol.mk.injEq] at same brace
              obtain ⟨loose, rfl⟩ := same
              obtain ⟨_, rfl⟩ := brace
              simp [needsEscape] at loose
      · next equality =>
          obtain ⟨rfl, rfl⟩ := List.cons.inj equality
          exact induction _
      · rfl

/-! ## Substitutions -/

/-- A substitution does not run over a symbol other than a brace. -/
theorem substitutions_append {symbol : Symbol} (other : symbol.character ≠ '{')
    (offset : Nat) (first second : List Symbol) :
    substitutions offset (first ++ symbol :: second) =
      substitutions offset first ++
        substitutions (offset + sizes first) (symbol :: second) := by
  fun_induction substitutions offset first with
  | case1 offset rest induction =>
      have two : Symbol.size ⟨false, '$'⟩ + Symbol.size ⟨false, '{'⟩ = 2 := rfl
      simp only [List.cons_append, substitutions, induction, sizes_cons]
      rw [← Nat.add_assoc (Symbol.size _), two, Nat.add_assoc]
  | case2 offset given rest different induction =>
      rw [List.cons_append, substitutions, induction, sizes_cons,
        Nat.add_assoc]
      intro later dollar brace
      cases rest with
      | nil =>
          obtain ⟨rfl, _⟩ := List.cons.inj brace
          exact other rfl
      | cons next rest =>
          obtain ⟨rfl, _⟩ := List.cons.inj brace
          exact different rest dollar rfl
  | case3 offset => simp [sizes]

theorem mem_substitutions {offset place : Nat} {symbols : List Symbol}
    (member : place ∈ substitutions offset symbols) :
    offset ≤ place ∧ place < offset + sizes symbols := by
  fun_induction substitutions offset symbols with
  | case1 offset rest induction =>
      have one : Symbol.size ⟨false, '$'⟩ = 1 := rfl
      have two : Symbol.size ⟨false, '{'⟩ = 1 := rfl
      simp only [sizes_cons, one, two]
      rcases List.mem_cons.mp member with rfl | later
      · omega
      · have := induction later
        omega
  | case2 offset given rest different induction =>
      have := induction member
      rw [sizes_cons]
      omega
  | case3 offset => simp at member

end Symbol

end Markup

end SourceMark
