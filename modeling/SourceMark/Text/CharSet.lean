import SourceMark.Text.Numeral
import SourceMark.Text.Search

/-!
# Sets of characters

A set is kept as the places at which membership changes, so that long runs of
characters cost nothing.  `contains` is the view of a set, and
`memberAt_combine` says that two sets are combined member by member.

Large sets are written as text: `41-5A` stands for all characters from the first
code point to the last, `AA` for one character and `100-136/2` for every second
one.
-/

namespace SourceMark

/-- A set of characters: the code points at which membership changes, in
increasing order, from the first member on. -/
structure CharSet where
  changes : List Nat
deriving Repr, DecidableEq

namespace CharSet

/-- Whether a code point is a member, when `before` tells it of all code points
in front of the first change. -/
def memberAt (before : Bool) : List Nat → Nat → Bool
  | [], _ => before
  | change :: changes, value =>
      if value < change then before else memberAt (!before) changes value

/-- Whether a code point is a member. -/
def containsCode (set : CharSet) (value : Nat) : Bool :=
  memberAt false set.changes value

/-- Whether a character is a member. -/
def contains (set : CharSet) (character : Char) : Bool :=
  set.containsCode character.toNat

/-- The runs of members, each by its first and its last code point. -/
def rangesOf : List Nat → List (Nat × Nat)
  | first :: stop :: changes => (first, stop - 1) :: rangesOf changes
  | _ => []

/-- The runs of members, each by its first and its last code point. -/
def ranges (set : CharSet) : List (Nat × Nat) :=
  rangesOf set.changes

/-! ## Simple sets -/

/-- No character. -/
def none : CharSet := ⟨[]⟩

/-- All characters; the code points of surrogates are none. -/
def all : CharSet := ⟨[0, 0xD800, 0xE000, 0x110000]⟩

/-- All characters from the first to the last, which must not come first. -/
def range (first last : Char) : CharSet :=
  ⟨[first.toNat, last.toNat + 1]⟩

/-- One character. -/
def single (member : Char) : CharSet :=
  range member member

/-- All characters of the ASCII range. -/
def ascii : CharSet :=
  range '\x00' '\x7f'

/-! ## Combinations -/

/-- A change in front of later ones, if membership does change. -/
def mark (before after : Bool) (place : Nat) (changes : List Nat) : List Nat :=
  if before = after then changes else place :: changes

/-- The changes of the set whose members are told by a rule from membership in
two sets. -/
def combine (rule : Bool → Bool → Bool) (inFirst inSecond : Bool) :
    List Nat → List Nat → List Nat
  | [], [] => []
  | place :: first, [] =>
      mark (rule inFirst inSecond) (rule (!inFirst) inSecond) place
        (combine rule (!inFirst) inSecond first [])
  | [], place :: second =>
      mark (rule inFirst inSecond) (rule inFirst (!inSecond)) place
        (combine rule inFirst (!inSecond) [] second)
  | place :: first, other :: second =>
      if place < other then
        mark (rule inFirst inSecond) (rule (!inFirst) inSecond) place
          (combine rule (!inFirst) inSecond first (other :: second))
      else if other < place then
        mark (rule inFirst inSecond) (rule inFirst (!inSecond)) other
          (combine rule inFirst (!inSecond) (place :: first) second)
      else
        mark (rule inFirst inSecond) (rule (!inFirst) (!inSecond)) place
          (combine rule (!inFirst) (!inSecond) first second)
termination_by first second => first.length + second.length

/-- The set whose members are told by a rule, which must refuse what is in
neither set. -/
def combined (rule : Bool → Bool → Bool) (first second : CharSet) : CharSet :=
  ⟨combine rule false false first.changes second.changes⟩

/-- The members of either set. -/
def union : CharSet → CharSet → CharSet :=
  combined or

/-- The members of both sets. -/
def intersection : CharSet → CharSet → CharSet :=
  combined and

/-- The members of the first set that are not in the second. -/
def difference : CharSet → CharSet → CharSet :=
  combined fun inFirst inSecond => inFirst && !inSecond

/-- The members of exactly one of the sets. -/
def symmetricDifference : CharSet → CharSet → CharSet :=
  combined xor

/-- All other characters. -/
def complement (set : CharSet) : CharSet :=
  all.difference set

/-- The members of any of the sets. -/
def unions (sets : List CharSet) : CharSet :=
  sets.foldl union none

/-- Whether all members belong to ASCII. -/
def isAscii (set : CharSet) : Bool :=
  set.changes.all (· ≤ 0x80)

/-! ## Sets from lists and texts -/

/-- One more member in front of all others. -/
def addFirst (value : Nat) : List Nat → List Nat
  | [] => [value, value + 1]
  | first :: changes =>
      if value = first then first :: changes
      else if value + 1 = first then value :: changes
      else value :: (value + 1) :: first :: changes

/-- The set of the listed code points. -/
def ofCodes (codes : List Nat) : CharSet :=
  ⟨(codes.mergeSort (· ≤ ·)).foldr addFirst []⟩

/-- The value of leading hexadecimal digits, and what follows them. -/
def hexAt (value : Nat) : List Char → Nat × List Char
  | [] => (value, [])
  | character :: rest =>
      match Text.hexValue? character with
      | some digit => hexAt (value * 16 + digit) rest
      | Option.none => (value, character :: rest)

/-- The changes that a written part of a set stands for. -/
def writtenChanges (text : List Char) : List Nat :=
  match hexAt 0 text with
  | (first, '-' :: behind) =>
      match hexAt 0 behind with
      | (last, '/' :: behind) =>
          let step := (hexAt 0 behind).1
          (List.range ((last - first) / step + 1)).flatMap fun count =>
            [first + count * step, first + count * step + 1]
      | (last, _) => [first, last + 1]
  | (value, _) => [value, value + 1]

/-- The set that a text stands for, whose parts come in increasing order with
blanks between them. -/
def ofText (text : String) : CharSet :=
  ⟨(Text.splitOn ' ' text.toList).flatMap writtenChanges⟩

/-- The set that several texts stand for together. -/
def ofLines (lines : List String) : CharSet :=
  .unions (lines.map ofText)

/-! ## The view -/

theorem memberAt_eq_before {changes : List Nat} {value : Nat} (before : Bool)
    (isEarly : ∀ change ∈ changes, value < change) :
    memberAt before changes value = before := by
  cases changes with
  | nil => rfl
  | cons change changes =>
      have isEarlier := isEarly change List.mem_cons_self
      simp [memberAt, isEarlier]

/-- Whether a change is written down or not, membership is the same. -/
theorem memberAt_mark (before after : Bool) (place value : Nat)
    (changes : List Nat)
    (isSteady : value < place → memberAt after changes value = after) :
    memberAt before (mark before after place changes) value =
      if value < place then before else memberAt after changes value := by
  by_cases same : before = after
  · subst same
    by_cases isEarly : value < place
    · simp [mark, isEarly, isSteady isEarly]
    · simp [mark, isEarly]
  · have other : (!before) = after := by
      cases before <;> cases after <;> simp_all
    simp [mark, same, memberAt, other]

/-- A code point is a member of the combined set when the rule says so of its
membership in both sets. -/
theorem memberAt_combine (rule : Bool → Bool → Bool) (value : Nat) :
    ∀ (inFirst inSecond : Bool) (first second : List Nat),
      first.Pairwise (· < ·) → second.Pairwise (· < ·) →
      memberAt (rule inFirst inSecond)
          (combine rule inFirst inSecond first second) value =
        rule (memberAt inFirst first value) (memberAt inSecond second value) := by
  intro inFirst inSecond first second
  induction inFirst, inSecond, first, second using combine.induct with
  | case1 => simp [combine, memberAt]
  | case2 inFirst inSecond place first induction =>
      intro firstOrdered secondOrdered
      obtain ⟨placeFirst, firstOrdered⟩ := List.pairwise_cons.mp firstOrdered
      have equality := induction firstOrdered secondOrdered
      rw [combine, memberAt_mark]
      · by_cases isEarly : value < place
        · simp [memberAt, isEarly]
        · simp [memberAt, isEarly, equality]
      · intro isEarly
        rw [equality, memberAt_eq_before _ fun change member =>
          Nat.lt_trans isEarly (placeFirst change member)]
        simp [memberAt]
  | case3 inFirst inSecond place second induction =>
      intro firstOrdered secondOrdered
      obtain ⟨placeFirst, secondOrdered⟩ := List.pairwise_cons.mp secondOrdered
      have equality := induction firstOrdered secondOrdered
      rw [combine, memberAt_mark]
      · by_cases isEarly : value < place
        · simp [memberAt, isEarly]
        · simp [memberAt, isEarly, equality]
      · intro isEarly
        rw [equality, memberAt_eq_before (!inSecond) fun change member =>
          Nat.lt_trans isEarly (placeFirst change member)]
        simp [memberAt]
  | case4 inFirst inSecond place first other second isLess induction =>
      intro firstOrdered secondOrdered
      obtain ⟨placeFirst, firstTail⟩ := List.pairwise_cons.mp firstOrdered
      have equality := induction firstTail secondOrdered
      rw [combine, if_pos isLess, memberAt_mark]
      · by_cases isEarly : value < place
        · have isEarlier : value < other := by omega
          simp [memberAt, isEarly, isEarlier]
        · simp [memberAt, isEarly] at equality ⊢
          exact equality
      · intro isEarly
        have isEarlier : value < other := by omega
        rw [equality, memberAt_eq_before _ fun change member =>
          Nat.lt_trans isEarly (placeFirst change member)]
        simp [memberAt, isEarlier]
  | case5 inFirst inSecond place first other second notLess isLess induction =>
      intro firstOrdered secondOrdered
      obtain ⟨otherFirst, secondTail⟩ := List.pairwise_cons.mp secondOrdered
      have equality := induction firstOrdered secondTail
      rw [combine, if_neg notLess, if_pos isLess, memberAt_mark]
      · by_cases isEarly : value < other
        · have isEarlier : value < place := by omega
          simp [memberAt, isEarly, isEarlier]
        · simp [memberAt, isEarly] at equality ⊢
          exact equality
      · intro isEarly
        have isEarlier : value < place := by omega
        rw [equality, memberAt_eq_before (!inSecond) fun change member =>
          Nat.lt_trans isEarly (otherFirst change member)]
        simp [memberAt, isEarlier]
  | case6 inFirst inSecond place first other second notLess notMore induction =>
      intro firstOrdered secondOrdered
      obtain ⟨placeFirst, firstTail⟩ := List.pairwise_cons.mp firstOrdered
      obtain ⟨otherFirst, secondTail⟩ := List.pairwise_cons.mp secondOrdered
      have same : other = place := by omega
      subst same
      have equality := induction firstTail secondTail
      rw [combine, if_neg notLess, if_neg notMore, memberAt_mark]
      · by_cases isEarly : value < other
        · simp [memberAt, isEarly]
        · simp [memberAt, isEarly, equality]
      · intro isEarly
        rw [equality, memberAt_eq_before _ fun change member =>
            Nat.lt_trans isEarly (placeFirst change member),
          memberAt_eq_before _ fun change member =>
            Nat.lt_trans isEarly (otherFirst change member)]

end CharSet

end SourceMark
