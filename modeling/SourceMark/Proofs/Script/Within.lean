import SourceMark.Proofs.Script.Lexemes
import SourceMark.Proofs.Script.Sites
import SourceMark.Script.Grammar
import SourceMark.Script.Marking

/-!
# Readings that stay within their text

The tree of a script holds of an opening tag the offsets at which its parts
end.  Here the parts themselves are described, as what stands between two
cursors, and an opening lies behind a cursor when its offsets are those of the
places at which its parts really end there.

A reading stays within the text behind a cursor, its origin, when it only gets
to later cursors of that text and only gives elements whose opening tags lie in
it.  Both are inherited: what is built from readings within a text is within it.
The classes here let this be inferred from the way a rule is built, so that a
rule needs a proof of its own only where it takes apart what another one gave.
Since any cursor can be the origin, the one at which a reading starts can: no
reading goes back.
-/

namespace SourceMark

namespace Script

open Cursor

/-! ## Parts of a tag -/

/-- A word of a tag stands between two cursors, behind its gap. -/
def WordBetween (first : Cursor) (word : String) (later : Cursor) : Prop :=
  tagWord? first.lexeme.place = some (word, later)

/-- A character stands between two cursors, behind its gap. -/
def CharacterBetween (first : Cursor) (character : Char) (later : Cursor) :
    Prop :=
  first.lexeme.place.rest.head? = some character ∧
    later = first.lexeme.place.skip 1

/-- Words joined by dots. -/
inductive DottedBetween (first : Cursor) : String → Cursor → Prop where
  | word {word : String} {later : Cursor}
      (spelled : WordBetween first word later) :
      DottedBetween first word later
  | dot {name word : String} {between behind later : Cursor}
      (front : DottedBetween first name between)
      (mark : CharacterBetween between '.' behind)
      (spelled : WordBetween behind word later) :
      DottedBetween first (name ++ "." ++ word) later

/-- The name of a tag.  Its parts are given joined by dots, also where the
first one is a namespace. -/
inductive NameBetween (first : Cursor) : String → Cursor → Prop where
  | dotted {name : String} {later : Cursor}
      (spelled : DottedBetween first name later) :
      NameBetween first name later
  | namespaced {front word : String} {between behind later : Cursor}
      (named : WordBetween first front between)
      (mark : CharacterBetween between ':' behind)
      (spelled : WordBetween behind word later) :
      NameBetween first (front ++ "." ++ word) later

/-- A list in angle brackets, behind its gap. -/
def AnglesBetween (first later : Cursor) : Prop :=
  ∃ inside last : Cursor, CharacterBetween first '<' inside ∧ last.Follows inside ∧
    last.rest.head? = some '>' ∧ later = last.skip 1

/-- The type arguments of a tag, where there are any: `stop?` is the offset
behind them, and without them no bracket follows. -/
def TypesBetween (first : Cursor) (stop? : Option Nat) (later : Cursor) :
    Prop :=
  match stop? with
  | some stop => AnglesBetween first later ∧ stop = later.offset
  | none => later = first ∧ first.lexeme.place.rest.head? ≠ some '<'

/-! ## What follows what -/

theorem WordBetween.follows {first later : Cursor} {word : String}
    (spelled : WordBetween first word later) : later.Follows first :=
  (follows_tagWord? spelled).trans first.follows_lexeme_place

theorem CharacterBetween.follows {first later : Cursor} {character : Char}
    (mark : CharacterBetween first character later) : later.Follows first := by
  obtain ⟨-, rfl⟩ := mark
  exact (follows_skip 1 _).trans first.follows_lexeme_place

theorem DottedBetween.follows {first later : Cursor} {name : String}
    (spelled : DottedBetween first name later) : later.Follows first := by
  induction spelled with
  | word spelled => exact spelled.follows
  | dot _ mark spelled front =>
      exact (spelled.follows.trans mark.follows).trans front

theorem NameBetween.follows {first later : Cursor} {name : String}
    (named : NameBetween first name later) : later.Follows first := by
  cases named with
  | dotted spelled => exact spelled.follows
  | namespaced front mark spelled =>
      exact (spelled.follows.trans mark.follows).trans front.follows

theorem AnglesBetween.follows {first later : Cursor}
    (angles : AnglesBetween first later) : later.Follows first := by
  obtain ⟨inside, last, bracket, behind, -, rfl⟩ := angles
  exact ((follows_skip 1 last).trans behind).trans bracket.follows

theorem TypesBetween.follows {first later : Cursor} {stop? : Option Nat}
    (types : TypesBetween first stop? later) : later.Follows first := by
  cases stop? with
  | none =>
      obtain ⟨rfl, -⟩ := types
      exact Follows.refl later
  | some stop => exact types.1.follows

theorem mem_of_follows {first later : Cursor} {character : Char}
    (follows : later.Follows first)
    (here : later.rest.head? = some character) : character ∈ first.rest :=
  follows.isSuffix.subset (List.mem_of_mem_head? here)

/-! ## Opening tags -/

/-- An opening tag whose gap starts at `first`: its name ends at `name`, its
type arguments at `types`, and its closing bracket stands at `close`. -/
structure Opening.LiesAt (opening : Opening)
    (first name types close : Cursor) : Prop where
  start : opening.extent.start = first.lexeme.start
  bracket : first.lexeme.place.rest.head? = some '<'
  named : NameBetween (first.lexeme.place.skip 1) opening.name name
  nameStop : opening.nameStop = name.offset
  typed : TypesBetween name opening.typeArgumentsStop types
  inside : close.Follows types
  closes : close.rest.head? = some '>'
  stop : opening.extent.stop = (close.skip 1).offset

/-- An opening tag lies somewhere behind a cursor. -/
def Opening.LiesBehind (origin : Cursor) (opening : Opening) : Prop :=
  ∃ first name types close : Cursor, first.Follows origin ∧
    opening.LiesAt first name types close

namespace Opening.LiesAt

variable {opening : Opening} {first name types close : Cursor}

/-- The bracket of a tag comes before its name. -/
theorem follows_bracket (lies : opening.LiesAt first name types close) :
    types.Follows first.lexeme.place :=
  (lies.typed.follows.trans lies.named.follows).trans (follows_skip 1 _)

theorem offset_types (lies : opening.LiesAt first name types close) :
    types.offset = Marking.markOffset opening := by
  have typed := lies.typed
  unfold Marking.markOffset
  cases stop : opening.typeArgumentsStop with
  | none =>
      rw [stop] at typed
      rw [typed.1]
      exact lies.nameStop.symm
  | some offset =>
      rw [stop] at typed
      exact typed.2.symm

end Opening.LiesAt

theorem Opening.LiesBehind.brackets {origin : Cursor} {opening : Opening}
    (lies : opening.LiesBehind origin) :
    '<' ∈ origin.rest ∧ '>' ∈ origin.rest := by
  obtain ⟨first, name, types, close, behind, lies⟩ := lies
  have bracket : first.lexeme.place.Follows origin :=
    first.follows_lexeme_place.trans behind
  exact ⟨mem_of_follows bracket lies.bracket,
    mem_of_follows ((lies.inside.trans lies.follows_bracket).trans bracket)
      lies.closes⟩

/-! ## Places of a text -/

/-- Values that may hold places of a text, or elements read from it. -/
class HasPlaces (α : Type) where
  /-- What a value holds is from the text behind this cursor. -/
  AllFrom : Cursor → α → Prop

/-- What a value holds is from the text behind a cursor. -/
class Within (origin : Cursor) {α : Type} [HasPlaces α] (value : α) :
    Prop where
  allFrom : HasPlaces.AllFrom origin value

/-- Values that hold neither places nor elements. -/
class Placeless (α : Type) [HasPlaces α] : Prop where
  allFrom (origin : Cursor) (value : α) : HasPlaces.AllFrom origin value

instance (priority := low) {origin : Cursor} {α : Type} [HasPlaces α]
    [Placeless α] (value : α) : Within origin value :=
  ⟨Placeless.allFrom origin value⟩

/-- A value together with the fact that it is within a text. -/
structure Held (origin : Cursor) (α : Type) [HasPlaces α] where
  value : α
  within : Within origin value

attribute [instance] Held.within

/-! ## Values without places -/

/-- The instance for types whose values hold no place. -/
abbrev HasPlaces.none (α : Type) : HasPlaces α where
  AllFrom := fun _ _ => True

instance : HasPlaces Bool := .none Bool
instance : Placeless Bool := ⟨fun _ _ => trivial⟩

instance : HasPlaces Unit := .none Unit
instance : Placeless Unit := ⟨fun _ _ => trivial⟩

instance : HasPlaces Nat := .none Nat
instance : Placeless Nat := ⟨fun _ _ => trivial⟩

instance : HasPlaces String := .none String
instance : Placeless String := ⟨fun _ _ => trivial⟩

instance : HasPlaces Context := .none Context

instance : HasPlaces EntryKind := .none EntryKind
instance : Placeless EntryKind := ⟨fun _ _ => trivial⟩

/-! ## Values with places -/

section Values

variable {origin : Cursor} {α β : Type} [HasPlaces α] [HasPlaces β]

instance : HasPlaces Cursor where
  AllFrom := fun origin cursor => cursor.Follows origin

instance : HasPlaces Lexeme where
  AllFrom := fun origin lexeme =>
    lexeme.place.Follows origin ∧ lexeme.behind.Follows origin

instance : HasPlaces Place where
  AllFrom := fun origin place =>
    place.behind.Follows origin ∧ place = .ofCursor place.behind

instance : HasPlaces Fault where
  AllFrom := fun origin fault =>
    match fault with
    | .unexpected place => HasPlaces.AllFrom origin place
    | .aborted => True

/-- The opening tag of every element that a construct holds lies in the text. -/
instance : HasPlaces Node where
  AllFrom := fun origin node =>
    ∀ opening, .element opening ∈ node.sites → opening.LiesBehind origin

instance : HasPlaces (Option α) where
  AllFrom := fun origin option =>
    match option with
    | some value => HasPlaces.AllFrom origin value
    | none => True

instance : HasPlaces (List α) where
  AllFrom := fun origin values => ∀ value ∈ values, HasPlaces.AllFrom origin value

instance : HasPlaces (α × β) where
  AllFrom := fun origin pair =>
    HasPlaces.AllFrom origin pair.1 ∧ HasPlaces.AllFrom origin pair.2

instance : HasPlaces (Except Fault α) where
  AllFrom := fun origin outcome =>
    match outcome with
    | .ok value => HasPlaces.AllFrom origin value
    | .error fault => HasPlaces.AllFrom origin fault

/-- A reading that starts within the text ends within it and gives only what is
from it. -/
instance : HasPlaces (Reading α) where
  AllFrom := fun origin reading => ∀ context place,
    HasPlaces.AllFrom origin place → HasPlaces.AllFrom origin (reading context place)

instance [Placeless α] : Placeless (Option α) where
  allFrom := fun origin option => by
    cases option with
    | none => trivial
    | some value => exact Placeless.allFrom origin value

/-! ## Options and lists -/

instance : Within origin (none : Option α) := ⟨trivial⟩

instance (value : α) [within : Within origin value] :
    Within origin (some value) :=
  ⟨within.allFrom⟩

theorem Within.of_some {option : Option α} {value : α}
    (equality : option = some value) [within : Within origin option] :
    Within origin value := by
  subst equality
  exact ⟨within.allFrom⟩

theorem Within.of_mem {values : List α} {value : α} (member : value ∈ values)
    [within : Within origin values] : Within origin value :=
  ⟨within.allFrom value member⟩

theorem Within.of_forall {values : List α}
    (each : ∀ value ∈ values, Within origin value) : Within origin values :=
  ⟨fun value member => (each value member).allFrom⟩

instance (option : Option α) (default : α) [Within origin option]
    [Within origin default] : Within origin (option.getD default) := by
  cases option with
  | none => assumption
  | some value =>
      have inside : Within origin value := .of_some rfl
      exact inside

instance (option : Option α) (change : α → β) [Within origin option]
    [each : ∀ value : Held origin α, Within origin (change value.value)] :
    Within origin (option.map change) := by
  cases option with
  | none => exact ⟨trivial⟩
  | some value =>
      have inside : Within origin value := .of_some rfl
      have changed : Within origin (change value) := each ⟨value, inside⟩
      exact ⟨changed.allFrom⟩

instance (first second : Option α) [Within origin first] [Within origin second] :
    Within origin (first.or second) := by
  cases first with
  | none => assumption
  | some value => assumption

instance : Within origin ([] : List α) :=
  .of_forall (by simp)

instance (value : α) (values : List α) [first : Within origin value]
    [others : Within origin values] : Within origin (value :: values) := by
  refine .of_forall fun other member => ?_
  rcases List.mem_cons.mp member with rfl | later
  · exact first
  · exact .of_mem later

instance (first second : List α) [Within origin first] [Within origin second] :
    Within origin (first ++ second) := by
  refine .of_forall fun value member => ?_
  rcases List.mem_append.mp member with early | late
  · exact .of_mem early
  · exact .of_mem late

instance (values : List α) (change : α → β) [Within origin values]
    [each : ∀ value : Held origin α, Within origin (change value.value)] :
    Within origin (values.map change) := by
  refine .of_forall fun changed member => ?_
  obtain ⟨value, inside, rfl⟩ := List.mem_map.mp member
  exact each ⟨value, .of_mem inside⟩

instance (lists : List (List α)) [Within origin lists] :
    Within origin lists.flatten := by
  refine .of_forall fun value member => ?_
  obtain ⟨values, inside, within⟩ := List.mem_flatten.mp member
  have : Within origin values := .of_mem inside
  exact .of_mem within

instance (values : List α) (change : α → List β) [Within origin values]
    [∀ value : Held origin α, Within origin (change value.value)] :
    Within origin (values.flatMap change) := by
  rw [List.flatMap_def]
  infer_instance

instance (values : List α) (count : Nat) [Within origin values] :
    Within origin (values.take count) :=
  .of_forall fun _ member => .of_mem (List.mem_of_mem_take member)

instance (option : Option α) [Within origin option] :
    Within origin option.toList := by
  cases option with
  | none => exact inferInstanceAs (Within origin [])
  | some value =>
      have : Within origin value := .of_some rfl
      exact inferInstanceAs (Within origin [value])

instance (condition : Prop) [Decidable condition] (first second : α)
    [Within origin first] [Within origin second] :
    Within origin (if condition then first else second) := by
  split
  · assumption
  · assumption

instance (first : α) (second : β) [left : Within origin first]
    [right : Within origin second] : Within origin (first, second) :=
  ⟨left.allFrom, right.allFrom⟩

instance (pair : α × β) [within : Within origin pair] : Within origin pair.1 :=
  ⟨within.allFrom.1⟩

/-! ## Places -/

instance (cursor : Cursor) (count : Nat) [within : Within origin cursor] :
    Within origin (cursor.skip count) :=
  ⟨(Cursor.follows_skip count cursor).trans within.allFrom⟩

instance (test : Char → Bool) (cursor : Cursor)
    [within : Within origin cursor] :
    Within origin (Cursor.takeWhile test cursor.offset cursor.rest).2 :=
  ⟨(Cursor.follows_takeWhile test _ _).trans within.allFrom⟩

instance (cursor : Cursor) [within : Within origin cursor] :
    Within origin cursor.lexeme :=
  ⟨cursor.follows_lexeme_place.trans within.allFrom,
    cursor.follows_lexeme_behind.trans within.allFrom⟩

instance (lexeme : Lexeme) [within : Within origin lexeme] :
    Within origin lexeme.place :=
  ⟨within.allFrom.1⟩

instance (lexeme : Lexeme) [within : Within origin lexeme] :
    Within origin lexeme.behind :=
  ⟨within.allFrom.2⟩

instance (place : Place) [within : Within origin place] :
    Within origin place.behind :=
  ⟨within.allFrom.1⟩

instance (place : Place) [within : Within origin place] :
    Within origin place.lexeme := by
  rw [within.allFrom.2]
  exact inferInstanceAs (Within origin place.behind.lexeme)

instance (cursor : Cursor) [behind : Within origin cursor] :
    Within origin (Place.ofCursor cursor) :=
  ⟨behind.allFrom, rfl⟩

instance : Within origin Fault.aborted :=
  ⟨trivial⟩

/-! ## Constructs -/

theorem mem_sitesAll {site : Site} {nodes : List Node} :
    site ∈ Node.sitesAll nodes ↔ ∃ node ∈ nodes, site ∈ node.sites := by
  induction nodes with
  | nil => simp [Node.sitesAll]
  | cons node nodes induction => simp [Node.sitesAll, induction]

/-- A construct is within a text when all that its sites come from is. -/
theorem Within.of_sites {node : Node} (parts : List Node)
    [within : Within origin parts]
    (sites : ∀ opening, .element opening ∈ node.sites →
      .element opening ∈ Node.sitesAll parts) : Within origin node := by
  refine ⟨fun opening member => ?_⟩
  obtain ⟨part, inside, found⟩ := mem_sitesAll.mp (sites opening member)
  exact within.allFrom part inside opening found

instance (name : String) (extent : Extent) :
    Within origin (Node.name name extent) :=
  ⟨by simp [HasPlaces.AllFrom, Node.sites]⟩

instance (object : Node) (property : String) (extent : Extent)
    [within : Within origin object] :
    Within origin (Node.member object property extent) :=
  ⟨within.allFrom⟩

instance (role : FunctionRole) (name : Option String) (extent : Extent)
    (parts : List Node) [Within origin parts] :
    Within origin (Node.function role name extent parts) :=
  .of_sites parts fun _ member => by simpa [Node.sites] using member

instance (extent : Extent) (parts : List Node) [Within origin parts] :
    Within origin (Node.arrow extent parts) :=
  .of_sites parts fun _ member => by simpa [Node.sites] using member

instance (extent : Extent) (parts : List Node) [Within origin parts] :
    Within origin (Node.group extent parts) :=
  .of_sites parts fun _ member => by simpa [Node.sites] using member

instance (binding : Option String) (extent : Extent) (target : List Node)
    (value : Option Node) [Within origin target] [Within origin value] :
    Within origin (Node.declarator binding extent target value) := by
  refine .of_sites (target ++ value.toList) fun opening member => ?_
  cases value with
  | none => simpa [Node.sites, Node.sitesOfValue] using member
  | some node =>
      simpa [mem_sitesAll, Node.sites, Node.sitesOfValue, or_and_right,
        exists_or] using member

instance (tag : Node) (extent : Extent) (parts : List Node)
    [Within origin tag] [Within origin parts] :
    Within origin (Node.taggedTemplate tag extent parts) :=
  .of_sites (tag :: parts) fun _ member => by
    simpa [Node.sites, Node.sitesAll] using member

theorem Within.parts_of_arrow {extent : Extent} {parts : List Node}
    (within : Within origin (Node.arrow extent parts)) : Within origin parts :=
  .of_forall fun node member => ⟨fun opening found =>
    within.allFrom opening (mem_sitesAll.mpr ⟨node, member, found⟩)⟩

/-! ## What rules give -/

instance : HasPlaces Term where
  AllFrom := fun origin term => HasPlaces.AllFrom origin term.node ∧
    HasPlaces.AllFrom origin term.assigned ∧ HasPlaces.AllFrom origin term.bound

instance (term : Term) [within : Within origin term] : Within origin term.node :=
  ⟨within.allFrom.1⟩

instance (term : Term) [within : Within origin term] :
    Within origin term.assigned :=
  ⟨within.allFrom.2.1⟩

instance (term : Term) [within : Within origin term] : Within origin term.bound :=
  ⟨within.allFrom.2.2⟩

instance (node : Node) (form : Form) (assigned bound : Option (List Node))
    [first : Within origin node] [second : Within origin assigned]
    [third : Within origin bound] :
    Within origin ({ node, form, assigned, bound } : Term) :=
  ⟨first.allFrom, second.allFrom, third.allFrom⟩

instance (node : Node) (form : Form) [Within origin node] :
    Within origin (Term.kept node form) := by
  unfold Term.kept
  infer_instance

instance (node : Node) (form : Form) [Within origin node] :
    Within origin (Term.dropped node form) := by
  unfold Term.dropped
  infer_instance

instance : HasPlaces Entry where
  AllFrom := fun origin entry => HasPlaces.AllFrom origin entry.plain ∧
    HasPlaces.AllFrom origin entry.assigned ∧ HasPlaces.AllFrom origin entry.bound

instance (entry : Entry) [within : Within origin entry] :
    Within origin entry.plain :=
  ⟨within.allFrom.1⟩

instance (entry : Entry) [within : Within origin entry] :
    Within origin entry.assigned :=
  ⟨within.allFrom.2.1⟩

instance (entry : Entry) [within : Within origin entry] :
    Within origin entry.bound :=
  ⟨within.allFrom.2.2⟩

instance (kind : EntryKind) (plain : List Node)
    (assigned bound : Option (List Node)) [first : Within origin plain]
    [second : Within origin assigned] [third : Within origin bound] :
    Within origin ({ kind, plain, assigned, bound } : Entry) :=
  ⟨first.allFrom, second.allFrom, third.allFrom⟩

instance (option : Option α) (next : α → Option β) [Within origin option]
    [each : ∀ value : Held origin α, Within origin (next value.value)] :
    Within origin (option >>= next) := by
  cases option with
  | none => exact inferInstanceAs (Within origin none)
  | some value => exact each ⟨value, .of_some rfl⟩

instance (value : α) [Within origin value] :
    Within origin (pure value : Option α) :=
  inferInstanceAs (Within origin (some value))

theorem Within.listParts {choose : Entry → Option (List Node)}
    {entries : List Entry}
    (chosen : ∀ entry ∈ entries, Within origin (choose entry)) :
    Within origin (Entry.listParts choose entries) := by
  induction entries with
  | nil => exact inferInstanceAs (Within origin (some []))
  | cons entry entries induction =>
      have here : Within origin (choose entry) := chosen entry List.mem_cons_self
      have others : Within origin (Entry.listParts choose entries) :=
        induction fun other member =>
          chosen other (List.mem_cons_of_mem entry member)
      cases entries with
      | nil => exact here
      | cons next entries =>
          unfold Entry.listParts
          infer_instance

instance (choose : Entry → Option (List Node)) (entries : List Entry)
    [each : ∀ entry : Held origin Entry, Within origin (choose entry.value)]
    [Within origin entries] : Within origin (Entry.listParts choose entries) :=
  .listParts fun entry member => each ⟨entry, .of_mem member⟩

omit [HasPlaces α] in
theorem Within.mapM {choose : α → Option β} {values : List α}
    (chosen : ∀ value ∈ values, Within origin (choose value)) :
    Within origin (values.mapM choose) := by
  induction values with
  | nil => exact inferInstanceAs (Within origin (some []))
  | cons value values induction =>
      have here : Within origin (choose value) := chosen value List.mem_cons_self
      have others : Within origin (values.mapM choose) :=
        induction fun other member =>
          chosen other (List.mem_cons_of_mem value member)
      rw [List.mapM_cons]
      infer_instance

instance (choose : Entry → Option (List Node)) (entries : List Entry)
    [each : ∀ entry : Held origin Entry, Within origin (choose entry.value)]
    [Within origin entries] : Within origin (Entry.recordParts choose entries) := by
  have chosen : Within origin (entries.mapM choose) :=
    .mapM fun entry member => each ⟨entry, .of_mem member⟩
  unfold Entry.recordParts
  infer_instance

instance : HasPlaces Target where
  AllFrom := fun origin target => HasPlaces.AllFrom origin target.parts

instance (target : Target) [within : Within origin target] :
    Within origin target.parts :=
  ⟨within.allFrom⟩

instance (parts : List Node) (name : Option String)
    [within : Within origin parts] :
    Within origin ({ parts, name } : Target) :=
  ⟨within.allFrom⟩

end Values

end Script

end SourceMark
