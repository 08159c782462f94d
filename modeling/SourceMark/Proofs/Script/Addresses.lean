import Mathlib.Data.List.Infix
import SourceMark.Script.Tree

/-!
# Addresses in the tree of a script

An address is the way down to a construct: at every level its number among the
constructs directly inside the one before.  A traversal meets the addresses of a
tree in lexicographic order and each of them once, and the constructs around an
address are found at its prefixes.
-/

namespace SourceMark

namespace Script

/-- The numbers of the constructs on the way down, from the top. -/
abbrev Address := List Nat

namespace Address

/-- A traversal meets the first address before the second one. -/
def Precedes (first second : Address) : Prop := List.Lex (· < ·) first second

theorem precedes_append (address : Address) (number : Nat) (further : Address) :
    Precedes address (address ++ number :: further) := by
  induction address with
  | nil => exact .nil
  | cons first address induction => exact .cons induction

theorem precedes_asymm {first second : Address}
    (precedes : Precedes first second) : ¬ Precedes second first := by
  induction precedes with
  | nil => exact nofun
  | cons _ induction =>
      intro back
      cases back with
      | cons later => exact induction later
      | rel less => exact Nat.lt_irrefl _ less
  | rel less =>
      intro back
      cases back with
      | cons _ => exact Nat.lt_irrefl _ less
      | rel more => exact Nat.lt_asymm less more

theorem eq_of_not_precedes {first second : Address}
    (forth : ¬ Precedes first second) (back : ¬ Precedes second first) :
    first = second :=
  List.le_antisymm back forth

/-- Of two constructs inside the same one, the one with the smaller number
comes first, with all that is inside it. -/
theorem precedes_of_lt (base : Address) {first second : Nat}
    (less : first < second) (left right : Address) :
    Precedes (base ++ first :: left) (base ++ second :: right) := by
  induction base with
  | nil => exact .rel less
  | cons number base induction => exact .cons induction

/-- What is inside a construct comes behind it. -/
theorem not_precedes_of_prefix {outer address : Address}
    (around : outer <+: address) : ¬ Precedes address outer := by
  obtain ⟨further, rfl⟩ := around
  induction outer with
  | nil =>
      intro precedes
      cases precedes
  | cons number outer induction =>
      intro precedes
      cases precedes with
      | cons later => exact induction later
      | rel less => exact Nat.lt_irrefl number less

theorem not_precedes_self (address : Address) :
    ¬ Precedes address address :=
  not_precedes_of_prefix List.prefix_rfl

/-- The construct at the second address is inside the one at the first. -/
def Encloses (outer address : Address) : Prop :=
  outer <+: address ∧ outer ≠ address

theorem encloses_concat_iff {outer address : Address} {number : Nat} :
    Encloses outer (address ++ [number]) ↔ outer <+: address := by
  constructor
  · rintro ⟨around, proper⟩
    exact (List.prefix_concat_iff.mp around).resolve_left proper
  · intro around
    refine ⟨around.trans (List.prefix_append _ _), ?_⟩
    rintro rfl
    have shorter := around.length_le
    rw [List.length_append, List.length_singleton] at shorter
    omega

end Address

namespace Node

/-- The constructs directly inside a construct, in the order of a traversal. -/
def inner : Node → List Node
  | .name _ _ => []
  | .member object _ _ => [object]
  | .function _ _ _ parts => parts
  | .arrow _ parts => parts
  | .declarator _ _ target value => target ++ value.toList
  | .taggedTemplate tag _ parts => tag :: parts
  | .element _ parts => parts
  | .group _ parts => parts

theorem sizeOf_inner_le (node : Node) : sizeOf node.inner ≤ sizeOf node := by
  cases node with
  | member object property extent =>
      have positive : 1 ≤ sizeOf extent := by
        rw [Extent.mk.sizeOf_spec]
        omega
      simp only [inner, List.cons.sizeOf_spec, List.nil.sizeOf_spec,
        member.sizeOf_spec]
      omega
  | declarator binding extent target value =>
      cases value with
      | none =>
          simp only [inner, Option.toList_none, List.append_nil,
            declarator.sizeOf_spec]
          omega
      | some value =>
          have whole : sizeOf (target ++ [value]) =
              sizeOf target + sizeOf value + 1 := by
            induction target with
            | nil =>
                simp only [List.nil_append, List.cons.sizeOf_spec,
                  List.nil.sizeOf_spec]
            | cons first target induction =>
                simp only [List.cons_append, List.cons.sizeOf_spec, induction]
                omega
          simp only [inner, Option.toList_some, whole, declarator.sizeOf_spec,
            Option.some.sizeOf_spec]
          omega
  | _ => simp [inner] <;> omega

/-- The construct at an address, whose first number is one of the given ones. -/
def at? : List Node → Address → Option Node
  | _, [] => none
  | nodes, number :: address =>
      (nodes[number]?).bind fun node =>
        if address.isEmpty then some node else at? node.inner address

theorem at?_single (nodes : List Node) (number : Nat) :
    at? nodes [number] = nodes[number]? := by
  simp [at?]

theorem at?_cons_cons (nodes : List Node) (number next : Nat)
    (address : Address) :
    at? nodes (number :: next :: address) =
      (nodes[number]?).bind fun node => at? node.inner (next :: address) := by
  simp [at?]

/-- What is inside the construct at an address is found from there. -/
theorem at?_append_cons (nodes : List Node) {outer : Address}
    (proper : outer ≠ []) (number : Nat) (address : Address) :
    at? nodes (outer ++ number :: address) =
      (at? nodes outer).bind fun node =>
        at? node.inner (number :: address) := by
  induction outer generalizing nodes with
  | nil => exact absurd rfl proper
  | cons first outer induction =>
      cases outer with
      | nil =>
          rw [List.singleton_append, at?_cons_cons, at?_single]
      | cons second outer =>
          rw [List.cons_append, List.cons_append, at?_cons_cons, at?_cons_cons,
            Option.bind_assoc]
          congr 1
          funext node
          exact induction node.inner (List.cons_ne_nil second outer)

/-- All constructs of a tree with their addresses, in the order in which a
traversal meets them.  The numbers of the given constructs, which are directly
inside the one at `base`, start at `number`. -/
def metFrom (base : Address) (number : Nat) :
    List Node → List (Address × Node)
  | [] => []
  | node :: nodes =>
      (base ++ [number], node) ::
        (metFrom (base ++ [number]) 0 node.inner ++
          metFrom base (number + 1) nodes)
termination_by nodes => sizeOf nodes
decreasing_by
  · have fewer := sizeOf_inner_le node
    simp only [List.cons.sizeOf_spec]
    have positive : 1 ≤ sizeOf nodes := by
      cases nodes with
      | nil => exact Nat.le_refl 1
      | cons next nodes =>
          rw [List.cons.sizeOf_spec]
          omega
    omega
  · simp only [List.cons.sizeOf_spec]
    omega

/-- All constructs of a script with their addresses, in the order of a
traversal. -/
def met (nodes : List Node) : List (Address × Node) := metFrom [] 0 nodes

/-- What is met are the constructs at the addresses of the tree. -/
theorem mem_metFrom_iff {base : Address} {number : Nat} {nodes : List Node}
    {address : Address} {node : Node} :
    (address, node) ∈ metFrom base number nodes ↔
      ∃ index further, address = base ++ (number + index) :: further ∧
        at? nodes (index :: further) = some node := by
  fun_induction metFrom base number nodes with
  | case1 base number => simp [at?]
  | case2 base number first nodes inside behind =>
      rw [List.mem_cons, List.mem_append, inside, behind]
      constructor
      · rintro (here | ⟨index, further, rfl, found⟩ |
          ⟨index, further, rfl, found⟩)
        · obtain ⟨rfl, rfl⟩ := Prod.mk.inj here
          exact ⟨0, [], rfl, by simp [at?]⟩
        · refine ⟨0, index :: further, by simp, ?_⟩
          rw [at?_cons_cons, List.getElem?_cons_zero, Option.bind_some]
          exact found
        · refine ⟨index + 1, further, by rw [Nat.add_right_comm]; rfl, ?_⟩
          simpa [at?] using found
      · rintro ⟨index, further, rfl, found⟩
        cases index with
        | zero =>
            cases further with
            | nil =>
                rw [at?_single, List.getElem?_cons_zero] at found
                exact .inl (by simpa using found.symm)
            | cons next further =>
                rw [at?_cons_cons, List.getElem?_cons_zero,
                  Option.bind_some] at found
                exact .inr (.inl ⟨next, further, by simp, found⟩)
        | succ index =>
            refine .inr (.inr ⟨index, further, ?_, ?_⟩)
            · rw [Nat.add_right_comm]
              rfl
            · simpa [at?] using found

theorem mem_met_iff {nodes : List Node} {address : Address} {node : Node} :
    (address, node) ∈ met nodes ↔ at? nodes address = some node := by
  rw [met, mem_metFrom_iff]
  constructor
  · rintro ⟨index, further, rfl, found⟩
    simpa using found
  · intro found
    cases address with
    | nil => simp [at?] at found
    | cons index further => exact ⟨index, further, by simp, found⟩

theorem pairwise_metFrom (base : Address) (number : Nat) (nodes : List Node) :
    ((metFrom base number nodes).map Prod.fst).Pairwise Address.Precedes := by
  fun_induction metFrom base number nodes with
  | case1 base number => exact .nil
  | case2 base number first nodes inside behind =>
      rw [List.map_cons, List.map_append]
      refine .cons ?_ (List.pairwise_append.mpr ⟨inside, behind, ?_⟩)
      · intro address member
        obtain ⟨⟨_, node⟩, found, rfl⟩ := List.mem_map.mp
          (List.map_append ▸ member)
        rcases List.mem_append.mp found with found | found
        · obtain ⟨index, further, rfl, _⟩ := mem_metFrom_iff.mp found
          exact Address.precedes_append _ _ _
        · obtain ⟨index, further, rfl, _⟩ := mem_metFrom_iff.mp found
          exact Address.precedes_of_lt base (by omega) [] further
      · intro left leftMember right rightMember
        obtain ⟨⟨_, node⟩, found, rfl⟩ := List.mem_map.mp leftMember
        obtain ⟨⟨_, other⟩, later, rfl⟩ := List.mem_map.mp rightMember
        obtain ⟨index, further, rfl, _⟩ := mem_metFrom_iff.mp found
        obtain ⟨second, rest, rfl, _⟩ := mem_metFrom_iff.mp later
        rw [List.append_assoc]
        exact Address.precedes_of_lt base (by omega) _ rest

theorem pairwise_met (nodes : List Node) :
    ((met nodes).map Prod.fst).Pairwise Address.Precedes :=
  pairwise_metFrom [] 0 nodes

/-! ## Views of constructs -/

section Views

variable {α : Type} (view : Node → Option α)

/-- What a view shows of the constructs that were met, with their addresses. -/
def gather (found : List (Address × Node)) : List (Address × α) :=
  found.filterMap fun met => (view met.2).map (met.1, ·)

theorem gather_append (first second : List (Address × Node)) :
    gather view (first ++ second) = gather view first ++ gather view second :=
  List.filterMap_append

theorem gather_concat (found : List (Address × Node)) (address : Address)
    (node : Node) :
    gather view (found ++ [(address, node)]) =
      gather view found ++ (view node).toList.map (address, ·) := by
  rw [gather_append]
  cases shown : view node with
  | none => simp [gather, shown]
  | some item => simp [gather, shown]

variable {view}

theorem mem_gather_iff {found : List (Address × Node)} {address : Address}
    {item : α} :
    (address, item) ∈ gather view found ↔
      ∃ node, (address, node) ∈ found ∧ view node = some item := by
  simp only [gather, List.mem_filterMap, Option.map_eq_some_iff,
    Prod.mk.injEq]
  constructor
  · rintro ⟨⟨_, node⟩, member, _, shown, rfl, rfl⟩
    exact ⟨node, member, shown⟩
  · rintro ⟨node, member, shown⟩
    exact ⟨(address, node), member, item, shown, rfl, rfl⟩

theorem map_fst_gather_sublist (found : List (Address × Node)) :
    ((gather view found).map Prod.fst).Sublist (found.map Prod.fst) := by
  induction found with
  | nil => exact .refl _
  | cons first found induction =>
      unfold gather
      cases shown : view first.2 with
      | none =>
          rw [List.filterMap_cons_none (by simp [shown])]
          exact induction.cons _
      | some item =>
          rw [List.filterMap_cons_some (by rw [shown]; rfl)]
          exact induction.cons_cons _

/-- The items are what a view shows of a script, in the order of a
traversal. -/
structure Enumerates (nodes : List Node) (view : Node → Option α)
    (items : List (Address × α)) : Prop where
  ordered : (items.map Prod.fst).Pairwise Address.Precedes
  everywhere : ∀ address item, (address, item) ∈ items ↔
    ∃ node, at? nodes address = some node ∧ view node = some item

theorem enumerates_gather_met (nodes : List Node) :
    Enumerates nodes view (gather view (met nodes)) where
  ordered := (pairwise_met nodes).sublist (map_fst_gather_sublist _)
  everywhere address item := by simp only [mem_gather_iff, mem_met_iff]

end Views

/-! ## What stands around an address -/

/-- The constructs on the way to an address and at it, innermost first. -/
def above (nodes : List Node) (address : Address) : List (Address × Node) :=
  (address.inits.filterMap fun outer =>
    (at? nodes outer).map (outer, ·)).reverse

theorem above_concat {nodes : List Node} {address : Address} {number : Nat}
    {node : Node} (found : at? nodes (address ++ [number]) = some node) :
    above nodes (address ++ [number]) =
      (address ++ [number], node) :: above nodes address := by
  simp [above, List.inits_append, List.filterMap_append, found]

theorem mem_above_iff {nodes : List Node} {address outer : Address}
    {node : Node} :
    (outer, node) ∈ above nodes address ↔
      outer <+: address ∧ at? nodes outer = some node := by
  simp only [above, List.mem_reverse, List.mem_filterMap, List.mem_inits,
    Option.map_eq_some_iff, Prod.mk.injEq]
  constructor
  · rintro ⟨other, around, found, here, rfl, rfl⟩
    exact ⟨around, here⟩
  · rintro ⟨around, found⟩
    exact ⟨outer, around, node, found, rfl, rfl⟩

theorem pairwise_above (nodes : List Node) (address : Address) :
    (above nodes address).Pairwise fun inside around =>
      around.1 <+: inside.1 := by
  have ordered : address.inits.Pairwise (· <+: ·) := by
    induction address using List.reverseRecOn with
    | nil => simp
    | append_singleton address number induction =>
        rw [List.inits_append, List.pairwise_append]
        refine ⟨induction, by simp, ?_⟩
        intro outer member whole last
        rw [List.mem_inits] at member
        obtain rfl : whole = address ++ [number] := by simpa using last
        exact member.trans (List.prefix_append _ _)
  rw [above, List.pairwise_reverse, List.pairwise_filterMap]
  apply ordered.imp
  intro outer address around first isFirst second isSecond
  obtain ⟨node, _, rfl⟩ := Option.map_eq_some_iff.mp isFirst
  obtain ⟨other, _, rfl⟩ := Option.map_eq_some_iff.mp isSecond
  exact around

/-- The innermost construct of a kind that an address is inside of. -/
structure IsInnermost (nodes : List Node) (test : Node → Bool)
    (outer address : Address) : Prop where
  holds : ∃ node, at? nodes outer = some node ∧ test node = true
  encloses : Address.Encloses outer address
  innermost : ∀ other node, at? nodes other = some node →
    test node = true → Address.Encloses other address → other <+: outer

theorem IsInnermost.unique {nodes : List Node} {test : Node → Bool}
    {first second address : Address}
    (one : IsInnermost nodes test first address)
    (other : IsInnermost nodes test second address) : first = second := by
  obtain ⟨node, found, holds⟩ := one.holds
  obtain ⟨node', found', holds'⟩ := other.holds
  have inside := other.innermost first node found holds one.encloses
  have around := one.innermost second node' found' holds' other.encloses
  exact inside.eq_of_length (Nat.le_antisymm inside.length_le around.length_le)

/-- The innermost construct of a kind on the way to an address or at it. -/
def nearest? (nodes : List Node) (test : Node → Bool) (address : Address) :
    Option Address :=
  ((above nodes address).find? fun around => test around.2).map Prod.fst

theorem nearest?_concat {nodes : List Node} (test : Node → Bool)
    {address : Address} {number : Nat} {node : Node}
    (found : at? nodes (address ++ [number]) = some node) :
    nearest? nodes test (address ++ [number]) =
      if test node then some (address ++ [number])
      else nearest? nodes test address := by
  unfold nearest?
  rw [above_concat found, List.find?_cons]
  cases test node with
  | true => rfl
  | false => rfl

theorem prefix_of_nearest? {nodes : List Node} {test : Node → Bool}
    {outer address : Address}
    (found : nearest? nodes test address = some outer) :
    outer <+: address := by
  obtain ⟨⟨_, node⟩, isFirst, rfl⟩ := Option.map_eq_some_iff.mp found
  exact (mem_above_iff.mp (List.mem_of_find?_eq_some isFirst)).1

theorem isInnermost_of_nearest? {nodes : List Node} {test : Node → Bool}
    {outer address : Address} {number : Nat}
    (found : nearest? nodes test address = some outer) :
    IsInnermost nodes test outer (address ++ [number]) := by
  obtain ⟨⟨_, node⟩, isFirst, rfl⟩ := Option.map_eq_some_iff.mp found
  have member := mem_above_iff.mp (List.mem_of_find?_eq_some isFirst)
  have holds : test node = true := by
    simpa using List.find?_some isFirst
  refine ⟨⟨node, member.2, holds⟩,
    Address.encloses_concat_iff.mpr member.1, ?_⟩
  intro other node' here holds encloses
  have around := mem_above_iff.mpr
    ⟨Address.encloses_concat_iff.mp encloses, here⟩
  obtain ⟨_, front, behind, parts, fails⟩ :=
    List.find?_eq_some_iff_append.mp isFirst
  have ordered := pairwise_above nodes address
  rw [parts] at around ordered
  rcases List.mem_append.mp around with early | later
  · have failing := fails _ early
    simp [holds] at failing
  · rcases List.mem_cons.mp later with same | later
    · cases same
      exact List.prefix_rfl
    · exact List.rel_of_pairwise_cons
        (List.pairwise_append.mp ordered).2.1 later

/-- No construct of a kind stands around an address unless one is the
nearest. -/
theorem exists_nearest? {nodes : List Node} {test : Node → Bool}
    {outer address : Address} {node : Node} {number : Nat}
    (found : at? nodes outer = some node) (holds : test node = true)
    (encloses : Address.Encloses outer (address ++ [number])) :
    ∃ innermost, nearest? nodes test address = some innermost := by
  cases nearest : nearest? nodes test address with
  | some innermost => exact ⟨innermost, rfl⟩
  | none =>
      have around := mem_above_iff.mpr
        ⟨Address.encloses_concat_iff.mp encloses, found⟩
      rw [nearest?, Option.map_eq_none_iff, List.find?_eq_none] at nearest
      exact absurd holds (nearest _ around)

/-- The innermost construct of a kind around an address is the nearest one to
the construct that the address is directly inside of. -/
theorem isInnermost_iff {nodes : List Node} {test : Node → Bool}
    {outer address : Address} (proper : address ≠ []) :
    IsInnermost nodes test outer address ↔
      nearest? nodes test address.dropLast = some outer := by
  rw [← List.dropLast_concat_getLast proper, List.dropLast_concat]
  constructor
  · intro innermost
    obtain ⟨node, found, holds⟩ := innermost.holds
    obtain ⟨first, nearest⟩ := exists_nearest? found holds innermost.encloses
    rw [nearest, (isInnermost_of_nearest? nearest).unique innermost]
  · exact isInnermost_of_nearest?

theorem ne_nil_of_at? {nodes : List Node} {address : Address} {node : Node}
    (found : at? nodes address = some node) : address ≠ [] := by
  rintro rfl
  simp [at?] at found

end Node

end Script

end SourceMark
