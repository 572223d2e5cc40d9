import Mathlib.Algebra.GroupWithZero.Nat
import Mathlib.Data.List.Basic

/-!
# Operator precedence

A sequence of operands with binary operators between them has one tree in
which an operator that binds tighter is taken first and operators that bind
alike are taken from the left.  A tree that was written without parentheses is
read back exactly when it is grouped so.
-/

namespace ErpFinance.Library

/-- A tree of binary operators over operands. -/
inductive Spine (ι α : Type*) where
  | leaf (x : α)
  | node (op : ι) (left right : Spine ι α)

namespace Spine

variable {ι α : Type*}

/-- The first operand. -/
def first : Spine ι α → α
  | leaf x => x
  | node _ left _ => left.first

/-- The operators from left to right, each with the operand behind it. -/
def rest : Spine ι α → List (ι × α)
  | leaf _ => []
  | node op left right => left.rest ++ (op, right.first) :: right.rest

/-- The operator at the root. -/
def root : Spine ι α → Option ι
  | leaf _ => none
  | node op _ _ => some op

variable (precedence : ι → Nat)

/-- The tree with a further operator and operand at its end. -/
def attach : Spine ι α → ι → α → Spine ι α
  | leaf y, op, x => node op (leaf y) (leaf x)
  | node o left right, op, x =>
    if precedence o < precedence op then node o left (attach right op x)
    else node op (node o left right) (leaf x)

theorem first_attach {precedence : ι → Nat} (tree : Spine ι α) (op : ι) (x : α) :
    (tree.attach precedence op x).first = tree.first := by
  induction tree with
  | leaf y => rfl
  | node o left right _ _ =>
    rw [attach]
    split <;> rfl

/-- The tree of a sequence of operands and operators. -/
def regroup (x : α) (pairs : List (ι × α)) : Spine ι α :=
  pairs.foldl (fun tree pair => tree.attach precedence pair.1 pair.2) (leaf x)

/-- The operator at the root has at least this precedence. -/
def Binds (level : Nat) : Spine ι α → Prop
  | leaf _ => True
  | node op _ _ => level ≤ precedence op

/-- Below every operator on its left are operators that bind as tight, on its right operators that
bind tighter. -/
def Grouped : Spine ι α → Prop
  | leaf _ => True
  | node op left right => Grouped left ∧ Grouped right ∧
      left.Binds precedence (precedence op) ∧ right.Binds precedence (precedence op + 1)

variable {precedence} {tree other left right : Spine ι α} {op : ι} {x : α}
  {pairs : List (ι × α)} {level : Nat}

theorem binds_iff : tree.Binds precedence level ↔ ∀ o ∈ tree.root, level ≤ precedence o := by
  cases tree with
  | leaf y => exact ⟨fun _ o inNone => (Option.not_mem_none o inNone).elim, fun _ => trivial⟩
  | node o left right =>
    refine ⟨fun binds o' isRoot => ?_, fun binds => binds o rfl⟩
    obtain rfl := Option.some.inj isRoot
    exact binds

theorem rest_attach (tree : Spine ι α) (op : ι) (x : α) :
    (tree.attach precedence op x).rest = tree.rest ++ [(op, x)] := by
  induction tree with
  | leaf y => rfl
  | node o left right _ ih =>
    rw [attach]
    split
    · rw [rest, rest, ih, first_attach, List.append_assoc, List.cons_append]
    · rfl

/-- The tree of a sequence has its operands and operators in their order. -/
theorem first_foldl_attach (tree : Spine ι α) (pairs : List (ι × α)) :
    (pairs.foldl (fun tree pair => tree.attach precedence pair.1 pair.2) tree).first =
        tree.first ∧
      (pairs.foldl (fun tree pair => tree.attach precedence pair.1 pair.2) tree).rest =
        tree.rest ++ pairs := by
  induction pairs generalizing tree with
  | nil => exact ⟨rfl, (List.append_nil _).symm⟩
  | cons pair others ih =>
    obtain ⟨first, rest⟩ := ih (tree.attach precedence pair.1 pair.2)
    refine ⟨first.trans (first_attach _ _ _), rest.trans ?_⟩
    rw [rest_attach, List.append_assoc]
    rfl

theorem first_regroup (x : α) (pairs : List (ι × α)) :
    (regroup precedence x pairs).first = x := (first_foldl_attach (leaf x) pairs).1

theorem rest_regroup (x : α) (pairs : List (ι × α)) :
    (regroup precedence x pairs).rest = pairs := (first_foldl_attach (leaf x) pairs).2

theorem Binds.attach (binds : tree.Binds precedence level) (tighter : level ≤ precedence op) :
    (tree.attach precedence op x).Binds precedence level := by
  cases tree with
  | leaf y => exact tighter
  | node o left right =>
    rw [Spine.attach]
    split
    · exact binds
    · exact tighter

theorem Grouped.attach (grouped : tree.Grouped precedence) :
    (tree.attach precedence op x).Grouped precedence := by
  induction tree with
  | leaf y => exact ⟨trivial, trivial, trivial, trivial⟩
  | node o left right _ ih =>
    obtain ⟨groupedLeft, groupedRight, bindsLeft, bindsRight⟩ := grouped
    rw [Spine.attach]
    split
    · rename_i tighter
      exact ⟨groupedLeft, ih groupedRight, bindsLeft, bindsRight.attach tighter⟩
    · rename_i looser
      exact ⟨⟨groupedLeft, groupedRight, bindsLeft, bindsRight⟩, trivial, Nat.not_lt.mp looser,
        trivial⟩

theorem Grouped.foldl_attach (grouped : tree.Grouped precedence) (pairs : List (ι × α)) :
    (pairs.foldl (fun tree pair => tree.attach precedence pair.1 pair.2) tree).Grouped
      precedence := by
  induction pairs generalizing tree with
  | nil => exact grouped
  | cons pair others ih => exact ih grouped.attach

theorem grouped_regroup (x : α) (pairs : List (ι × α)) :
    (regroup precedence x pairs).Grouped precedence := by
  have operand : (leaf x : Spine ι α).Grouped precedence := trivial
  exact operand.foldl_attach pairs

/-- Operators that bind tighter go below the root. -/
theorem foldl_attach_node (tighter : ∀ pair ∈ pairs, precedence op < precedence pair.1) :
    pairs.foldl (fun tree pair => tree.attach precedence pair.1 pair.2) (node op left right) =
      node op left
        (pairs.foldl (fun tree pair => tree.attach precedence pair.1 pair.2) right) := by
  induction pairs generalizing right with
  | nil => rfl
  | cons pair others ih =>
    rw [List.forall_mem_cons] at tighter
    rw [List.foldl_cons, List.foldl_cons, attach, if_pos tighter.1, ih tighter.2]

theorem Grouped.binds_rest (grouped : tree.Grouped precedence)
    (binds : tree.Binds precedence level) :
    ∀ pair ∈ tree.rest, level ≤ precedence pair.1 := by
  induction tree generalizing level with
  | leaf y => exact fun pair inNil => nomatch inNil
  | node o left right ihLeft ihRight =>
    obtain ⟨groupedLeft, groupedRight, bindsLeft, bindsRight⟩ := grouped
    have here : level ≤ precedence o := binds
    intro pair inRest
    rcases List.mem_append.mp inRest with inLeft | inRight
    · exact Nat.le_trans here (ihLeft groupedLeft bindsLeft pair inLeft)
    · rcases List.mem_cons.mp inRight with rfl | inRight
      · exact here
      · exact Nat.le_trans here (Nat.le_of_succ_le (ihRight groupedRight bindsRight pair inRight))

/-- A grouped tree is read back from its operands and operators. -/
theorem Grouped.regroup_eq (grouped : tree.Grouped precedence) :
    regroup precedence tree.first tree.rest = tree := by
  induction tree with
  | leaf y => rfl
  | node o left right ihLeft ihRight =>
    obtain ⟨groupedLeft, groupedRight, bindsLeft, bindsRight⟩ := grouped
    have attached : left.attach precedence o right.first = node o left (leaf right.first) := by
      cases left with
      | leaf y => rfl
      | node o' left' right' => exact if_neg (Nat.not_lt.mpr bindsLeft)
    have readLeft := ihLeft groupedLeft
    have readRight := ihRight groupedRight
    rw [regroup] at readLeft readRight
    rw [regroup, first, rest, List.foldl_append, readLeft, List.foldl_cons, attached,
      foldl_attach_node fun pair inRight =>
        groupedRight.binds_rest bindsRight pair inRight, readRight]

section Close

variable (join : ι → α → α → α)

/-- The operand that a tree becomes in parentheses. -/
def close : Spine ι α → α
  | leaf x => x
  | node op left right => join op left.close right.close

variable {join} {size : α → Nat}
  (size_join : ∀ op x y, size (join op x y) = size x + (size y + 1))
  (join_injective : ∀ {op op' x x' y y'}, join op x y = join op' x' y' →
    op = op' ∧ x = x' ∧ y = y')

include size_join in
theorem size_close (tree : Spine ι α) : size (tree.close join) =
    size tree.first + (tree.rest.map fun pair => size pair.2 + 1).sum := by
  induction tree with
  | leaf x => rfl
  | node op left right ihLeft ihRight =>
    rw [close, size_join, ihLeft, ihRight, first, rest, List.map_append, List.map_cons,
      List.sum_append, List.sum_cons]
    dsimp only
    omega

/-- What operands hold in their order, the closed tree holds in that order. -/
theorem flatMap_close {β : Type*} (held : α → List β)
    (held_join : ∀ op x y, held (join op x y) = held x ++ held y) (tree : Spine ι α) :
    held (tree.close join) = held tree.first ++ tree.rest.flatMap fun pair => held pair.2 := by
  induction tree with
  | leaf x => exact (List.append_nil _).symm
  | node op left right ihLeft ihRight =>
    rw [close, held_join, ihLeft, ihRight, first, rest, List.flatMap_append, List.flatMap_cons,
      List.append_assoc]

theorem eq_of_sum_eq {front front' back back' : List Nat} (same : front ++ back = front' ++ back')
    (positive : ∀ n ∈ front ++ back, 0 < n) (sums : front.sum = front'.sum) :
    front = front' := by
  have shorter : ∀ {a b c : List Nat}, a = b ++ c → a.sum = b.sum → (∀ n ∈ a, 0 < n) → a = b := by
    rintro a b c rfl sums positive
    rw [List.sum_append] at sums
    cases c with
    | nil => rw [List.append_nil]
    | cons n c =>
      have here : 0 < n := positive n (List.mem_append_right _ List.mem_cons_self)
      rw [List.sum_cons] at sums
      omega
  rcases List.append_eq_append_iff.mp same with ⟨more, longer, -⟩ | ⟨more, longer, -⟩
  · refine (shorter longer sums.symm fun n inFront => positive n ?_).symm
    rw [same]
    exact List.mem_append_left _ inFront
  · exact shorter longer sums fun n inFront => positive n (List.mem_append_left _ inFront)

def sizes (size : α → Nat) (tree : Spine ι α) : List (ι × Nat) :=
  tree.rest.map fun pair => (pair.1, size pair.2)

include size_join join_injective in
/-- Trees over operands of the same sizes that are closed to the same operand are the same. -/
theorem eq_of_close_eq {tree other : Spine ι α} (first : size tree.first = size other.first)
    (rest : tree.sizes size = other.sizes size) (closed : tree.close join = other.close join) :
    tree = other := by
  induction tree generalizing other with
  | leaf x =>
    cases other with
    | leaf y => exact congrArg leaf closed
    | node op left right =>
      have lengths := congrArg List.length rest
      rw [sizes, sizes, List.length_map, List.length_map, Spine.rest, Spine.rest,
        List.length_append, List.length_cons, List.length_nil] at lengths
      omega
  | node op left right ihLeft ihRight =>
    cases other with
    | leaf y =>
      have lengths := congrArg List.length rest
      rw [sizes, sizes, List.length_map, List.length_map, Spine.rest, Spine.rest,
        List.length_append, List.length_cons, List.length_nil] at lengths
      omega
    | node op' left' right' =>
      obtain ⟨rfl, closedLeft, closedRight⟩ := join_injective closed
      have sizeLeft := congrArg size closedLeft
      rw [size_close size_join, size_close size_join] at sizeLeft
      have firstLeft : size left.first = size left'.first := first
      have numbers := congrArg (List.map fun pair => pair.2 + 1) rest
      rw [sizes, sizes, List.map_map, List.map_map, Spine.rest, Spine.rest, List.map_append,
        List.map_append] at numbers
      have fronts := eq_of_sum_eq numbers
        (by
          intro n inNumbers
          rw [← List.map_append] at inNumbers
          obtain ⟨pair, -, rfl⟩ := List.mem_map.mp inNumbers
          exact Nat.succ_pos _)
        (Nat.add_left_cancel (firstLeft ▸ sizeLeft))
      have lengths := congrArg List.length fronts
      rw [List.length_map, List.length_map] at lengths
      rw [sizes, sizes, Spine.rest, Spine.rest, List.map_append, List.map_append] at rest
      obtain ⟨restLeft, others⟩ := List.append_inj rest (by simpa using lengths)
      rw [List.map_cons, List.map_cons] at others
      obtain ⟨firstRight, restRight⟩ := List.cons.inj others
      rw [ihLeft firstLeft restLeft closedLeft,
        ihRight (Prod.mk.inj firstRight).2 restRight closedRight]

include size_join join_injective in
/-- Operands and operators of a tree's sizes are read as that tree exactly when they are its own and
it is grouped. -/
theorem close_regroup_eq_iff {tree : Spine ι α} (firsts : size x = size tree.first)
    (rests : (pairs.map fun pair => (pair.1, size pair.2)) = tree.sizes size) :
    (regroup precedence x pairs).close join = tree.close join ↔
      tree.Grouped precedence ∧ x = tree.first ∧ pairs = tree.rest := by
  constructor
  · intro closed
    have same : regroup precedence x pairs = tree := by
      refine eq_of_close_eq size_join join_injective ?_ ?_ closed
      · rw [first_regroup, firsts]
      · rw [sizes, rest_regroup, rests]
    refine ⟨?_, ?_, ?_⟩
    · rw [← same]
      exact grouped_regroup x pairs
    · rw [← same, first_regroup]
    · rw [← same, rest_regroup]
  · rintro ⟨grouped, rfl, rfl⟩
    rw [grouped.regroup_eq]

end Close

end Spine

end ErpFinance.Library
