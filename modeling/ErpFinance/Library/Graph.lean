import Mathlib.Data.Fintype.Order
import Mathlib.Data.List.Chain

/-!
# Directed graphs

Acyclicity of an edge relation, and three certificates about it: an order of
the nodes in which every node stands after its targets, a closed set of nodes
none of which lies on a cycle, and a list that walks along the edges back to
its first node.
-/

namespace ErpFinance.Library

variable {α : Type*} {edge : α → α → Prop}

open Relation (TransGen ReflTransGen)

/-- No node leads back to itself. -/
def Acyclic (edge : α → α → Prop) : Prop := ∀ a, ¬ TransGen edge a a

/-- A walk along the edges that ends where it begins. -/
def IsCycle (edge : α → α → Prop) (walk : List α) : Prop :=
  ∃ a middle, walk = a :: middle ++ [a] ∧ List.IsChain edge walk

/-- Every node of the list stands after all of its targets. -/
def TargetsFirst (edge : α → α → Prop) (order : List α) : Prop :=
  ∀ before a after, order = before ++ a :: after → ∀ b, edge a b → b ∈ before

/-! ## Cycles -/

theorem transGen_of_isChain {a b : α} {walk : List α} (chain : List.IsChain edge (a :: walk))
    (member : b ∈ walk) : TransGen edge a b := by
  induction walk generalizing a with
  | nil => simp at member
  | cons c rest ih =>
    obtain ⟨first, later⟩ := List.isChain_cons_cons.mp chain
    rcases List.mem_cons.mp member with rfl | inRest
    · exact .single first
    · exact .head first (ih later inRest)

theorem IsCycle.not_acyclic {walk : List α} (cycle : IsCycle edge walk) : ¬ Acyclic edge := by
  obtain ⟨a, middle, rfl, chain⟩ := cycle
  exact fun acyclic => acyclic a (transGen_of_isChain chain (by simp))

variable {a : α}

/-- A walk that comes back to a node of its own ends with a cycle. -/
theorem isCycle_dropWhile [DecidableEq α] {path : List α} (chain : List.IsChain edge (path ++ [a]))
    (member : a ∈ path) :
    IsCycle edge (path.dropWhile (· ≠ a) ++ [a]) := by
  induction path with
  | nil => simp at member
  | cons b rest ih =>
    by_cases same : b = a
    · subst same
      rw [List.dropWhile_cons_of_neg (by simp)]
      exact ⟨b, rest, rfl, chain⟩
    · rw [List.dropWhile_cons_of_pos (by simpa using same)]
      exact ih chain.tail ((List.mem_cons.mp member).resolve_left (Ne.symm same))

/-! ## Acyclic graphs -/

theorem Acyclic.mono {other : α → α → Prop} (acyclic : Acyclic edge)
    (sub : ∀ a b, other a b → edge a b) : Acyclic other :=
  fun a back => acyclic a (TransGen.mono sub a a back)

theorem acyclic_swap : Acyclic (fun a b => edge b a) ↔ Acyclic edge :=
  forall_congr' fun _ => not_congr Relation.transGen_swap

/-- Targets without edges of their own close no cycle. -/
theorem acyclic_iff_inside {inside : α → Prop} (sources : ∀ a b, edge a b → inside a) :
    Acyclic edge ↔ Acyclic (fun a b => edge a b ∧ inside b) := by
  constructor
  · exact fun acyclic => acyclic.mono (fun _ _ both => both.1)
  · intro acyclic a back
    have lifted : ∀ {b c}, TransGen edge b c → inside c →
        TransGen (fun a b => edge a b ∧ inside b) b c := by
      intro b c reached target
      induction reached with
      | single first => exact .single ⟨first, target⟩
      | tail _ last ih => exact .tail (ih (sources _ _ last)) ⟨last, target⟩
    obtain ⟨b, first, -⟩ := TransGen.head'_iff.mp back
    exact acyclic a (lifted back (sources a b first))

/-- What is reached from a closed set lies in it. -/
theorem mem_of_transGen {closed : α → Prop} (step : ∀ a, closed a → ∀ b, edge a b → closed b)
    {a b : α} (inside : closed a) (reached : TransGen edge a b) : closed b := by
  induction reached with
  | single first => exact step a inside _ first
  | tail _ last ih => exact step _ ih _ last

/-- A node is on no cycle when its targets are closed and it is not among them. -/
theorem not_transGen_self {closed : α → Prop} (step : ∀ a, closed a → ∀ b, edge a b → closed b)
    (targets : ∀ b, edge a b → closed b) (outside : ¬ closed a) :
    ¬ TransGen edge a a := by
  intro back
  obtain ⟨b, first, rest⟩ := TransGen.head'_iff.mp back
  have inside := targets b first
  rcases (Relation.reflTransGen_iff_eq_or_transGen).mp rest with rfl | later
  · exact outside inside
  · exact outside (mem_of_transGen step inside later)

/-- A node from which every walk ends is on no cycle. -/
theorem not_transGen_self_of_acc (ends : Acc (fun b a => edge a b) a) :
    ¬ TransGen edge a a := by
  induction ends with
  | intro a _ ih =>
    intro back
    obtain ⟨b, first, rest⟩ := TransGen.head'_iff.mp back
    exact ih b first (TransGen.tail' rest first)

/-- Among finitely many nodes of an acyclic graph one has no predecessor. -/
theorem Acyclic.exists_source (acyclic : Acyclic edge) {nodes : List α} (some : nodes ≠ []) :
    ∃ a ∈ nodes, ∀ b ∈ nodes, ¬ edge b a := by
  have irreflexive : Std.Irrefl (fun a b : { a // a ∈ nodes } => TransGen edge a.1 b.1) :=
    ⟨fun a => acyclic a.1⟩
  have transitive : IsTrans { a // a ∈ nodes } (fun a b => TransGen edge a.1 b.1) :=
    ⟨fun _ _ _ first second => first.trans second⟩
  have finite : Finite { a // a ∈ nodes } := List.finite_toSet nodes
  have founded := Finite.wellFounded_of_trans_of_irrefl
    (fun a b : { a // a ∈ nodes } => TransGen edge a.1 b.1)
  obtain ⟨first, member⟩ := List.exists_mem_of_ne_nil nodes some
  obtain ⟨least, -, minimal⟩ := founded.has_min Set.univ ⟨⟨first, member⟩, trivial⟩
  exact ⟨least.1, least.2, fun b inNodes step =>
    minimal ⟨b, inNodes⟩ trivial (.single step)⟩

/-! ## Orders -/

theorem TargetsFirst.nil : TargetsFirst edge [] := by
  intro before a after split
  simp at split

variable {order : List α}

/-- A node may be added at the end once all of its targets are listed. -/
theorem TargetsFirst.append_singleton (first : TargetsFirst edge order)
    (targets : ∀ b, edge a b → b ∈ order) : TargetsFirst edge (order ++ [a]) := by
  intro before c after split b step
  rcases List.eq_nil_or_concat after with rfl | ⟨shorter, last, rfl⟩
  · obtain ⟨rfl, same⟩ := List.append_inj' split rfl
    obtain rfl : a = c := by simpa using same
    exact targets b step
  · rw [List.concat_eq_append, ← List.cons_append, ← List.append_assoc] at split
    exact first before c shorter (List.append_inj' split rfl).1 b step

theorem TargetsFirst.of_append {order more : List α} (first : TargetsFirst edge (order ++ more)) :
    TargetsFirst edge order := by
  intro before a after split b step
  exact first before a (after ++ more) (by simp [split]) b step

/-- Nodes in such an order lead only to nodes before them. -/
theorem TargetsFirst.mem_of_transGen {order before after : List α} {a b : α}
    (first : TargetsFirst edge order) (split : order = before ++ a :: after)
    (reached : TransGen edge a b) : b ∈ before := by
  induction reached with
  | single step => exact first before a after split _ step
  | tail _ step ih =>
    obtain ⟨front, back, rfl⟩ := List.append_of_mem ih
    have earlier := first front _ (back ++ a :: after) (by simp [split]) _ step
    exact List.mem_append_left _ earlier

theorem TargetsFirst.reverse (first : TargetsFirst (fun a b => edge b a) order)
    (nodup : order.Nodup) (covers : ∀ a b, edge a b → b ∈ order) :
    TargetsFirst edge order.reverse := by
  intro before a after split b step
  have forward : order = after.reverse ++ a :: before.reverse := by
    rw [← List.reverse_reverse order, split]
    simp
  have apart : a ∉ after.reverse := by
    rw [forward] at nodup
    exact fun member => (List.nodup_append'.mp nodup).2.2 member List.mem_cons_self
  have member := covers a b step
  rw [forward] at member
  rcases List.mem_append.mp member with late | rest
  · obtain ⟨front, back, around⟩ := List.append_of_mem late
    have source := first front b (back ++ a :: before.reverse) (by simp [forward, around]) a step
    exact absurd (around ▸ List.mem_append_left _ source) apart
  · rcases List.mem_cons.mp rest with rfl | early
    · exact absurd (first after.reverse b before.reverse forward b step) apart
    · exact List.mem_reverse.mp early

/-- A graph whose nodes with targets can be so ordered has no cycle. -/
theorem TargetsFirst.acyclic (first : TargetsFirst edge order) (nodup : order.Nodup)
    (covers : ∀ a b, edge a b → a ∈ order) : Acyclic edge := by
  intro a back
  obtain ⟨b, step, -⟩ := TransGen.head'_iff.mp back
  obtain ⟨before, after, split⟩ := List.append_of_mem (covers a b step)
  have early := first.mem_of_transGen split back
  rw [split] at nodup
  exact (List.nodup_append'.mp nodup).2.2 early (by simp)

end ErpFinance.Library
