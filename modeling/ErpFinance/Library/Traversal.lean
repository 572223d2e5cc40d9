import ErpFinance.Library.Graph

/-!
# Depth-first traversal

The traversal that follows the targets of a node in some order, records each
target the first time it is met and goes on from it.  What it records are the
nodes that the edges lead to, each once, whatever the orders.
-/

namespace ErpFinance.Library.Traversal

variable {α : Type*} [DecidableEq α]

/-- The targets in turn; a target not yet found is recorded and visited. -/
def visitAll (visit : α → List α → List α) : List α → List α → List α
  | [], found => found
  | t :: rest, found =>
    if t ∈ found then visitAll visit rest found
    else visitAll visit rest (visit t (found ++ [t]))

/-- The traversal; `next` gives the targets of a node in the order of that visit. -/
def dfs (next : List α → α → List α) : Nat → α → List α → List α
  | 0, _, found => found
  | fuel + 1, n, found => visitAll (dfs next fuel) (next found n) found

/-! ## What one visit does -/

structure Visits (edge : α → α → Prop) (targets : α → Prop) (found after : List α) : Prop where
  subset : found ⊆ after
  nodup : after.Nodup
  sound : ∀ a ∈ after, a ∈ found ∨ ∃ t, targets t ∧ Relation.ReflTransGen edge t a
  reached : ∀ t, targets t → t ∈ after
  closed : ∀ a ∈ after, a ∉ found → ∀ b, edge a b → b ∈ after

variable {edge : α → α → Prop}

theorem Visits.cons {t : α} {rest : α → Prop} {found middle after : List α}
    (first : Visits edge (edge t) (found ++ [t]) middle)
    (later : Visits edge rest middle after) :
    Visits edge (fun a => a = t ∨ rest a) found after := by
  have entered : t ∈ after := later.subset (first.subset (by simp))
  refine ⟨?_, later.nodup, ?_, ?_, ?_⟩
  · intro a member
    exact later.subset (first.subset (List.mem_append_left _ member))
  · intro a member
    rcases later.sound a member with between | ⟨s, target, path⟩
    · rcases first.sound a between with old | ⟨s, step, path⟩
      · rcases List.mem_append.mp old with before | new
        · exact .inl before
        · rw [List.mem_singleton.mp new]
          exact .inr ⟨t, .inl rfl, .refl⟩
      · exact .inr ⟨t, .inl rfl, .head step path⟩
    · exact .inr ⟨s, .inr target, path⟩
  · rintro s (rfl | target)
    · exact entered
    · exact later.reached s target
  · intro a member fresh b step
    by_cases between : a ∈ middle
    · by_cases same : a = t
      · subst same
        exact later.subset (first.reached b step)
      · exact later.subset (first.closed a between (by simp [fresh, same]) b step)
    · exact later.closed a member between b step

omit [DecidableEq α] in
/-- A target found before changes nothing. -/
theorem Visits.skip {t : α} {rest : α → Prop} {found after : List α} (known : t ∈ found)
    (later : Visits edge rest found after) :
    Visits edge (fun a => a = t ∨ rest a) found after := by
  refine ⟨later.subset, later.nodup, ?_, ?_, later.closed⟩
  · intro a member
    rcases later.sound a member with old | ⟨s, target, path⟩
    · exact .inl old
    · exact .inr ⟨s, .inr target, path⟩
  · rintro s (rfl | target)
    · exact later.subset known
    · exact later.reached s target

theorem visitAll_spec {visit : α → List α → List α} {nodes targets : List α} {size : Nat}
    (visits : ∀ t found, found.Nodup → found ⊆ nodes → t ∈ nodes → size < found.length →
      visit t found ⊆ nodes ∧ Visits edge (edge t) found (visit t found))
    (inside : targets ⊆ nodes) {found : List α} (nodup : found.Nodup) (within : found ⊆ nodes)
    (large : size ≤ found.length) :
    visitAll visit targets found ⊆ nodes ∧
      Visits edge (· ∈ targets) found (visitAll visit targets found) := by
  induction targets generalizing found with
  | nil =>
    refine ⟨within, fun _ member => member, nodup, fun a member => .inl member, by simp, ?_⟩
    exact fun a member fresh => absurd member fresh
  | cons t rest ih =>
    have restInside : rest ⊆ nodes := fun a member => inside (List.mem_cons_of_mem _ member)
    unfold visitAll
    simp only [List.mem_cons]
    by_cases known : t ∈ found
    · rw [if_pos known]
      obtain ⟨stays, later⟩ := ih restInside nodup within large
      exact ⟨stays, later.skip known⟩
    · rw [if_neg known]
      have entered : (found ++ [t]).Nodup :=
        List.nodup_append'.mpr ⟨nodup, List.nodup_singleton t, by simpa using known⟩
      have enteredWithin : found ++ [t] ⊆ nodes := by
        intro a member
        rcases List.mem_append.mp member with old | new
        · exact within old
        · rw [List.mem_singleton.mp new]
          exact inside List.mem_cons_self
      obtain ⟨middleWithin, first⟩ := visits t (found ++ [t]) entered enteredWithin
        (inside List.mem_cons_self) (by simp; omega)
      have grown : (found ++ [t]).length ≤ (visit t (found ++ [t])).length :=
        (entered.subperm first.subset).length_le
      rw [List.length_append, List.length_singleton] at grown
      obtain ⟨stays, later⟩ := ih restInside first.nodup middleWithin (by omega)
      exact ⟨stays, first.cons later⟩

theorem dfs_spec {next : List α → α → List α} {nodes : List α}
    (targets : ∀ found n t, t ∈ next found n ↔ edge n t)
    (closed : ∀ a b, edge a b → b ∈ nodes) (fuel : Nat) (n : α) {found : List α}
    (nodup : found.Nodup) (within : found ⊆ nodes) (enough : nodes.length < fuel + found.length) :
    dfs next fuel n found ⊆ nodes ∧ Visits edge (edge n) found (dfs next fuel n found) := by
  induction fuel generalizing n found with
  | zero =>
    have bound := (nodup.subperm within).length_le
    omega
  | succ fuel ih =>
    have same : edge n = (· ∈ next found n) := by
      funext t
      exact propext (targets found n t).symm
    unfold dfs
    rw [same]
    refine @visitAll_spec α _ edge _ nodes _ found.length ?_ ?_ found nodup within le_rfl
    · intro t others distinct inside _ larger
      exact ih t distinct inside (by omega)
    · intro t member
      exact closed n t ((targets found n t).mp member)

/-- From nothing found, the traversal records what the edges lead to, each node once. -/
theorem mem_dfs_iff {next : List α → α → List α} {nodes : List α}
    (targets : ∀ found n t, t ∈ next found n ↔ edge n t)
    (closed : ∀ a b, edge a b → b ∈ nodes) (n : α) :
    (dfs next (nodes.length + 1) n []).Nodup ∧
      ∀ a, a ∈ dfs next (nodes.length + 1) n [] ↔ Relation.TransGen edge n a := by
  have start : nodes.length < nodes.length + 1 + ([] : List α).length := by simp
  obtain ⟨-, visits⟩ := dfs_spec targets closed (nodes.length + 1) n .nil (List.nil_subset _) start
  refine ⟨visits.nodup, fun a => ⟨fun member => ?_, fun path => ?_⟩⟩
  · rcases visits.sound a member with none | ⟨t, step, path⟩
    · cases none
    · exact .head' step path
  · induction path with
    | single step => exact visits.reached _ step
    | tail _ step ih => exact visits.closed _ ih (by simp) _ step

end ErpFinance.Library.Traversal
