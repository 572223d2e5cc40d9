import ErpFinance.Library.Graph
import Mathlib.Algebra.Order.BigOperators.Group.List
import Mathlib.Algebra.Order.Ring.Nat

/-!
# Kahn's algorithm

The loop that repeatedly takes a node without pending predecessors from a
queue.  A node's degree counts the edges from nodes not yet taken; how a node
that has become ready is queued is a parameter, as long as nothing is lost.
The loop takes every node exactly when the graph is acyclic, and it takes each
node after all of its predecessors.
-/

namespace ErpFinance.Library.Kahn

variable {α : Type*} [DecidableEq α]

structure State (α : Type*) where
  degree : α → Int
  queue : List α
  done : List α := []

/-- One edge after another is removed; a node whose last edge goes is ready. -/
def relax : (α → Int) → List α → (α → Int) × List α
  | degree, [] => (degree, [])
  | degree, t :: rest =>
    let lowered := Function.update degree t (degree t - 1)
    let (final, ready) := relax lowered rest
    (final, if lowered t = 0 then t :: ready else ready)

/-- The loop over the queue, with fuel for as many rounds as there are nodes. -/
def loop (next : α → List α) (enqueue : List α → List α → List α) : Nat → State α → State α
  | 0, st => st
  | fuel + 1, st =>
    match st.queue with
    | [] => st
    | n :: rest =>
      let (degree, ready) := relax st.degree (next n)
      loop next enqueue fuel
        { degree := degree, queue := enqueue rest ready, done := st.done ++ [n] }

/-- The edges of the graph. -/
def Edge (next : α → List α) (nodes : List α) (a b : α) : Prop := a ∈ nodes ∧ b ∈ next a

/-! ## Removing the edges of one node -/

theorem relax_degree (degree : α → Int) (targets : List α) (t : α) :
    (relax degree targets).1 t = degree t - targets.count t := by
  induction targets generalizing degree with
  | nil => simp [relax]
  | cons s rest ih =>
    simp only [relax, ih]
    by_cases same : t = s
    · subst same
      simp only [Function.update_self, List.count_cons_self]
      omega
    · simp [Function.update_of_ne same, List.count_cons_of_ne (Ne.symm same)]

/-- A node becomes ready when its degree goes through zero. -/
theorem mem_relax_ready (degree : α → Int) (targets : List α) (t : α) :
    t ∈ (relax degree targets).2 ↔ 0 < degree t ∧ degree t ≤ targets.count t := by
  induction targets generalizing degree with
  | nil => simp [relax]
  | cons s rest ih =>
    simp only [relax, Function.update_self]
    by_cases same : t = s
    · subst same
      simp only [List.count_cons_self]
      split
      case isTrue zero =>
        simp only [List.mem_cons, true_or, true_iff]
        omega
      case isFalse pending =>
        rw [ih]
        simp only [Function.update_self]
        omega
    · have other : t ∈ (relax (Function.update degree s (degree s - 1)) rest).2 ↔
          0 < degree t ∧ degree t ≤ rest.count t := by
        rw [ih, Function.update_of_ne same]
      rw [List.count_cons_of_ne (Ne.symm same), ← other]
      split <;> simp [same]

theorem nodup_relax_ready (degree : α → Int) (targets : List α) :
    (relax degree targets).2.Nodup := by
  induction targets generalizing degree with
  | nil => simp [relax]
  | cons s rest ih =>
    simp only [relax, Function.update_self]
    split
    case isTrue zero =>
      refine List.nodup_cons.mpr ⟨?_, ih _⟩
      rw [mem_relax_ready, Function.update_self]
      omega
    case isFalse pending => exact ih _

/-- The order of the edges does not matter to what becomes ready. -/
theorem relax_perm (degree : α → Int) {targets others : List α} (perm : targets.Perm others) :
    (relax degree targets).1 = (relax degree others).1 ∧
      (relax degree targets).2.Perm (relax degree others).2 := by
  constructor
  · funext t
    rw [relax_degree, relax_degree, perm.count_eq]
  · rw [List.perm_ext_iff_of_nodup (nodup_relax_ready _ _) (nodup_relax_ready _ _)]
    intro t
    rw [mem_relax_ready, mem_relax_ready, perm.count_eq]

/-! ## The invariant of the loop -/

/-- The edges to a node from nodes that have not been taken. -/
def pending (next : α → List α) (nodes done : List α) (t : α) : Nat :=
  ((nodes.filter (· ∉ done)).map (fun n => (next n).count t)).sum

variable {next : α → List α} {nodes : List α}

theorem pending_append_singleton (next : α → List α) (nodup : nodes.Nodup) {done : List α} {n : α}
    (member : n ∈ nodes) (fresh : n ∉ done) (t : α) :
    pending next nodes done t = (next n).count t + pending next nodes (done ++ [n]) t := by
  have perm : (nodes.filter (· ∉ done)).Perm (n :: nodes.filter (· ∉ done ++ [n])) := by
    rw [List.perm_ext_iff_of_nodup (nodup.filter _)
      (List.nodup_cons.mpr ⟨by simp, nodup.filter _⟩)]
    intro a
    by_cases same : a = n
    · simp [same, member, fresh]
    · simp [same]
  rw [pending, (perm.map _).sum_eq, List.map_cons, List.sum_cons, pending]

/-- Without pending edges every predecessor has been taken. -/
theorem mem_of_pending_eq_zero {done : List α} {a t : α} (zero : pending next nodes done t = 0)
    (edge : Edge next nodes a t) : a ∈ done := by
  by_contra fresh
  have counted : (next a).count t ∈
      (nodes.filter (· ∉ done)).map (fun n => (next n).count t) :=
    List.mem_map.mpr ⟨a, by simp [edge.1, fresh], rfl⟩
  have bounded := List.le_sum_of_mem counted
  have positive := List.count_pos_iff.mpr edge.2
  unfold pending at zero
  omega

/-- What holds of the loop's variables between two rounds. -/
structure Inv (next : α → List α) (nodes : List α) (st : State α) : Prop where
  degree : ∀ t ∈ nodes, st.degree t = pending next nodes st.done t
  nodup : (st.done ++ st.queue).Nodup
  reached : ∀ t, t ∈ st.done ++ st.queue ↔ t ∈ nodes ∧ st.degree t = 0
  ordered : TargetsFirst (fun a b => Edge next nodes b a) st.done

theorem Inv.round (distinct : nodes.Nodup) (closed : ∀ n ∈ nodes, ∀ t ∈ next n, t ∈ nodes)
    {st : State α} (inv : Inv next nodes st) {n : α} {rest queue : List α}
    (front : st.queue = n :: rest)
    (queued : queue.Perm (rest ++ (relax st.degree (next n)).2)) :
    Inv next nodes
      { degree := (relax st.degree (next n)).1, queue := queue, done := st.done ++ [n] } := by
  obtain ⟨degree, nodup, reached, ordered⟩ := inv
  rw [front] at nodup reached
  obtain ⟨inNodes, taken⟩ := (reached n).mp (by simp)
  have fresh : n ∉ st.done := fun member => (List.nodup_append'.mp nodup).2.2 member (by simp)
  have lowered : ∀ t ∈ nodes, (relax st.degree (next n)).1 t =
      pending next nodes (st.done ++ [n]) t := by
    intro t member
    have before := degree t member
    have split := pending_append_singleton next distinct inNodes fresh t
    rw [relax_degree]
    omega
  have ready : ∀ t, t ∈ (relax st.degree (next n)).2 ↔
      t ∈ nodes ∧ 0 < st.degree t ∧ (relax st.degree (next n)).1 t = 0 := by
    intro t
    rw [mem_relax_ready]
    constructor
    · rintro ⟨positive, bounded⟩
      have target : t ∈ next n := List.count_pos_iff.mp (by omega)
      have member := closed n inNodes t target
      have after := lowered t member
      have moved := relax_degree st.degree (next n) t
      exact ⟨member, positive, by omega⟩
    · rintro ⟨-, positive, zero⟩
      have moved := relax_degree st.degree (next n) t
      exact ⟨positive, by omega⟩
  have members : ∀ t, t ∈ (st.done ++ [n]) ++ queue ↔
      t ∈ st.done ++ n :: rest ∨ t ∈ (relax st.degree (next n)).2 := by
    intro t
    simp only [List.mem_append, queued.mem_iff, List.mem_cons, List.not_mem_nil, or_false]
    tauto
  refine ⟨lowered, ?_, ?_, ?_⟩
  · have perm : ((st.done ++ [n]) ++ queue).Perm
        ((st.done ++ n :: rest) ++ (relax st.degree (next n)).2) := by
      refine (queued.append_left (st.done ++ [n])).trans ?_
      rw [← List.append_assoc]
      exact .of_eq (by simp)
    rw [perm.nodup_iff, List.nodup_append']
    refine ⟨nodup, nodup_relax_ready _ _, fun t old new => ?_⟩
    have zero := ((reached t).mp old).2
    have positive := ((ready t).mp new).2.1
    omega
  · intro t
    rw [members, reached, ready]
    constructor
    · rintro (⟨member, zero⟩ | ⟨member, -, zero⟩)
      · have before := degree t member
        have after := lowered t member
        have split := pending_append_singleton next distinct inNodes fresh t
        refine ⟨member, ?_⟩
        show (relax st.degree (next n)).1 t = 0
        omega
      · exact ⟨member, zero⟩
    · rintro ⟨member, zero⟩
      have before := degree t member
      by_cases gone : st.degree t = 0
      · exact .inl ⟨member, gone⟩
      · exact .inr ⟨member, by omega, zero⟩
  · refine ordered.append_singleton fun b edge => ?_
    have none := degree n inNodes
    exact mem_of_pending_eq_zero (by omega) edge

/-! ## The whole loop -/

/-- The loop ends with an empty queue, and the invariant holds. -/
structure Finished (next : α → List α) (nodes : List α) (st : State α) : Prop extends
    Inv next nodes st where
  empty : st.queue = []

theorem finished_loop (distinct : nodes.Nodup) (closed : ∀ n ∈ nodes, ∀ t ∈ next n, t ∈ nodes)
    {enqueue : List α → List α → List α}
    (keeps : ∀ queue ready, (enqueue queue ready).Perm (queue ++ ready)) (fuel : Nat)
    {st : State α} (inv : Inv next nodes st) (enough : nodes.length ≤ fuel + st.done.length) :
    Finished next nodes (loop next enqueue fuel st) := by
  induction fuel generalizing st with
  | zero =>
    refine ⟨inv, ?_⟩
    have inside : st.done ++ st.queue ⊆ nodes := fun t member => ((inv.reached t).mp member).1
    have bound := (inv.nodup.subperm inside).length_le
    rw [List.length_append] at bound
    exact List.length_eq_zero_iff.mp (show st.queue.length = 0 by omega)
  | succ fuel ih =>
    unfold loop
    cases front : st.queue with
    | nil => exact ⟨inv, front⟩
    | cons n rest =>
      refine ih (inv.round distinct closed front (keeps _ _)) ?_
      simp only [List.length_append, List.length_singleton]
      omega

/-- The loop may begin with the counted degrees and the nodes without predecessors. -/
theorem Inv.start {degree : α → Int} {queue : List α}
    (counted : ∀ t ∈ nodes, degree t = pending next nodes [] t) (nodup : queue.Nodup)
    (free : ∀ t, t ∈ queue ↔ t ∈ nodes ∧ degree t = 0) :
    Inv next nodes { degree := degree, queue := queue } :=
  ⟨counted, by simpa using nodup, by simpa using free, .nil⟩

section Finished

variable {st : State α} (finished : Finished next nodes st)

include finished

theorem Finished.nodup_done : st.done.Nodup :=
  (List.nodup_append'.mp finished.nodup).1

theorem Finished.mem_done {t : α} : t ∈ st.done ↔ t ∈ nodes ∧ st.degree t = 0 := by
  simpa [finished.empty] using finished.reached t

theorem Finished.subset : st.done ⊆ nodes := fun _ member => (finished.mem_done.mp member).1

theorem Finished.exists_predecessor {t : α} (member : t ∈ nodes) (left : t ∉ st.done) :
    ∃ a ∈ nodes, a ∉ st.done ∧ t ∈ next a := by
  by_contra none
  have zero : pending next nodes st.done t = 0 := by
    unfold pending
    rw [List.sum_eq_zero_iff]
    intro count counted
    obtain ⟨a, inRest, rfl⟩ := List.mem_map.mp counted
    obtain ⟨inNodes, fresh⟩ := List.mem_filter.mp inRest
    by_contra some
    exact none ⟨a, inNodes, of_decide_eq_true fresh,
      List.count_pos_iff.mp (Nat.pos_of_ne_zero some)⟩
  have degree := finished.degree t member
  exact left (finished.mem_done.mpr ⟨member, by omega⟩)

/-- Every node is taken exactly when the graph has no cycle. -/
theorem Finished.perm_iff_acyclic (distinct : nodes.Nodup)
    (closed : ∀ n ∈ nodes, ∀ t ∈ next n, t ∈ nodes) :
    st.done.Perm nodes ↔ Acyclic (Edge next nodes) := by
  constructor
  · intro all
    have reversed : Acyclic (fun a b => Edge next nodes b a) :=
      finished.ordered.acyclic finished.nodup_done
        (fun a b edge => all.mem_iff.mpr (closed b edge.1 a edge.2))
    intro a back
    exact reversed a (Relation.transGen_swap.mp back)
  · intro acyclic
    rw [List.perm_ext_iff_of_nodup finished.nodup_done distinct]
    refine fun t => ⟨fun member => finished.subset member, fun member => ?_⟩
    by_contra left
    have some : nodes.filter (· ∉ st.done) ≠ [] :=
      List.ne_nil_of_mem (List.mem_filter.mpr ⟨member, decide_eq_true left⟩)
    obtain ⟨source, inRest, first⟩ := acyclic.exists_source some
    obtain ⟨inNodes, fresh⟩ := List.mem_filter.mp inRest
    obtain ⟨a, aNode, aLeft, target⟩ :=
      finished.exists_predecessor inNodes (of_decide_eq_true fresh)
    exact first a (List.mem_filter.mpr ⟨aNode, decide_eq_true aLeft⟩) ⟨aNode, target⟩

/-- The number of nodes taken tells whether all were. -/
theorem Finished.length_iff_perm :
    st.done.length = nodes.length ↔ st.done.Perm nodes := by
  constructor
  · intro same
    exact (finished.nodup_done.subperm finished.subset).perm_of_length_le same.ge
  · exact List.Perm.length_eq

end Finished

/-! ## Graphs given by a list of edges -/

/-- The targets of a node, once for each of its edges. -/
def targets (edges : List (α × α)) (a : α) : List α :=
  (edges.filter (fun e => e.1 = a)).map Prod.snd

theorem mem_targets {edges : List (α × α)} {a b : α} : b ∈ targets edges a ↔ (a, b) ∈ edges := by
  simp only [targets, List.mem_map, List.mem_filter, decide_eq_true_iff]
  constructor
  · rintro ⟨⟨source, target⟩, ⟨member, rfl⟩, rfl⟩
    exact member
  · exact fun member => ⟨(a, b), ⟨member, rfl⟩, rfl⟩

/-- The degree of a node is the number of edges to it. -/
theorem pending_targets (distinct : nodes.Nodup) {edges : List (α × α)}
    (sources : ∀ e ∈ edges, e.1 ∈ nodes) (t : α) :
    pending (targets edges) nodes [] t = edges.countP (fun e => e.2 = t) := by
  simp only [pending, List.not_mem_nil, not_false_eq_true, decide_true, List.filter_true]
  induction edges with
  | nil => simp [targets]
  | cons e rest ih =>
    have source := sources e (by simp)
    have others := ih (fun other member => sources other (List.mem_cons_of_mem _ member))
    have step : ∀ n, (targets (e :: rest) n).count t =
        (if e.1 = n ∧ e.2 = t then 1 else 0) + (targets rest n).count t := by
      intro n
      by_cases same : e.1 = n
      · by_cases target : e.2 = t <;> simp [targets, same, target, Nat.add_comm]
      · simp [targets, same]
    have single : (nodes.map (fun n => if e.1 = n ∧ e.2 = t then 1 else 0)).sum =
        if e.2 = t then 1 else 0 := by
      by_cases target : e.2 = t
      · have counted : ∀ nodes : List α,
            (nodes.map (fun n => if e.1 = n then 1 else 0)).sum = nodes.count e.1 := by
          intro nodes
          induction nodes with
          | nil => rfl
          | cons n more ih =>
            rw [List.map_cons, List.sum_cons, ih, List.count_cons, Nat.add_comm]
            simp [@eq_comm α e.1]
        simp [target, counted, List.count_eq_one_of_mem distinct source]
      · simp [target]
    simp only [step, List.sum_map_add, single, others, List.countP_cons]
    by_cases target : e.2 = t <;> simp [target, Nat.add_comm]

theorem targets_perm {edges others : List (α × α)} (perm : edges.Perm others) (a : α) :
    (targets edges a).Perm (targets others a) :=
  (perm.filter _).map _

/-- Loops that queue equally whatever the order of the edges take the same nodes. -/
theorem loop_congr {other : α → List α} (same : ∀ n, (next n).Perm (other n))
    {enqueue : List α → List α → List α}
    (insensitive : ∀ queue ready ready', ready.Perm ready' →
      enqueue queue ready = enqueue queue ready') (fuel : Nat) (st : State α) :
    loop next enqueue fuel st = loop other enqueue fuel st := by
  induction fuel generalizing st with
  | zero => rfl
  | succ fuel ih =>
    unfold loop
    cases st.queue with
    | nil => rfl
    | cons n rest =>
      obtain ⟨degrees, ready⟩ := relax_perm st.degree (same n)
      simp only
      rw [degrees, insensitive _ _ _ ready, ih]

end ErpFinance.Library.Kahn
