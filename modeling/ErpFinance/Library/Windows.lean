import Mathlib.Algebra.Order.Group.Defs
import Mathlib.Algebra.Order.Group.Synonym
import Mathlib.Data.List.Chain
import Mathlib.Data.List.Infix

/-!
# Instants and windows

Instants, the latest first, and how many of them a window reaches: those that
lie within a window of the latest one, and those from which every gap up to the
latest one is smaller than a window.  Only the second number can be kept with
one counter that expires.
-/

namespace ErpFinance.Library.Windows

/-- Of a group in a row the first is the last one that a window of its length reaches. -/
theorem getLast?_take {α : Type*} (after : List α) {group : List α} {n : Nat}
    (length : group.length = n + 1) :
    group.getLast? = (group ++ after)[n]? := by
  rw [List.getLast?_eq_getElem?, length, Nat.add_sub_cancel,
    List.getElem?_append_left (by omega)]

variable {T : Type*} [AddCommGroup T] [LinearOrder T]

/-- The latest instants with gaps smaller than the window. -/
def burst (window : T) : List T → Nat
  | [] => 0
  | [_] => 1
  | t :: s :: rest => if t - s < window then burst window (s :: rest) + 1 else 1

/-- The instants within a window of the latest one. -/
def recent (window : T) : List T → Nat
  | [] => 0
  | t :: rest => (rest.filter fun s => t - s < window).length + 1

/-- The instants that were no more than so many in a row when they came. -/
def admitted (window : T) (limit : Nat) : List T → List T
  | [] => []
  | t :: rest =>
    if burst window (t :: rest) ≤ limit then t :: admitted window limit rest
    else admitted window limit rest

/-- So many instants in a row, and one more, lie within one window. -/
def Compact (window : T) (limit : Nat) (times : List T) : Prop :=
  0 < limit → ∀ group, group <:+: times → group.length = limit + 1 →
    group.IsChain (fun t s => t - s < window) →
      ∀ last ∈ group.head?, ∀ first ∈ group.getLast?, last - first < window

variable {window t s start : T} {limit n : Nat} {rest times : List T}

theorem burst_pos : 0 < burst window (t :: rest) := by
  cases rest with
  | nil => exact Nat.one_pos
  | cons s rest =>
    rw [burst]
    split_ifs
    · exact Nat.succ_pos _
    · exact Nat.one_pos

theorem lt_burst_iff : n < burst window times ↔
    n < times.length ∧ (times.take (n + 1)).IsChain fun t s => t - s < window := by
  induction times generalizing n with
  | nil => exact ⟨fun less => absurd less (Nat.not_lt_zero n), fun both => both.1⟩
  | cons t rest ih =>
    cases rest with
    | nil =>
      rw [burst, List.length_singleton, List.take_succ_cons, List.take_nil]
      exact ⟨fun less => ⟨less, .singleton t⟩, fun both => both.1⟩
    | cons s rest =>
      rw [burst]
      cases n with
      | zero =>
        refine iff_of_true ?_ ⟨Nat.succ_pos _, .singleton t⟩
        split_ifs
        · exact Nat.succ_pos _
        · exact Nat.one_pos
      | succ n =>
        rw [List.take_succ_cons, List.take_succ_cons, List.isChain_cons_cons,
          ← List.take_succ_cons, List.length_cons, Nat.succ_lt_succ_iff]
        split_ifs with near
        · rw [Nat.succ_lt_succ_iff, ih]
          exact ⟨fun both => ⟨both.1, near, both.2⟩, fun both => ⟨both.1, both.2.2⟩⟩
        · exact ⟨fun less => absurd less (by omega), fun both => absurd both.2.1 near⟩

def inside (start window : T) (limit : Nat) (times : List T) : List T :=
  (admitted window limit times).filter fun t => start ≤ t ∧ t < start + window

theorem inside_cons : (inside start window limit (t :: rest)).length =
    (inside start window limit rest).length +
      if burst window (t :: rest) ≤ limit ∧ start ≤ t ∧ t < start + window then 1 else 0 := by
  rw [inside, admitted]
  by_cases few : burst window (t :: rest) ≤ limit
  · rw [if_pos few, List.filter_cons]
    by_cases within : start ≤ t ∧ t < start + window
    · rw [if_pos (decide_eq_true within), if_pos ⟨few, within⟩, List.length_cons, inside]
    · rw [if_neg (by simpa using within), if_neg fun all => within all.2, inside, Nat.add_zero]
  · rw [if_neg few, if_neg fun all => few all.1, inside, Nat.add_zero]

theorem mem_of_admitted (member : t ∈ admitted window limit times) : t ∈ times := by
  induction times with
  | nil => exact member
  | cons s rest ih =>
    rw [admitted] at member
    split_ifs at member
    · rcases List.mem_cons.mp member with rfl | further
      · exact List.mem_cons_self
      · exact List.mem_cons_of_mem _ (ih further)
    · exact List.mem_cons_of_mem _ (ih member)

/-- A window that starts later has none of the instants. -/
theorem inside_of_before (before : ∀ t ∈ times, t < start) :
    inside start window limit times = [] := by
  refine List.filter_eq_nil_iff.mpr fun t member within => ?_
  exact absurd (of_decide_eq_true within).1 (not_le.mpr (before t (mem_of_admitted member)))

variable [IsOrderedAddMonoid T]

/-- Of descending instants the recent ones come first. -/
theorem lt_recent_iff (descending : (t :: rest).Pairwise (· ≥ ·)) :
    n + 1 < recent window (t :: rest) ↔ ∃ s ∈ rest[n]?, t - s < window := by
  rw [recent, Nat.succ_lt_succ_iff]
  induction rest generalizing n with
  | nil => simp
  | cons s rest ih =>
    obtain ⟨above, ordered⟩ := List.pairwise_cons.mp descending
    obtain ⟨first, later⟩ := List.pairwise_cons.mp ordered
    have shorter : (t :: rest).Pairwise (· ≥ ·) :=
      List.pairwise_cons.mpr ⟨fun x member => above x (List.mem_cons_of_mem _ member), later⟩
    by_cases near : t - s < window
    · rw [List.filter_cons_of_pos (by simpa using near), List.length_cons]
      cases n with
      | zero => exact iff_of_true (Nat.succ_pos _) ⟨s, rfl, near⟩
      | succ n =>
        rw [Nat.succ_lt_succ_iff, List.getElem?_cons_succ]
        exact ih shorter
    · have none : (s :: rest).filter (fun s => t - s < window) = [] := by
        refine List.filter_eq_nil_iff.mpr fun x member close => near ?_
        have below : x ≤ s := by
          rcases List.mem_cons.mp member with rfl | further
          · exact le_rfl
          · exact first x further
        exact lt_of_le_of_lt (sub_le_sub_left below t) (of_decide_eq_true close)
      rw [none]
      refine iff_of_false (Nat.not_lt_zero _) ?_
      rintro ⟨x, at_n, close⟩
      have member : x ∈ s :: rest := List.mem_of_getElem? at_n
      have kept : x ∈ (s :: rest).filter fun s => t - s < window :=
        List.mem_filter.mpr ⟨member, decide_eq_true close⟩
      rw [none] at kept
      cases kept

/-- Of the admitted instants no window holds more than the limit: it holds no more than there are
in a row at the latest one. -/
theorem length_inside_le (descending : times.Pairwise (· ≥ ·)) :
    (inside start window limit times).length ≤ limit ∧
      ∀ t ∈ times.head?, start ≤ t → t < start + window →
        (inside start window limit times).length ≤ burst window times := by
  induction times with
  | nil => exact ⟨Nat.zero_le _, fun t none => by cases none⟩
  | cons t rest ih =>
    obtain ⟨above, ordered⟩ := List.pairwise_cons.mp descending
    obtain ⟨limited, inRow⟩ := ih ordered
    rw [inside_cons]
    have grows : start ≤ t → t < start + window →
        (inside start window limit rest).length + 1 ≤ burst window (t :: rest) := by
      intro reached ends
      cases rest with
      | nil => exact le_rfl
      | cons s rest =>
        by_cases before : s < start
        · -- the window starts after the instant before
          have none : inside start window limit (s :: rest) = [] := by
            refine inside_of_before fun x member => ?_
            rcases List.mem_cons.mp member with rfl | further
            · exact before
            · exact lt_of_le_of_lt ((List.pairwise_cons.mp ordered).1 x further) before
          rw [none]
          exact burst_pos
        · have begun : start ≤ s := not_lt.mp before
          have close : t - s < window :=
            lt_of_le_of_lt (sub_le_sub_left begun t) (sub_lt_iff_lt_add'.mpr ends)
          rw [burst, if_pos close]
          refine Nat.succ_le_succ (inRow s rfl begun ?_)
          exact lt_of_le_of_lt (above s List.mem_cons_self) ends
    constructor
    · split_ifs with all
      · exact (grows all.2.1 all.2.2).trans all.1
      · exact limited
    · rintro _ ⟨⟩ reached ends
      refine le_trans ?_ (grows reached ends)
      split_ifs
      · exact le_rfl
      · exact Nat.le_succ _

/-- Every instant that comes with no more than the limit in its window is one of no more than the
limit in a row exactly when those in a row are compact. -/
theorem recent_suffices_iff (descending : times.Pairwise (· ≥ ·)) :
    (∀ t rest, t :: rest <:+ times → recent window (t :: rest) ≤ limit →
      burst window (t :: rest) ≤ limit) ↔ Compact window limit times := by
  constructor
  · rintro suffices' positive group ⟨before, after, rfl⟩ length chain last isLast first isFirst
    obtain ⟨n, rfl⟩ := Nat.exists_eq_succ_of_ne_zero positive.ne'
    obtain ⟨rest, rfl⟩ : ∃ rest, group = last :: rest := List.head?_eq_some_iff.mp isLast
    have suffix' : last :: (rest ++ after) <:+ before ++ last :: rest ++ after :=
      ⟨before, by rw [List.append_assoc, List.cons_append]⟩
    have inRow : n + 1 < burst window (last :: (rest ++ after)) := by
      refine lt_burst_iff.mpr ⟨?_, ?_⟩
      · rw [← List.cons_append, List.length_append, length]
        omega
      · rw [← List.cons_append, ← length, List.take_left]
        exact chain
    have within : n + 1 < recent window (last :: (rest ++ after)) := by
      by_contra few
      exact absurd (suffices' last _ suffix' (not_lt.mp few)) (not_le.mpr inRow)
    obtain ⟨s, reached, close⟩ := (lt_recent_iff (descending.sublist suffix'.sublist)).mp within
    rw [Option.mem_def, getLast?_take after length, List.cons_append,
      List.getElem?_cons_succ, reached] at isFirst
    obtain rfl := Option.some.inj isFirst
    exact close
  · intro compact t rest suffix' few
    by_contra many
    obtain ⟨long, chain⟩ := lt_burst_iff.mp (not_le.mp many)
    cases limit with
    | zero => exact absurd few (by rw [recent]; omega)
    | succ n =>
      have length : ((t :: rest).take (n + 1 + 1)).length = n + 1 + 1 :=
        List.length_take_of_le long
      have last := getLast?_take ((t :: rest).drop (n + 1 + 1)) length
      rw [List.take_append_drop] at last
      obtain ⟨s, reached⟩ : ∃ s, (t :: rest)[n + 1]? = some s :=
        ⟨_, List.getElem?_eq_getElem long⟩
      have close := compact (Nat.succ_pos n) _
        ((List.take_prefix _ _).isInfix.trans suffix'.isInfix) length chain t rfl s
        (last.trans reached)
      rw [List.getElem?_cons_succ] at reached
      have within := (lt_recent_iff (descending.sublist suffix'.sublist)).mpr ⟨s, reached, close⟩
      exact absurd few (not_le.mpr within)

end ErpFinance.Library.Windows
