import ErpFinance.Library.Except

/-!
# Programs over a state

A program reads and writes a state and returns or fails; a failure keeps what
it has written.  Two programs simulate each other when from related states they
have agreeing outcomes and end in related states.  The relation may hold only
while the second program stays within a bound; what a program that only moves
away from the bound has reached tells that all its steps were within it.
-/

namespace ErpFinance.Library

def Stateful (σ ε α : Type) : Type := σ → Except ε α × σ

namespace Stateful

variable {σ τ ε ε' α β γ δ : Type}

def fail (error : ε) : Stateful σ ε α := fun state => (.error error, state)

/-- A step that neither reads nor writes the state. -/
def lift (outcome : Except ε α) : Stateful σ ε α := fun state => (outcome, state)

def get : Stateful σ ε σ := fun state => (.ok state, state)

def modify (change : σ → σ) : Stateful σ ε Unit := fun state => (.ok ⟨⟩, change state)

def mapError (reword : ε → ε') (program : Stateful σ ε α) : Stateful σ ε' α :=
  fun state => ((program state).1.mapError reword, (program state).2)

def outcome (program : Stateful σ ε α) : Stateful σ ε' (Except ε α) :=
  fun state => (.ok (program state).1, (program state).2)

instance : Monad (Stateful σ ε) where
  pure value := fun state => (.ok value, state)
  bind first rest := fun state =>
    match first state with
    | (.ok value, next) => rest value next
    | (.error error, next) => (.error error, next)

section Equations

variable {first : Stateful σ ε α} {rest : α → Stateful σ ε β} {state next : σ}

@[simp] theorem lift_apply (outcome : Except ε α) (state : σ) :
    (lift outcome : Stateful σ ε α) state = (outcome, state) := rfl

@[simp] theorem get_apply (state : σ) : (get : Stateful σ ε σ) state = (.ok state, state) := rfl

@[simp] theorem outcome_apply (program : Stateful σ ε α) (state : σ) :
    (program.outcome : Stateful σ ε' _) state = (.ok (program state).1, (program state).2) := rfl

theorem bind_ok {value : α} (runs : first state = (.ok value, next)) :
    (first >>= rest) state = rest value next := by
  simp only [bind, runs]

theorem bind_error {error : ε} (runs : first state = (.error error, next)) :
    (first >>= rest) state = (.error error, next) := by
  simp only [bind, runs]

theorem lift_eq_iff {outcome result : Except ε α} :
    (lift outcome : Stateful σ ε α) state = (result, next) ↔ outcome = result ∧ next = state := by
  rw [lift_apply, Prod.mk.injEq, eq_comm (a := state)]

/-- Programs run one after the other succeed when each does. -/
theorem bind_eq_ok_iff {result : β} {last : σ} :
    (first >>= rest) state = (.ok result, last) ↔
      ∃ value next, first state = (.ok value, next) ∧ rest value next = (.ok result, last) := by
  constructor
  · intro succeeds
    rcases runs : first state with ⟨error | value, next⟩
    · rw [bind_error runs] at succeeds
      cases succeeds
    · rw [bind_ok runs] at succeeds
      exact ⟨value, next, rfl, succeeds⟩
  · rintro ⟨value, next, runs, succeeds⟩
    rw [bind_ok runs, succeeds]

theorem bind_eq_error_iff {error : ε} {last : σ} :
    (first >>= rest) state = (.error error, last) ↔
      first state = (.error error, last) ∨
        ∃ value next, first state = (.ok value, next) ∧
          rest value next = (.error error, last) := by
  constructor
  · intro fails
    rcases runs : first state with ⟨other | value, next⟩
    · rw [bind_error runs] at fails
      cases fails
      exact .inl rfl
    · rw [bind_ok runs] at fails
      exact .inr ⟨value, next, rfl, fails⟩
  · rintro (runs | ⟨value, next, runs, fails⟩)
    · exact bind_error runs
    · rw [bind_ok runs, fails]

end Equations

instance : LawfulMonad (Stateful σ ε) := by
  refine LawfulMonad.mk' (Stateful σ ε) (fun program => ?_) (fun _ _ => rfl)
    (fun program rest others => ?_)
  · funext state
    rcases runs : program state with ⟨error | value, next⟩
    · simp only [Functor.map, runs]
    · simp only [Functor.map, runs]
      rfl
  · funext state
    rcases runs : program state with ⟨error | value, next⟩
    all_goals
      simp only [bind, runs]

/-! ## A program for each item -/

/-- Run a program for each item and its position; the first failure ends the run. -/
def each (program : Nat → α → Stateful σ ε Unit) : Nat → List α → Stateful σ ε Unit
  | _, [] => pure ()
  | start, item :: rest => do
      program start item
      each program (start + 1) rest

section Each

variable {program : Nat → α → Stateful σ ε Unit} {items : List α} {inv : Nat → σ → Prop}
  {state : σ} {n : Nat}

theorem each_append (start : Nat) (first last : List α) :
    each program start (first ++ last) =
      each program start first >>= fun _ => each program (start + first.length) last := by
  induction first generalizing start with
  | nil => rfl
  | cons item rest ih =>
    have shifted : start + 1 + rest.length = start + (item :: rest).length := by
      rw [List.length_cons]
      omega
    rw [List.cons_append, each, each, ih, bind_assoc, shifted]

/-- Below a position the items pass, and each pass carries the invariant one position on. -/
def Passes (program : Nat → α → Stateful σ ε Unit) (inv : Nat → σ → Prop) (items : List α)
    (n : Nat) : Prop :=
  ∀ i < n, ∀ item, items[i]? = some item → ∀ state, inv i state →
    ∃ next, program i item state = (.ok (), next) ∧ inv (i + 1) next

theorem each_take (passes : Passes program inv items n) (within : n ≤ items.length)
    (starts : inv 0 state) :
    ∃ last, each program 0 (items.take n) state = (.ok (), last) ∧ inv n last := by
  induction n with
  | zero => exact ⟨state, rfl, starts⟩
  | succ n ih =>
    have inside : n < items.length := within
    obtain ⟨middle, runs, holds⟩ := ih (fun i below => passes i (by omega)) (Nat.le_of_lt inside)
    have found : items[n]? = some items[n] := List.getElem?_eq_getElem inside
    obtain ⟨last, steps, kept⟩ := passes n (by omega) items[n] found middle holds
    refine ⟨last, ?_, kept⟩
    rw [List.take_add_one, found, Option.toList_some, each_append, bind_ok runs]
    rw [List.length_take, Nat.min_eq_left (Nat.le_of_lt inside), Nat.zero_add, each, bind_ok steps]
    rfl

theorem each_passes (passes : Passes program inv items items.length) (starts : inv 0 state) :
    ∃ last, each program 0 items state = (.ok (), last) ∧ inv items.length last := by
  obtain ⟨last, runs, holds⟩ := each_take passes (Nat.le_refl _) starts
  rw [List.take_length] at runs
  exact ⟨last, runs, holds⟩

end Each

/-! ## Programs that stay within a bound -/

/-- Where the program ends within the bound, it has started within it. -/
def Keeps (within : σ → Prop) (program : Stateful σ ε α) : Prop :=
  ∀ state, within (program state).2 → within state

namespace Keeps

variable {within : σ → Prop}

theorem of_true (program : Stateful σ ε α) : Keeps (fun _ => True) program := fun _ _ => trivial

theorem pure (value : α) : Keeps within (Pure.pure value : Stateful σ ε α) := fun _ ends => ends

theorem fail (error : ε) : Keeps within (Stateful.fail error : Stateful σ ε α) :=
  fun _ ends => ends

theorem lift (outcome : Except ε α) : Keeps within (Stateful.lift outcome : Stateful σ ε α) :=
  fun _ ends => ends

theorem bind {first : Stateful σ ε α} {rest : α → Stateful σ ε β} (before : Keeps within first)
    (after : ∀ value, Keeps within (rest value)) : Keeps within (first >>= rest) := by
  intro state ends
  rcases runs : first state with ⟨_ | value, next⟩
  · rw [bind_error runs] at ends
    exact before state (by rwa [runs])
  · rw [bind_ok runs] at ends
    exact before state (by rw [runs]; exact after value next ends)

theorem mapError {program : Stateful σ ε α} (keeps : Keeps within program) (reword : ε → ε') :
    Keeps within (program.mapError reword) := keeps

theorem allM {check : α → Stateful σ ε Bool} {items : List α}
    (keeps : ∀ item ∈ items, Keeps within (check item)) : Keeps within (items.allM check) := by
  induction items with
  | nil => exact Keeps.pure true
  | cons item rest ih =>
    obtain ⟨first, others⟩ := List.forall_mem_cons.mp keeps
    refine first.bind fun holds => ?_
    cases holds with
    | false => exact Keeps.pure false
    | true => exact ih others

theorem anyM {check : α → Stateful σ ε Bool} {items : List α}
    (keeps : ∀ item ∈ items, Keeps within (check item)) : Keeps within (items.anyM check) := by
  induction items with
  | nil => exact Keeps.pure false
  | cons item rest ih =>
    obtain ⟨first, others⟩ := List.forall_mem_cons.mp keeps
    refine first.bind fun holds => ?_
    cases holds with
    | false => exact ih others
    | true => exact Keeps.pure true

end Keeps

/-! ## Programs that move along a relation -/

/-- Wherever the program starts, it ends in a state related to that one. -/
def Moves (along : σ → σ → Prop) (program : Stateful σ ε α) : Prop :=
  ∀ state, along state (program state).2

namespace Moves

variable {along : σ → σ → Prop}

section Refl

variable [Std.Refl along]

theorem pure (value : α) : Moves along (Pure.pure value : Stateful σ ε α) :=
  fun state => Std.Refl.refl state

theorem fail (error : ε) : Moves along (Stateful.fail error : Stateful σ ε α) :=
  fun state => Std.Refl.refl state

theorem lift (outcome : Except ε α) : Moves along (Stateful.lift outcome : Stateful σ ε α) :=
  fun state => Std.Refl.refl state

theorem get : Moves along (Stateful.get : Stateful σ ε σ) := fun state => Std.Refl.refl state

end Refl

theorem of_run {program : Stateful σ ε α} {state next : σ} {outcome : Except ε α}
    (moves : Moves along program) (runs : program state = (outcome, next)) : along state next := by
  have moved := moves state
  rwa [runs] at moved

/-- From wherever the first program has led, the rest moves on. -/
theorem go_on [IsTrans σ along] {first : Stateful σ ε α} {rest : α → Stateful σ ε β}
    {origin state : σ} (reached : along origin (first state).2)
    (after : ∀ value, Moves along (rest value)) : along origin ((first >>= rest) state).2 := by
  rcases runs : first state with ⟨error | value, next⟩
  · rw [bind_error runs]
    rwa [runs] at reached
  · rw [bind_ok runs]
    rw [runs] at reached
    exact IsTrans.trans _ _ _ reached (after value next)

theorem bind [IsTrans σ along] {first : Stateful σ ε α} {rest : α → Stateful σ ε β}
    (before : Moves along first) (after : ∀ value, Moves along (rest value)) :
    Moves along (first >>= rest) :=
  fun state => go_on (before state) after

theorem each [Std.Refl along] [IsTrans σ along] {program : Nat → α → Stateful σ ε Unit}
    {items : List α} (moves : ∀ item ∈ items, ∀ position, Moves along (program position item))
    (start : Nat) : Moves along (Stateful.each program start items) := by
  induction items generalizing start with
  | nil => exact Moves.pure PUnit.unit
  | cons item rest ih =>
    obtain ⟨first, others⟩ := List.forall_mem_cons.mp moves
    exact (first start).bind fun _ => ih others (start + 1)

theorem mapError {program : Stateful σ ε α} (moves : Moves along program) (reword : ε → ε') :
    Moves along (program.mapError reword) := moves

theorem outcome {program : Stateful σ ε α} (moves : Moves along program) :
    Moves along (program.outcome : Stateful σ ε' (Except ε α)) := moves

theorem ite {test : Prop} [Decidable test] {first second : Stateful σ ε α}
    (yes : Moves along first) (no : Moves along second) :
    Moves along (if test then first else second) := by
  split
  · exact yes
  · exact no

end Moves

/-! ## Simulation -/

/-- Both succeed with related values, or both fail with related errors. -/
inductive Agree (errors : ε → ε' → Prop) (values : α → β → Prop) :
    Except ε α → Except ε' β → Prop where
  | ok {value : α} {other : β} (related : values value other) :
      Agree errors values (.ok value) (.ok other)
  | error {error : ε} {other : ε'} (related : errors error other) :
      Agree errors values (.error error) (.error other)

namespace Agree

variable {errors : ε → ε' → Prop} {first : Except ε α} {second : Except ε' α}

theorem eq {first second : Except ε α} (agree : Agree Eq Eq first second) : first = second := by
  cases agree with
  | ok related => rw [related]
  | error related => rw [related]

theorem toOption_eq (agree : Agree errors Eq first second) : first.toOption = second.toOption := by
  cases agree with
  | ok related =>
    subst related
    rfl
  | error related => rfl

theorem mapError {values : α → β → Prop} {first : Except ε α} {second : Except ε' β}
    {rewords : γ → δ → Prop} {reword : ε → γ} {reword' : ε' → δ}
    (agree : Agree errors values first second)
    (related : ∀ error other, errors error other → rewords (reword error) (reword' other)) :
    Agree rewords values (first.mapError reword) (second.mapError reword') := by
  cases agree with
  | ok same => exact .ok same
  | error same => exact .error (related _ _ same)

theorem bind {values : α → β → Prop} {results : γ → δ → Prop} {first : Except ε α}
    {second : Except ε' β} {rest : α → Except ε γ} {others : β → Except ε' δ}
    (before : Agree errors values first second)
    (after : ∀ value other, values value other → Agree errors results (rest value) (others other)) :
    Agree errors results (first >>= rest) (second >>= others) := by
  cases before with
  | ok related => exact after _ _ related
  | error related => exact .error related

/-- Loops over items that agree one by one. -/
theorem mapM {values : γ → δ → Prop} {step : α → Except ε γ} {step' : β → Except ε' δ}
    {items : List α} {others : List β}
    (each : List.Forall₂ (fun item other => Agree errors values (step item) (step' other))
      items others) :
    Agree errors (List.Forall₂ values) (items.mapM step) (others.mapM step') := by
  induction each with
  | nil => exact .ok .nil
  | cons head tail ih =>
    rw [List.mapM_cons, List.mapM_cons]
    refine head.bind fun first first' related => ?_
    exact ih.bind fun rest rest' others => .ok (.cons related others)

theorem refl {errors : ε → ε → Prop} (reflexive : ∀ error, errors error error)
    (outcome : Except ε α) : Agree errors Eq outcome outcome := by
  cases outcome with
  | ok value => exact .ok rfl
  | error error => exact .error (reflexive error)

end Agree

/-- What a simulation relates: states, up to a bound on the second, and errors. -/
structure Relating (σ τ ε ε' : Type) where
  states : σ → τ → Prop
  within : τ → Prop
  errors : ε → ε' → Prop

def Simulates (rel : Relating σ τ ε ε') (values : α → β → Prop) (first : Stateful σ ε α)
    (second : Stateful τ ε' β) : Prop :=
  ∀ state other, rel.states state other → rel.within (second other).2 →
    Agree rel.errors values (first state).1 (second other).1 ∧
      rel.states (first state).2 (second other).2

namespace Simulates

variable {rel : Relating σ τ ε ε'} {values : α → β → Prop} {results : γ → δ → Prop}
  {first : Stateful σ ε α} {second : Stateful τ ε' β}

theorem pure {value : α} {other : β} (related : values value other) :
    Simulates rel values (Pure.pure value) (Pure.pure other) :=
  fun _ _ states _ => ⟨.ok related, states⟩

theorem fail {error : ε} {other : ε'} (related : rel.errors error other) :
    Simulates rel values (Stateful.fail error) (Stateful.fail other) :=
  fun _ _ states _ => ⟨.error related, states⟩

theorem lift {outcome : Except ε α} {other : Except ε' β}
    (agree : Agree rel.errors values outcome other) :
    Simulates rel values (Stateful.lift outcome) (Stateful.lift other) :=
  fun _ _ states _ => ⟨agree, states⟩

/-- Programs run one after the other simulate each other when their parts do. -/
theorem bind {rest : α → Stateful σ ε γ} {others : β → Stateful τ ε' δ}
    (before : Simulates rel values first second)
    (keeps : ∀ value, Keeps rel.within (others value))
    (after : ∀ value other, values value other →
      Simulates rel results (rest value) (others other)) :
    Simulates rel results (first >>= rest) (second >>= others) := by
  intro state other states ends
  rcases secondRuns : second other with ⟨error' | value', next'⟩ <;>
    rcases firstRuns : first state with ⟨error | value, next⟩
  all_goals
    have met := before state other states
    rw [secondRuns, firstRuns] at met
  · rw [bind_error secondRuns] at ends ⊢
    rw [bind_error firstRuns]
    obtain ⟨agree, related⟩ := met ends
    cases agree with
    | error same => exact ⟨.error same, related⟩
  · rw [bind_error secondRuns] at ends
    nomatch (met ends).1
  · rw [bind_ok secondRuns] at ends
    nomatch (met (keeps value' next' ends)).1
  · rw [bind_ok secondRuns] at ends ⊢
    rw [bind_ok firstRuns]
    obtain ⟨agree, related⟩ := met (keeps value' next' ends)
    cases agree with
    | ok same => exact after value value' same next next' related ends

theorem mapError {reword : ε → ε} {reword' : ε' → ε'}
    (simulates : Simulates rel values first second)
    (errors : ∀ error other, rel.errors error other →
      rel.errors (reword error) (reword' other)) :
    Simulates rel values (first.mapError reword) (second.mapError reword') := by
  intro state other states ends
  obtain ⟨agree, related⟩ := simulates state other states ends
  exact ⟨agree.mapError errors, related⟩

section Loops

theorem forall₂_zipIdx {related : α → β → Prop} {items : List α} {others : List β}
    (each : List.Forall₂ related items others) (start : Nat) :
    List.Forall₂ (fun entry entry' => related entry.1 entry'.1 ∧ entry.2 = entry'.2)
      (items.zipIdx start) (others.zipIdx start) := by
  induction each generalizing start with
  | nil => exact .nil
  | cons head tail ih => exact .cons ⟨head, rfl⟩ (ih (start + 1))

variable {check : α → Stateful σ ε Bool} {other : β → Stateful τ ε' Bool} {items : List α}
  {others : List β}

theorem allM (keeps : ∀ item ∈ others, Keeps rel.within (other item))
    (each : List.Forall₂ (fun item item' => Simulates rel Eq (check item) (other item'))
      items others) :
    Simulates rel Eq (items.allM check) (others.allM other) := by
  induction each with
  | nil => exact Simulates.pure rfl
  | cons head tail ih =>
    obtain ⟨-, rest⟩ := List.forall_mem_cons.mp keeps
    refine head.bind ?_ ?_
    · rintro (_ | _)
      · exact Keeps.pure false
      · exact Keeps.allM rest
    · rintro (_ | _) _ rfl
      · exact Simulates.pure rfl
      · exact ih rest

theorem anyM (keeps : ∀ item ∈ others, Keeps rel.within (other item))
    (each : List.Forall₂ (fun item item' => Simulates rel Eq (check item) (other item'))
      items others) :
    Simulates rel Eq (items.anyM check) (others.anyM other) := by
  induction each with
  | nil => exact Simulates.pure rfl
  | cons head tail ih =>
    obtain ⟨-, rest⟩ := List.forall_mem_cons.mp keeps
    refine head.bind ?_ ?_
    · rintro (_ | _)
      · exact Keeps.anyM rest
      · exact Keeps.pure true
    · rintro (_ | _) _ rfl
      · exact ih rest
      · exact Simulates.pure rfl

end Loops

end Simulates

end Stateful

end ErpFinance.Library
