import ErpFinance.Library.Run

/-!
# Interleaved clients

Clients with a private state each take turns on a shared one.  A client acts in
small steps, and between two steps of one client any other may act.  What a
client asserts about the shared state has to survive the steps of the others;
what two clients assert about each other has to survive the steps of both.
-/

namespace ErpFinance.Library

universe u v w

/-- A shared state and the private states of its clients, in order of arrival. -/
structure System (σ : Type u) (γ : Type v) where
  shared : σ
  clients : List γ

/-- A new client arrives, or the client at an index takes one step. -/
inductive Turn (γ : Type v) (ι : Type w) where
  | arrive (client : γ)
  | act (index : Nat) (input : ι)

namespace System

variable {σ : Type u} {γ : Type v} {ι : Type w}

/-- One turn; a turn of an absent client changes nothing. -/
def step (next : σ → γ → ι → σ × γ) (s : System σ γ) : Turn γ ι → System σ γ
  | .arrive client => { s with clients := s.clients ++ [client] }
  | .act index input =>
    match s.clients[index]? with
    | none => s
    | some client =>
      { shared := (next s.shared client input).1
        clients := s.clients.set index (next s.shared client input).2 }

/-- What a client's step leaves, put into the system. -/
def put (s : System σ γ) (index : Nat) (outcome : σ × γ) : System σ γ where
  shared := outcome.1
  clients := s.clients.set index outcome.2

variable {next : σ → γ → ι → σ × γ} {s : System σ γ} {index other : Nat} {input : ι}
  {client new : γ} {clients : List γ}

theorem step_act (found : s.clients[index]? = some client) :
    s.step next (.act index input) = s.put index (next s.shared client input) := by
  simp [step, put, found]

theorem step_act_absent (absent : s.clients[index]? = none) :
    s.step next (.act index input) = s := by
  simp [step, absent]

/-- What a client's step keeps, its turn keeps. -/
theorem step_act_keeps {P : System σ γ → Prop} (kept : P s)
    (acts : ∀ client, s.clients[index]? = some client →
      P (s.put index (next s.shared client input))) : P (s.step next (.act index input)) := by
  cases found : s.clients[index]? with
  | none => rwa [step_act_absent found]
  | some client =>
    rw [step_act found]
    exact acts client found

theorem getElem?_set_cases (found : (clients.set index new)[other]? = some client) :
    (other = index ∧ client = new) ∨ (other ≠ index ∧ clients[other]? = some client) := by
  rw [List.getElem?_set] at found
  split at found
  · rename_i same
    split at found
    · exact Or.inl ⟨same.symm, (Option.some.inj found).symm⟩
    · cases found
  · rename_i different
    exact Or.inr ⟨Ne.symm different, found⟩

/-- A client other than the one that is replaced stays. -/
theorem mem_set_of_mem (found : clients[index]? = some client) {second : γ}
    (member : second ∈ clients) (different : second ≠ client) : second ∈ clients.set index new := by
  obtain ⟨place, bound, rfl⟩ := List.getElem_of_mem member
  have elsewhere : index ≠ place := by
    rintro rfl
    rw [List.getElem?_eq_getElem bound] at found
    exact different (Option.some.inj found)
  have there : (clients.set index new)[place]? = some clients[place] := by
    rw [List.getElem?_set_ne elsewhere, List.getElem?_eq_getElem bound]
  exact List.mem_of_getElem? there

/-- The client at an index after one more has arrived. -/
theorem getElem?_arrive_cases (found : (clients ++ [new])[other]? = some client) :
    (other = clients.length ∧ client = new) ∨ clients[other]? = some client := by
  rcases Nat.lt_trichotomy other clients.length with before | here | beyond
  · rw [List.getElem?_append_left before] at found
    exact Or.inr found
  · subst here
    exact Or.inl ⟨rfl, by simpa using found.symm⟩
  · rw [List.getElem?_eq_none (by simp; omega)] at found
    cases found

/--
Every client's assertion about the shared state holds, and any two clients are
apart.
-/
structure Coherent (holds : σ → γ → Prop) (apart : γ → γ → Prop) (s : System σ γ) : Prop where
  each : ∀ (index : Nat) (client : γ), s.clients[index]? = some client →
    holds s.shared client
  pairs : ∀ (index other : Nat) (first second : γ), index ≠ other →
    s.clients[index]? = some first → s.clients[other]? = some second → apart first second

namespace Coherent

variable {holds : σ → γ → Prop} {apart : γ → γ → Prop} {shared : σ}

/-- A newcomer whose assertion holds and who is apart from everyone joins coherently. -/
theorem arrive (coherent : Coherent holds apart s) (own : holds s.shared new)
    (joins : ∀ (index : Nat) (other : γ), s.clients[index]? = some other →
      apart new other ∧ apart other new) :
    Coherent holds apart { s with clients := s.clients ++ [new] } where
  each index client found := by
    rcases getElem?_arrive_cases found with ⟨_, rfl⟩ | old
    · exact own
    · exact coherent.each index client old
  pairs index other first second different foundFirst foundSecond := by
    rcases getElem?_arrive_cases foundFirst with ⟨isLast, rfl⟩ | oldFirst
    · rcases getElem?_arrive_cases foundSecond with ⟨alsoLast, rfl⟩ | oldSecond
      · exact absurd (isLast.trans alsoLast.symm) different
      · exact (joins other second oldSecond).1
    · rcases getElem?_arrive_cases foundSecond with ⟨_, rfl⟩ | oldSecond
      · exact (joins index first oldFirst).2
      · exact coherent.pairs index other first second different oldFirst oldSecond

/--
A step is coherent when the acting client ends in an assertion that holds, the
assertions of the clients it is apart from survive, and it stays apart from them.
-/
theorem act (coherent : Coherent holds apart s) (own : holds shared new)
    (others : ∀ (other : Nat) (second : γ), other ≠ index → s.clients[other]? = some second →
      holds s.shared second → holds shared second)
    (stays : ∀ (other : Nat) (second : γ), other ≠ index → s.clients[other]? = some second →
      apart new second ∧ apart second new) :
    Coherent holds apart (s.put index (shared, new)) where
  each other client found := by
    rcases getElem?_set_cases found with ⟨_, rfl⟩ | ⟨different, old⟩
    · exact own
    · exact others other client different old (coherent.each other client old)
  pairs first second one two different foundOne foundTwo := by
    rcases getElem?_set_cases foundOne with ⟨isActor, rfl⟩ | ⟨notActor, oldOne⟩
    · rcases getElem?_set_cases foundTwo with ⟨alsoActor, rfl⟩ | ⟨notActor, oldTwo⟩
      · exact absurd (isActor.trans alsoActor.symm) different
      · exact (stays second two notActor oldTwo).1
    · rcases getElem?_set_cases foundTwo with ⟨_, rfl⟩ | ⟨_, oldTwo⟩
      · exact (stays first one notActor oldOne).2
      · exact coherent.pairs first second one two different oldOne oldTwo

end Coherent

end System

end ErpFinance.Library
