import ErpFinance.Events.Outbox

/-!
# What relays deliver

Every event that a relay hands to a subscriber is the one that was published, but for its payload,
which is never the published one; and no event is ever put among the dead letters.
-/

namespace ErpFinance.Events

open Domain Library

/-- An event with a place is what comes back of the publication at that place. -/
def World.Carries (w : World) (item : Nat × DomainEvent) : Prop :=
  ∃ p, w.publications[item.1]? = some p ∧ item.2 = relayed p.event

/-- The events that a relay has read and not yet dealt with. -/
def Stage.items : Stage → List (Nat × DomainEvent)
  | .idle | .locked _ | .unlocking _ => []
  | .delivering _ queue => queue
  | .handling _ current _ queue | .marking _ current _ queue => current :: queue

/-- What holds in every state of a run. -/
structure World.Sound (w : World) : Prop where
  rows : ∀ row ∈ w.rows, w.Carries (row.number, scannedEvent row)
  relays : ∀ stage ∈ w.relays, ∀ item ∈ stage.items, w.Carries item
  handed : ∀ h ∈ w.handed, w.Carries (h.number, h.event)
  deadLetters : w.deadLetters = []

namespace World.Sound

variable {w after : World} {stage : Stage}

/-- Publications stay where they are. -/
theorem carries_append {item : Nat × DomainEvent} (carries : w.Carries item)
    {more : List Publication} (grows : after.publications = w.publications ++ more) :
    after.Carries item := by
  obtain ⟨p, found, same⟩ := carries
  refine ⟨p, ?_, same⟩
  rw [grows, List.getElem?_append_left (List.getElem?_eq_some_iff.mp found).1]
  exact found

theorem map_rows (sound : w.Sound) (change : OutboxRow → OutboxRow)
    (keeps : ∀ row, (change row).number = row.number ∧ scannedEvent (change row) = scannedEvent row)
    (rows : after.rows = w.rows.map change) (publications : after.publications = w.publications) :
    ∀ row ∈ after.rows, after.Carries (row.number, scannedEvent row) := by
  intro changed member
  rw [rows] at member
  obtain ⟨row, original, rfl⟩ := List.mem_map.mp member
  rw [(keeps row).1, (keeps row).2, World.Carries, publications]
  exact sound.rows row original

theorem publish (sound : w.Sound) (tx : Nat) (e : DomainEvent) : (w.publish tx e).Sound := by
  rw [World.publish]
  split_ifs with taken
  · exact sound
  · have grown (item : Nat × DomainEvent) (carries : w.Carries item) :
        World.Carries { w with
          publications := w.publications ++ [{ tx := tx, event := e }]
          rows := w.rows ++ [insertedRow w.publications.length e] } item :=
      carries_append carries rfl
    refine ⟨fun row member => ?_, fun stage among item member =>
      grown item (sound.relays stage among item member), fun h member =>
      grown _ (sound.handed h member), sound.deadLetters⟩
    rcases List.mem_append.mp member with old | new
    · exact grown _ (sound.rows row old)
    · rw [List.mem_singleton.mp new, scannedEvent_insertedRow]
      exact ⟨{ tx := tx, event := e }, List.getElem?_concat_length, rfl⟩

/-- What a poll round reads. -/
theorem pollRows_carries (sound : w.Sound) : ∀ item ∈ pollRows w.rows, w.Carries item := by
  intro item member
  obtain ⟨row, taken, rfl⟩ := List.mem_map.mp member
  have sorted := List.mem_of_mem_take taken
  have kept := (List.mem_insertionSort _).mp sorted
  exact sound.rows row (List.mem_of_mem_filter kept)

/-- A turn of a relay keeps what holds, and its stage holds events that were published. -/
theorem poll (sound : w.Sound) (carried : ∀ item ∈ stage.items, w.Carries item)
    (subscribers : String → List Nat) (index connection : Nat) (failure : Option String)
    (now : Nat) :
    (w.poll subscribers index connection failure now stage).1.Sound ∧
      (w.poll subscribers index connection failure now stage).1.publications = w.publications ∧
      (w.poll subscribers index connection failure now stage).1.relays = w.relays ∧
      ∀ item ∈ (w.poll subscribers index connection failure now stage).2.items,
        w.Carries item := by
  cases stage with
  | idle =>
    dsimp only [World.poll]
    split
    · exact ⟨⟨sound.rows, sound.relays, sound.handed, sound.deadLetters⟩, rfl, rfl, nofun⟩
    · exact ⟨sound, rfl, rfl, nofun⟩
  | locked conn =>
    cases failure with
    | none => exact ⟨sound, rfl, rfl, sound.pollRows_carries⟩
    | some error => exact ⟨sound, rfl, rfl, nofun⟩
  | delivering conn queue =>
    cases queue with
    | nil => exact ⟨sound, rfl, rfl, nofun⟩
    | cons current queue => exact ⟨sound, rfl, rfl, carried⟩
  | handling conn current left queue =>
    cases left with
    | nil => exact ⟨sound, rfl, rfl, carried⟩
    | cons subscriber left =>
      refine ⟨⟨sound.rows, sound.relays, fun h member => ?_, sound.deadLetters⟩, rfl, rfl, ?_⟩
      · rcases List.mem_append.mp member with old | new
        · exact sound.handed h old
        · rw [List.mem_singleton.mp new]
          exact carried current (List.mem_cons_self)
      · cases failure with
        | none => exact carried
        | some error => exact carried
  | marking conn current result queue =>
    have rest (item : Nat × DomainEvent) (member : item ∈ queue) : w.Carries item :=
      carried item (List.mem_cons_of_mem current member)
    cases failure with
    | some error => exact ⟨sound, rfl, rfl, rest⟩
    | none =>
      cases result with
      | none =>
        refine ⟨⟨?_, sound.relays, sound.handed, sound.deadLetters⟩, rfl, rfl, rest⟩
        exact sound.map_rows _ (fun row => by split_ifs <;> exact ⟨rfl, rfl⟩) rfl rfl
      | some error =>
        refine ⟨⟨?_, sound.relays, sound.handed, sound.deadLetters⟩, rfl, rfl, rest⟩
        exact sound.map_rows _ (fun row => by split_ifs <;> exact ⟨rfl, rfl⟩) rfl rfl
  | unlocking conn =>
    cases failure with
    | none =>
      exact ⟨⟨sound.rows, sound.relays, sound.handed, sound.deadLetters⟩, rfl, rfl, nofun⟩
    | some error => exact ⟨sound, rfl, rfl, nofun⟩

theorem setStage (sound : w.Sound) (index : Nat) (items : ∀ item ∈ stage.items, w.Carries item) :
    World.Sound { w with relays := w.relays.set index stage } := by
  refine ⟨sound.rows, fun other member => ?_, sound.handed, sound.deadLetters⟩
  rcases List.mem_or_eq_of_mem_set member with old | rfl
  · exact sound.relays other old
  · exact items

/-- Every step keeps what holds. -/
theorem step (sound : w.Sound) (subscribers : String → List Nat) (input : Input) :
    (w.step subscribers input).Sound := by
  have finish (tx : Nat) (status : TxStatus) : (w.finish tx status).Sound := by
    rw [World.finish]
    split_ifs
    · exact ⟨sound.rows, sound.relays, sound.handed, sound.deadLetters⟩
    · exact sound
  cases input with
  | begin => exact ⟨sound.rows, sound.relays, sound.handed, sound.deadLetters⟩
  | publish tx e newID now fails =>
    dsimp only [World.step]
    split_ifs
    · exact sound.publish tx (completed e newID now)
    · exact sound
  | commit tx => exact finish tx .committed
  | rollback tx => exact finish tx .rolledBack
  | relay index connection failure now =>
    dsimp only [World.step]
    cases found : w.relays[index]? with
    | none => exact sound
    | some stage =>
      obtain ⟨after, publications, relays, items⟩ := sound.poll
        (sound.relays stage (List.mem_of_getElem? found)) subscribers index connection failure
        now
      refine after.setStage index fun item member => ?_
      obtain ⟨p, place, same⟩ := items item member
      exact ⟨p, publications ▸ place, same⟩
  | crash index =>
    have freed : World.Sound { w with lock := w.lock.filter (·.relay ≠ index) } :=
      ⟨sound.rows, sound.relays, sound.handed, sound.deadLetters⟩
    exact freed.setStage index nofun

end World.Sound

section Runs

variable (subscribers : String → List Nat) (instances : Nat) (inputs : Nat → Input)

/-- In every state of a run, what relays read, hold and hand on was published, and no event is
among the dead letters. -/
theorem world_sound (k : Nat) : (world subscribers instances inputs k).Sound := by
  induction k with
  | zero =>
    refine ⟨nofun, fun stage member item among => ?_, nofun, rfl⟩
    rw [List.eq_of_mem_replicate member] at among
    cases among
  | succ k ih => exact ih.step subscribers (inputs k)

variable {subscribers} {w : World} {input : Input}

/-- Only a relay that is about to hand an event to a subscriber hands one. -/
theorem handed_step (idle : ¬ Hands w input) :
    (w.step subscribers input).handed = w.handed := by
  have finish (tx : Nat) (status : TxStatus) : (w.finish tx status).handed = w.handed := by
    rw [World.finish]
    split_ifs <;> rfl
  cases input with
  | begin => rfl
  | publish tx e newID now fails =>
    dsimp only [World.step]
    split_ifs
    · rw [World.publish]
      split_ifs <;> rfl
    · rfl
  | commit tx => exact finish tx .committed
  | rollback tx => exact finish tx .rolledBack
  | relay index connection failure now =>
    dsimp only [World.step]
    cases found : w.relays[index]? with
    | none => rfl
    | some stage =>
      cases stage with
      | idle =>
        dsimp only [World.poll]
        split <;> rfl
      | locked conn => cases failure <;> rfl
      | delivering conn queue => cases queue <;> rfl
      | handling conn current left queue =>
        cases left with
        | nil => rfl
        | cons subscriber left =>
          exact absurd ⟨_, _, _, _, _, _, _, _, _, rfl, found⟩ idle
      | marking conn current result queue => cases failure <;> cases result <;> rfl
      | unlocking conn => cases failure <;> rfl
  | crash index => rfl

/-- A relay that is about to hand an event to a subscriber hands it. -/
theorem handed_of_hands (hands : Hands w input) : (w.step subscribers input).handed ≠ [] := by
  obtain ⟨index, connection, failure, now, conn, current, subscriber, left, queue, rfl, found⟩ :=
    hands
  have step : (w.step subscribers (.relay index connection failure now)).handed =
      w.handed ++ [⟨current.1, current.2, subscriber, failure⟩] := by
    dsimp only [World.step]
    rw [found]
    rfl
  rw [step]
  exact List.append_ne_nil_of_right_ne_nil _ (List.cons_ne_nil _ _)

/-- No event is handed to a subscriber in a run if and only if no relay is ever about to. -/
theorem handed_eq_nil_iff : (∀ k, (world subscribers instances inputs k).handed = []) ↔
    ∀ k, ¬ Hands (world subscribers instances inputs k) (inputs k) := by
  constructor
  · intro none k hands
    have some : (world subscribers instances inputs (k + 1)).handed ≠ [] := handed_of_hands hands
    exact some (none (k + 1))
  · intro idle k
    induction k with
    | zero => rfl
    | succ k ih => exact (handed_step (idle k)).trans ih

end Runs

/-- A run delivers reliably if and only if no event of a committed transaction has a subscriber and
no relay ever hands an event to one: whatever is handed on is not what was published. -/
theorem reliable_iff (subscribers : String → List Nat) (instances : Nat) (inputs : Nat → Input) :
    Reliable subscribers (world subscribers instances inputs) ↔
      (∀ k, ¬ Hands (world subscribers instances inputs k) (inputs k)) ∧
        ∀ k number p, (world subscribers instances inputs k).publications[number]? = some p →
          (world subscribers instances inputs k).Committed number →
            recipients subscribers p.event.type = [] := by
  rw [← handed_eq_nil_iff]
  have sound := world_sound subscribers instances inputs
  constructor
  · intro reliable
    have silent (k : Nat) : (world subscribers instances inputs k).handed = [] := by
      refine List.eq_nil_iff_forall_not_mem.mpr fun h member => ?_
      obtain ⟨p, found, same⟩ := reliable.same k h member
      obtain ⟨q, place, carried⟩ := (sound k).handed h member
      cases found.symm.trans place
      exact relayed_ne p.event (carried.symm.trans same)
    refine ⟨silent, fun k number p found committed => ?_⟩
    obtain ⟨later, delivered | ⟨row, member, -⟩⟩ := reliable.arrives k number p found committed
    · refine List.eq_nil_iff_forall_not_mem.mpr fun subscriber among => ?_
      obtain ⟨h, member, -⟩ := delivered subscriber among
      rw [silent later] at member
      cases member
    · rw [(sound later).deadLetters] at member
      cases member
  · rintro ⟨silent, unheard⟩
    refine ⟨fun k h member => ?_, fun k h member => ?_, fun k number p found committed =>
      ⟨k, Or.inl fun subscriber among => ?_⟩⟩
    · rw [silent k] at member
      cases member
    · rw [silent k] at member
      cases member
    · rw [unheard k number p found committed] at among
      cases among

/-- The creation of an invoice. -/
def created : DomainEvent where
  id := 7
  type := "entity.created"
  entityName := "finance_invoice"
  recordID := 8
  payload := some [123, 125]

/-- A transaction publishes an event and rolls back, and a relay polls. -/
def rollsBack (k : Nat) : Input :=
  [Input.begin, .publish 0 created 9 1000 false, .rollback 0].getD k (.relay 0 0 none 2000)

/-- A subscriber of created records. -/
def onCreated (type : String) : List Nat := if type = "entity.created" then [1] else []

/-- The event of a transaction that was rolled back is delivered. -/
theorem rollsBack_unreliable : ¬ Reliable onCreated (world onCreated 1 rollsBack) := by
  intro reliable
  have handed : (world onCreated 1 rollsBack 7).handed =
      [⟨0, relayed (completed created 9 1000), 1, none⟩] := by decide +kernel
  have publications : (world onCreated 1 rollsBack 7).publications =
      [⟨0, completed created 9 1000⟩] := by decide +kernel
  have transactions : (world onCreated 1 rollsBack 7).transactions = [.rolledBack] := by
    decide +kernel
  obtain ⟨p, found, committed⟩ := reliable.committed 7 _ (handed ▸ List.mem_singleton_self _)
  rw [publications] at found
  cases found
  rw [transactions] at committed
  exact absurd committed (by decide)

end ErpFinance.Events
