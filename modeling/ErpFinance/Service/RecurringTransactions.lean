import ErpFinance.Domain.Calendar
import ErpFinance.Service.TransactionService

/-!
# Recurring transactions

The transaction generated from a recurring template on a date, and the date on
which the template is due next.  Generating on the dates a template holds gives
one series of dates, whatever calls fail in between.  The months of the series
are those of its frequency exactly as long as every month in which an occurrence
is due has the day on which the series began.
-/

namespace ErpFinance.Service.RecurringTransactions

open Domain Library Repository TransactionService

/-- `Format("20060102")`. -/
def compactDate (t : Time) : String :=
  String.ofList ((if t.year < 0 then ['-'] else []) ++ paddedDigits 4 t.year.natAbs ++
    paddedDigits 2 t.month ++ paddedDigits 2 t.day)

def calculateNextRecurringDate (recurringFrequency : Option String) (currentDate : Time) : Time :=
  match recurringFrequency with
  | none => currentDate.addDate 0 1 0
  | some "DAILY" => currentDate.addDate 0 0 1
  | some "WEEKLY" => currentDate.addDate 0 0 7
  | some "BIWEEKLY" => currentDate.addDate 0 0 14
  | some "MONTHLY" => currentDate.addDate 0 1 0
  | some "QUARTERLY" => currentDate.addDate 0 3 0
  | some "YEARLY" => currentDate.addDate 1 0 0
  | some _ => currentDate.addDate 0 1 0

/-! ## Generating -/

/-- What surrounds one generation, with the calls that fail beside those of the environment. -/
structure Generation where
  cfg : Config := {}
  env : Env
  lookupFails : Bool := false
  nextDateFails : Bool := false

section Generating

variable (g : Generation) (db : Database)

def getByNumber (number : String) : Except Error Transaction :=
  match g.env.caller.getTenantID with
  | none => .error .tenantMissing
  | some tenant =>
    if g.lookupFails then .error .databaseFailure
    else match db.transactions.rows.find? (fun row =>
        row.transactionNumber = number && row.tenantID = tenant) with
      | none => .error .transactionNotFound
      | some t => .ok t

/-- `UpdateNextRecurringDate`; a template that is not there is no error. -/
def updateNextRecurringDate (id : Uuid) (nextDate : Time) : Except Error Database :=
  match g.env.caller.getTenantID with
  | none => .error .tenantMissing
  | some tenant =>
    if g.nextDateFails then .error .databaseFailure
    else match (db.visible tenant id).filter (·.isRecurring) with
      | none => .ok db
      | some t =>
        .ok { db with
          transactions := db.transactions.put
            { t with
              nextRecurringDate := Database.dateColumn (some nextDate)
              updatedAt := g.env.now } }

def generatedNumber (template : Transaction) (date : Time) : String :=
  template.transactionNumber ++ "-" ++ compactDate date

/-- The header built from the template. -/
def newTransaction (tenant : Uuid) (template : Transaction) (date : Time) : Transaction :=
  { id := g.env.newID
    tenantID := tenant
    entityID := template.entityID
    transactionNumber := generatedNumber template date
    transactionDate := date
    transactionType := template.transactionType
    description := template.description
    referenceNumber := template.referenceNumber
    currencyCode := template.currencyCode
    exchangeRate := template.exchangeRate
    transactionStatus := .draft
    approvalRequired := template.approvalRequired
    approvalStatus := if template.approvalRequired then .pending else .notRequired
    sourceModule := template.sourceModule
    createdBy := g.env.caller.userID.getD Uuid.Nil }

/-- The entries of the template under the new header, numbered again. -/
def recurringEntries (tenant : Uuid) (entries : List TransactionEntry) : List TransactionEntry :=
  entries.zipIdx.map fun indexed =>
    { indexed.1 with
      tenantID := tenant
      transactionID := g.env.newID
      entryNumber := indexed.2 + 1 }

/-- One entry after the other, up to the first that is refused. -/
def storeEntries : Nat → List TransactionEntry → Database → Database × Option Error
  | _, [], db => (db, none)
  | index, e :: rest, db =>
    match createEntry g.env db index e with
    | .error err =>
      let context :=
        if g.cfg.txRunner then "create recurring entry " else "failed to create recurring entry "
      (db, some (.wrapped (context ++ toString (index + 1)) err))
    | .ok db' => storeEntries (index + 1) rest db'

/-- The storing part, atomic where a runner is injected. -/
def storeRecurring (t : Transaction) (entries : List TransactionEntry) : Outcome :=
  match db.create g.env t with
  | .error err =>
    (db, .error (failure g.cfg "create recurring header" "failed to create recurring transaction"
      err))
  | .ok (db₁, stored) =>
    match storeEntries g 0 entries db₁ with
    | (db₂, some err) => (if g.cfg.txRunner then db else cleanUp g.env db₂ stored.id, .error err)
    | (db₂, none) => (db₂, .ok stored)

def createRecurringTransaction (templateID : Uuid) (date : Time) : Outcome :=
  match db.getByID g.env .getByID templateID with
  | .error err => (db, .error (.wrapped "failed to get recurring transaction template" err))
  | .ok template =>
    if !template.isRecurring then
      (db, .error (.business "NOT_RECURRING" "Template is not a recurring transaction"))
    else match getByNumber g db (generatedNumber template date) with
      | .ok existing => (db, .ok existing)
      | .error _ =>
        match db.getEntriesByTransaction g.env templateID with
        | .error err =>
          (db, .error (.wrapped "failed to get template entries"
            (.wrapped "failed to get entries" err)))
        | .ok entries =>
          match g.env.caller.getTenantID with
          | none =>
            (db, .error (.business "MISSING_TENANT"
              "tenant context is required to create a recurring transaction"))
          | some tenant =>
            match storeRecurring g db (newTransaction g tenant template date)
                (recurringEntries g tenant entries) with
            | (db', .error err) => (db', .error err)
            | (db', .ok stored) =>
              let next :=
                calculateNextRecurringDate template.recurringFrequency date
              -- a failing update is logged and nothing else
              ((updateNextRecurringDate g db' templateID next).toOption.getD db',
                .ok stored)

/-- A generation on the date that the template holds, with the date of the transaction if one
was generated. -/
def generateDue (templateID : Uuid) : Database × List Time :=
  match (db.transactions.get? templateID).bind (·.nextRecurringDate) with
  | none => (db, [])
  | some date =>
    match createRecurringTransaction g db templateID date with
    | (db', .ok t) =>
      (db', if (db.transactions.get? t.id).isNone then [t.transactionDate] else [])
    | (db', .error _) => (db', [])

end Generating

/-- One generation after the other, with the dates of all transactions that were generated. -/
def generateAll (templateID : Uuid) : List Generation → Database → Database × List Time
  | [], db => (db, [])
  | g :: rest, db =>
    let (db', dates) := generateDue g db templateID
    let (final, later) := generateAll templateID rest db'
    (final, dates ++ later)

/-! ## The series -/

/-- The date of an occurrence, where every date is stored and read back. -/
def occurrence (recurringFrequency : Option String) (start : Time) : Nat → Time
  | 0 => start
  | n + 1 =>
    (calculateNextRecurringDate recurringFrequency (occurrence recurringFrequency start n)).date

def series (recurringFrequency : Option String) (start : Time) (count : Nat) : List Time :=
  (List.range count).map (occurrence recurringFrequency start)

/-- The months between two occurrences, of the frequencies that count in months. -/
def monthsBetween : Option String → Option Nat
  | some "DAILY" | some "WEEKLY" | some "BIWEEKLY" => none
  | some "QUARTERLY" => some 3
  | some "YEARLY" => some 12
  | _ => some 1

def InDueMonths (months : Nat) (start : Time) (dates : List Time) : Prop :=
  ∀ n date, dates[n]? = some date → date.monthIndex = start.monthIndex + (months * n : Nat) ∧
    date.day = min start.day (Time.monthDays (start.monthIndex + (months * n : Nat)))

def LongEnough (months : Nat) (start : Time) (count : Nat) : Prop :=
  ∀ n < count, start.day ≤ Time.monthDays (start.monthIndex + (months * n : Nat))

section Series

variable {recurringFrequency : Option String} {months : Nat}

theorem series_succ (recurringFrequency : Option String) (start : Time) (count : Nat) :
    series recurringFrequency start (count + 1) =
      series recurringFrequency start count ++ [occurrence recurringFrequency start count] := by
  rw [series, List.range_succ, List.map_append]
  rfl

theorem getElem?_series {start : Time} {count n : Nat} {date : Time} :
    (series recurringFrequency start count)[n]? = some date ↔
      n < count ∧ occurrence recurringFrequency start n = date := by
  rw [List.getElem?_eq_some_iff]
  simp only [series, List.getElem_map, List.getElem_range, List.length_map, List.length_range,
    exists_prop]

/-! ### Order -/

theorem before_next (recurringFrequency : Option String) (date : Time) :
    date.before (calculateNextRecurringDate recurringFrequency date).date = true := by
  unfold calculateNextRecurringDate
  split
  · exact Time.before_date_addDate _ _ _ (by decide)
  · rw [Time.addDate_days]
    exact Time.before_date_addDays _ 0
  · rw [Time.addDate_days]
    exact Time.before_date_addDays _ 6
  · rw [Time.addDate_days]
    exact Time.before_date_addDays _ 13
  all_goals exact Time.before_date_addDate _ _ _ (by decide)

theorem occurrence_before (recurringFrequency : Option String) (start : Time) {n m : Nat}
    (less : n < m) :
    (occurrence recurringFrequency start n).before (occurrence recurringFrequency start m) =
      true := by
  induction less with
  | refl => exact before_next _ _
  | step _ ih => exact Time.before_trans ih (before_next _ _)

theorem series_increasing (recurringFrequency : Option String) (start : Time) (count : Nat) :
    (series recurringFrequency start count).Pairwise fun s t => s.before t = true := by
  rw [series, List.pairwise_map]
  exact List.pairwise_lt_range.imp fun less => occurrence_before _ _ less

/-! ### Months -/

theorem calculateNextRecurringDate_of_months
    (inMonths : monthsBetween recurringFrequency = some months) :
    ∃ years rest, 12 * years + rest = months ∧
      ∀ date, calculateNextRecurringDate recurringFrequency date = date.addDate years rest 0 := by
  unfold monthsBetween at inMonths
  split at inMonths <;> cases inMonths
  · exact ⟨0, 3, rfl, fun _ => rfl⟩
  · exact ⟨1, 0, rfl, fun _ => rfl⟩
  · refine ⟨0, 1, rfl, fun date => ?_⟩
    unfold calculateNextRecurringDate
    split <;> simp_all

theorem next_spec (inMonths : monthsBetween recurringFrequency = some months) (date : Time) :
    (date.day ≤ Time.monthDays (date.monthIndex + months) →
      (calculateNextRecurringDate recurringFrequency date).monthIndex = date.monthIndex + months ∧
        (calculateNextRecurringDate recurringFrequency date).day = date.day) ∧
    (Time.monthDays (date.monthIndex + months) < date.day →
      (calculateNextRecurringDate recurringFrequency date).monthIndex =
        date.monthIndex + months + 1) := by
  obtain ⟨years, rest, rfl, next⟩ := calculateNextRecurringDate_of_months inMonths
  rw [next]
  exact ⟨date.addDate_of_le years rest, fun short => (date.addDate_of_lt years rest short).1⟩

theorem occurrence_of_longEnough (inMonths : monthsBetween recurringFrequency = some months)
    {start : Time} {count n : Nat} (long : LongEnough months start count) (inside : n < count) :
    (occurrence recurringFrequency start n).monthIndex = start.monthIndex + (months * n : Nat) ∧
      (occurrence recurringFrequency start n).day = start.day := by
  induction n with
  | zero => simp [occurrence]
  | succ n ih =>
    obtain ⟨month, day⟩ := ih (by omega)
    have due : (occurrence recurringFrequency start n).monthIndex + months =
        start.monthIndex + (months * (n + 1) : Nat) := by
      rw [month, Nat.mul_succ]
      omega
    have enough := long (n + 1) inside
    obtain ⟨sameMonth, sameDay⟩ :=
      (next_spec inMonths (occurrence recurringFrequency start n)).1 (by rwa [due, day])
    rw [occurrence, Time.monthIndex_date, Time.day_date, sameMonth, sameDay]
    exact ⟨due, day⟩

theorem inDueMonths_series_iff (inMonths : monthsBetween recurringFrequency = some months)
    (start : Time) (count : Nat) :
    InDueMonths months start (series recurringFrequency start count) ↔
      LongEnough months start count := by
  constructor
  · intro meets
    induction count with
    | zero => exact fun n inside => absurd inside (by omega)
    | succ count ih =>
      have earlier : LongEnough months start count := by
        refine ih fun n date found => meets n date ?_
        obtain ⟨inside, same⟩ := getElem?_series.mp found
        exact getElem?_series.mpr ⟨by omega, same⟩
      intro n inside
      rcases Nat.lt_or_ge n count with before | last
      · exact earlier n before
      · obtain rfl : n = count := by omega
        cases n with
        | zero => simpa using start.day_le_monthDays
        | succ n =>
          -- the occurrence before it is still on the day of the start
          obtain ⟨month, day⟩ := occurrence_of_longEnough inMonths earlier (Nat.lt_succ_self n)
          have due : (occurrence recurringFrequency start n).monthIndex + months =
              start.monthIndex + (months * (n + 1) : Nat) := by
            rw [month, Nat.mul_succ]
            omega
          by_contra short
          have further := (next_spec inMonths (occurrence recurringFrequency start n)).2
            (by rw [due, day]; omega)
          have there := (meets (n + 1) _ (getElem?_series.mpr ⟨by omega, rfl⟩)).1
          rw [occurrence, Time.monthIndex_date, further, due] at there
          omega
  · intro long n date found
    obtain ⟨inside, rfl⟩ := getElem?_series.mp found
    obtain ⟨month, day⟩ := occurrence_of_longEnough inMonths long inside
    refine ⟨month, ?_⟩
    rw [day, Nat.min_eq_left (long n inside)]

end Series

/-! ## What one generation does -/

section Step

variable {g : Generation} {db db' : Database} {templateID : Uuid}

variable {env : Env}

theorem createEntry_transactions {index : Nat} {e : TransactionEntry}
    (created : createEntry env db index e = .ok db') : db'.transactions = db.transactions := by
  unfold createEntry at created
  split at created
  · cases created
  split at created
  · cases created
  split at created
  · cases created
  split at created
  · cases created
  split at created
  · cases created
  · next inserted =>
      obtain rfl := Except.ok.inj created
      obtain ⟨tenant, -, stored⟩ := bind_eq_ok_iff.mp inserted
      split at stored
      · cases stored
      · rw [← Except.ok.inj stored]

theorem storeEntries_transactions (index : Nat) (entries : List TransactionEntry) (db : Database) :
    (storeEntries g index entries db).1.transactions = db.transactions := by
  induction entries generalizing index db with
  | nil => rfl
  | cons e rest ih =>
    unfold storeEntries
    cases created : createEntry g.env db index e with
    | error err => rfl
    | ok db₁ => exact (ih (index + 1) db₁).trans (createEntry_transactions created)

/-- What a creation has checked and stored. -/
structure Stores (env : Env) (db : Database) (t stored row : Transaction) : Prop where
  fresh : db.transactions.get? stored.id = none
  date : stored.transactionDate = t.transactionDate
  unused : ∀ other ∈ db.transactions.rows, other.transactionNumber = t.transactionNumber →
    some other.tenantID ≠ env.caller.getTenantID
  id : row.id = stored.id
  number : row.transactionNumber = t.transactionNumber
  tenant : some row.tenantID = env.caller.getTenantID

theorem create_spec {t stored : Transaction} (created : db.create env t = .ok (db', stored)) :
    ∃ row, Stores env db t stored row ∧ db'.transactions = db.transactions.insert row := by
  obtain ⟨tenant, works, stores⟩ := bind_eq_ok_iff.mp created
  have caller := (Database.runs_eq_ok_iff.mp works).1
  split at stores
  · cases stores
  · next free =>
      split at stores
      · cases stores
      · next unused =>
          obtain ⟨rfl, rfl⟩ := Prod.mk.inj (Except.ok.inj stores)
          refine ⟨_, ?_, rfl⟩
          refine ⟨?_, rfl, ?_, rfl, rfl, caller.symm⟩
          · simpa using free
          · intro other member sameNumber sameTenant
            apply unused
            rw [List.any_eq_true]
            refine ⟨other, member, ?_⟩
            rw [caller, Option.some.injEq] at sameTenant
            simp [sameNumber, sameTenant]

theorem get?_cleanUp {id k : Uuid} (other : k ≠ id) :
    (cleanUp env db id).transactions.get? k = db.transactions.get? k := by
  unfold cleanUp
  cases deleted : db.delete env id with
  | error err => rfl
  | ok db₁ =>
    obtain ⟨tenant, -, removed⟩ := bind_eq_ok_iff.mp deleted
    split at removed
    · cases removed
    · split at removed
      · rw [← Except.ok.inj removed]
        exact Table.get?_remove.trans (if_neg other)
      · rw [← Except.ok.inj removed]
        rfl

/-- A failed storing leaves the database, or every header that there was. -/
theorem storeRecurring_error {t : Transaction} {entries : List TransactionEntry} {err : Error}
    (failed : storeRecurring g db t entries = (db', .error err)) :
    db' = db ∨ (∃ stored row, Stores g.env db t stored row) ∧
      ∀ k row, db.transactions.get? k = some row → db'.transactions.get? k = some row := by
  unfold storeRecurring at failed
  cases created : db.create g.env t with
  | error refusal =>
    rw [created] at failed
    exact .inl (Prod.mk.inj failed).1.symm
  | ok pair =>
    obtain ⟨db₁, stored⟩ := pair
    obtain ⟨new, stores, inserted⟩ := create_spec created
    have kept := storeEntries_transactions (g := g) 0 entries db₁
    rw [created] at failed
    simp only at failed
    generalize storeEntries g 0 entries db₁ = written at failed kept
    obtain ⟨db₂, - | refusal⟩ := written
    · cases (Prod.mk.inj failed).2
    · obtain ⟨rfl, -⟩ := Prod.mk.inj failed
      split
      · exact .inl rfl
      · refine .inr ⟨⟨stored, new, stores⟩, fun k row held => ?_⟩
        have other : k ≠ stored.id := by
          rintro rfl
          rw [stores.fresh] at held
          cases held
        rw [get?_cleanUp other, kept, inserted, Table.get?_insert_or, held]
        rfl

theorem storeRecurring_ok {t stored : Transaction} {entries : List TransactionEntry}
    (succeeded : storeRecurring g db t entries = (db', .ok stored)) :
    ∃ row, Stores g.env db t stored row ∧ db'.transactions = db.transactions.insert row := by
  unfold storeRecurring at succeeded
  cases created : db.create g.env t with
  | error refusal =>
    rw [created] at succeeded
    cases (Prod.mk.inj succeeded).2
  | ok pair =>
    obtain ⟨db₁, first⟩ := pair
    obtain ⟨new, stores, inserted⟩ := create_spec created
    have kept := storeEntries_transactions (g := g) 0 entries db₁
    rw [created] at succeeded
    simp only at succeeded
    generalize storeEntries g 0 entries db₁ = written at succeeded kept
    obtain ⟨db₂, - | refusal⟩ := written
    · obtain ⟨rfl, same⟩ := Prod.mk.inj succeeded
      obtain rfl := Except.ok.inj same
      exact ⟨new, stores, kept.trans inserted⟩
    · cases (Prod.mk.inj succeeded).2

def Taken (db : Database) (template : Transaction) (date : Time) : Prop :=
  ∃ row ∈ db.transactions.rows, row.transactionNumber = generatedNumber template date ∧
    row.tenantID = template.tenantID

/-- The template once a transaction has been generated for a date: it holds the next one, or
the number for the date it still holds is taken. -/
structure Advanced (db' : Database) (template t : Transaction) (date : Time) : Prop where
  frequency : t.recurringFrequency = template.recurringFrequency
  next : ∀ d, t.nextRecurringDate = some d →
    d = (calculateNextRecurringDate template.recurringFrequency date).date ∨
      d = date ∧ Taken db' t date

/-- The outcomes of `CreateRecurringTransaction`. -/
inductive Generated (db : Database) (template : Transaction) (date : Time) : Outcome → Prop where
  | found {t : Transaction} (known : (db.transactions.get? t.id).isSome = true) :
      Generated db template date (db, .ok t)
  | refused {err : Error} : Generated db template date (db, .error err)
  | abandoned {db' : Database} {err : Error} (unused : ¬Taken db template date)
      (kept : ∀ k row, db.transactions.get? k = some row → db'.transactions.get? k = some row) :
      Generated db template date (db', .error err)
  | stored {db' : Database} {t after : Transaction} (fresh : db.transactions.get? t.id = none)
      (dated : t.transactionDate = date) (unused : ¬Taken db template date)
      (held : db'.transactions.get? template.id = some after)
      (advanced : template.nextRecurringDate = some date → Advanced db' template after date) :
      Generated db template date (db', .ok t)

variable {date : Time}

theorem updateNextRecurringDate_spec {template : Transaction} {db' : Database}
    (held : db.transactions.get? template.id = some template) (taken : Taken db template date)
    (due : template.nextRecurringDate = some date)
    (written : (updateNextRecurringDate g db template.id (calculateNextRecurringDate
      template.recurringFrequency date)).toOption.getD db = db') :
    ∃ after, db'.transactions.get? template.id = some after ∧
      Advanced db' template after date := by
  have unchanged : Advanced db template template date := by
    refine ⟨rfl, fun d same => .inr ⟨?_, taken⟩⟩
    rw [due] at same
    exact (Option.some.inj same).symm
  subst written
  unfold updateNextRecurringDate
  split
  · exact ⟨template, held, unchanged⟩
  · next tenant caller =>
      split
      · exact ⟨template, held, unchanged⟩
      · split
        · exact ⟨template, held, unchanged⟩
        · next t selected =>
            obtain ⟨seen, -⟩ := Option.filter_eq_some_iff.mp selected
            have same := (Database.visible_eq_some_iff.mp seen).1
            rw [held] at same
            obtain rfl := Option.some.inj same
            refine ⟨_, Table.get?_put_self held, rfl, fun d stored => .inl ?_⟩
            have kept : ((some (calculateNextRecurringDate template.recurringFrequency date)).map
                Time.date).filter (!·.isZero) = some d := stored
            obtain ⟨same, -⟩ := Option.filter_eq_some_iff.mp kept
            exact (Option.some.inj same).symm

theorem getByNumber_known {number : String} {t : Transaction}
    (found : getByNumber g db number = .ok t) : (db.transactions.get? t.id).isSome = true := by
  unfold getByNumber at found
  split at found
  · cases found
  · split at found
    · cases found
    · split at found
      · cases found
      · next first =>
          obtain rfl := Except.ok.inj found
          have there := Table.get?_key_of_mem (List.mem_of_find?_eq_some first)
          rw [Transaction.key_eq] at there
          rw [there]
          rfl

/-- Where the header could be stored, its number was not in use. -/
theorem Stores.not_taken {template t stored row : Transaction}
    (stores : Stores g.env db t stored row)
    (number : t.transactionNumber = generatedNumber template date)
    (caller : g.env.caller.getTenantID = some template.tenantID) : ¬Taken db template date := by
  rintro ⟨other, member, sameNumber, sameTenant⟩
  refine stores.unused other member (sameNumber.trans number.symm) ?_
  rw [caller, sameTenant]

/-- Every outcome is one of these. -/
theorem createRecurringTransaction_cases {template : Transaction}
    (held : db.transactions.get? template.id = some template)
    (due : template.nextRecurringDate = some date) :
    Generated db template date (createRecurringTransaction g db template.id date) := by
  unfold createRecurringTransaction
  split
  · exact .refused
  next read found =>
  obtain ⟨tenant, works, seen⟩ := Database.getByID_eq_ok_iff.mp found
  obtain ⟨same, rfl⟩ := Database.visible_eq_some_iff.mp seen
  rw [held] at same
  obtain rfl := Option.some.inj same
  have caller := (Database.runs_eq_ok_iff.mp works).1
  split
  · exact .refused
  split
  · next existing known => exact .found (getByNumber_known known)
  split
  · exact .refused
  split
  · exact .refused
  split
  · next db₁ err failed =>
      rcases storeRecurring_error failed with rfl | ⟨⟨stored, row, stores⟩, kept⟩
      · exact .refused
      · exact .abandoned (stores.not_taken rfl caller) kept
  next db₁ stored succeeded =>
  obtain ⟨row, stores, inserted⟩ := storeRecurring_ok succeeded
  have rowFresh : db.transactions.get? (Keyed.key row) = none := by
    rw [Transaction.key_eq, stores.id]
    exact stores.fresh
  have stillHeld : db₁.transactions.get? template.id = some template := by
    rw [inserted, Table.get?_insert_or, held]
    rfl
  have taken : Taken db₁ template date := by
    refine ⟨row, ?_, stores.number, ?_⟩
    · rw [inserted, Table.rows_insert rowFresh]
      simp
    · have sameTenant := stores.tenant
      rw [caller] at sameTenant
      exact Option.some.inj sameTenant
  obtain ⟨after, afterHeld, advanced⟩ := updateNextRecurringDate_spec stillHeld taken due rfl
  exact .stored stores.fresh stores.date (stores.not_taken rfl caller) afterHeld fun _ => advanced

end Step

/-! ## Runs -/

/-- The template and the dates of a run that began on a date: the dates are those of the series,
and the template is due on the next of them unless the number for its date is taken. -/
structure Scheduled (frequency : Option String) (start : Time) (templateID : Uuid) (db : Database)
    (dates : List Time) : Prop where
  template : ∃ t, db.transactions.get? templateID = some t ∧ t.recurringFrequency = frequency ∧
    ∀ d, t.nextRecurringDate = some d →
      d = occurrence frequency start dates.length ∨ Taken db t d
  dates : dates = series frequency start dates.length

section Runs

variable {frequency : Option String} {start : Time} {templateID : Uuid} {db : Database}
  {dates : List Time}

theorem Scheduled.generateDue (scheduled : Scheduled frequency start templateID db dates)
    (g : Generation) :
    Scheduled frequency start templateID (generateDue g db templateID).1
      (dates ++ (RecurringTransactions.generateDue g db templateID).2) := by
  obtain ⟨⟨t, held, sameFrequency, next⟩, same⟩ := scheduled
  have unchanged : Scheduled frequency start templateID db (dates ++ []) := by
    rw [List.append_nil]
    exact ⟨⟨t, held, sameFrequency, next⟩, same⟩
  unfold RecurringTransactions.generateDue
  rw [held, Option.bind_some]
  cases due : t.nextRecurringDate with
  | none => exact unchanged
  | some date =>
    obtain rfl : t.id = templateID := Table.key_of_get? held
    have outcome := createRecurringTransaction_cases (g := g) held due
    simp only
    generalize createRecurringTransaction g db t.id date = result at outcome ⊢
    cases outcome with
    | found known =>
      simp only
      rw [if_neg (by simpa using Option.ne_none_iff_isSome.mpr known)]
      exact unchanged
    | refused => exact unchanged
    | abandoned unused kept =>
      simp only [List.append_nil]
      refine ⟨⟨t, kept _ _ held, sameFrequency, fun d stillDue => .inl ?_⟩, same⟩
      rcases next d stillDue with onSeries | taken
      · exact onSeries
      · rw [due] at stillDue
        obtain rfl := Option.some.inj stillDue
        exact absurd taken unused
    | @stored _ generated after fresh dated unused afterHeld advanced =>
      obtain rfl := (next date due).resolve_right unused
      simp only
      rw [if_pos (by rw [fresh]; rfl), dated]
      refine ⟨⟨after, afterHeld, ?_, fun d afterDue => ?_⟩, ?_⟩
      · rw [(advanced due).frequency, sameFrequency]
      · rcases (advanced due).next d afterDue with rfl | ⟨stillDue, taken⟩
        · rw [List.length_append, List.length_singleton, occurrence, sameFrequency]
          exact .inl rfl
        · rw [stillDue]
          exact .inr taken
      · rw [List.length_append, List.length_singleton, series_succ, ← same]

theorem Scheduled.generateAll (scheduled : Scheduled frequency start templateID db dates)
    (generations : List Generation) :
    Scheduled frequency start templateID (generateAll templateID generations db).1
      (dates ++ (RecurringTransactions.generateAll templateID generations db).2) := by
  induction generations generalizing db dates with
  | nil => simpa [RecurringTransactions.generateAll] using scheduled
  | cons g rest ih =>
    have later := ih (scheduled.generateDue g)
    rwa [List.append_assoc] at later

/-- Whatever calls fail, the dates of the transactions generated from a template that is due on a
date are the first of the series from that date. -/
theorem generateAll_dates {template : Transaction}
    (held : db.transactions.get? template.id = some template)
    (due : template.nextRecurringDate = some start) (generations : List Generation) :
    (generateAll template.id generations db).2 =
      series template.recurringFrequency start
        (generateAll template.id generations db).2.length := by
  have scheduled : Scheduled template.recurringFrequency start template.id db [] := by
    refine ⟨⟨template, held, rfl, fun d same => .inl ?_⟩, rfl⟩
    rw [due] at same
    exact (Option.some.inj same).symm
  exact (scheduled.generateAll generations).dates

end Runs

/--
The dates of every series are strictly increasing, and those of a frequency that counts in
months are in the months that are due, on the day of the start, exactly when each of these
months has that day.  The transactions that are generated from a template on the dates it
holds, whatever calls fail, are those of such a series.
-/
theorem occurrences_meet_iff (frequency : Option String) (start : Time) :
    (∀ count, (series frequency start count).Pairwise (fun s t => s.before t = true) ∧
      ∀ months, monthsBetween frequency = some months →
        (InDueMonths months start (series frequency start count) ↔
          LongEnough months start count)) ∧
    ∀ (db : Database) (template : Transaction) (generations : List Generation),
      db.transactions.get? template.id = some template →
      template.recurringFrequency = frequency → template.nextRecurringDate = some start →
      ∃ count, (generateAll template.id generations db).2 = series frequency start count := by
  constructor
  · intro count
    exact ⟨series_increasing frequency start count,
      fun months inMonths => inDueMonths_series_iff inMonths start count⟩
  · rintro db template generations held rfl due
    exact ⟨_, generateAll_dates held due generations⟩

/-! ## The end of January -/

/-- A monthly template without entries, due on the last of January. -/
def monthEndRent : Transaction :=
  { id := 1
    tenantID := 7
    transactionNumber := "RENT"
    transactionDate := ⟨2023, 1, 31, 0, by decide⟩
    description := "Office rent"
    currencyCode := "USD"
    exchangeRate := 1
    isRecurring := true
    recurringFrequency := some "MONTHLY"
    nextRecurringDate := some ⟨2023, 1, 31, 0, by decide⟩ }

def monthEndDatabase : Database :=
  { transactions := ⟨[monthEndRent], by decide⟩
    entries := []
    accounts := .empty
    periods := []
    balances := fun _ _ => none
    reversals := [] }

/-- Generations one after the other, with the identifiers that the database assigns. -/
def rounds : List Generation :=
  [2, 3, 4].map fun id =>
    { env := { caller := { tenantID := some 7 }, now := Time.zero, newID := id, assignedID := id } }

/-- Due at the end of January, the rent is next generated on the third of March, and then on the
third of April. -/
theorem monthEndRent_skips_february :
    (generateAll 1 rounds monthEndDatabase).2 =
      [⟨2023, 1, 31, 0, by decide⟩, ⟨2023, 3, 3, 0, by decide⟩, ⟨2023, 4, 3, 0, by decide⟩] ∧
    ¬InDueMonths 1 ⟨2023, 1, 31, 0, by decide⟩ (generateAll 1 rounds monthEndDatabase).2 := by
  have dates : (generateAll 1 rounds monthEndDatabase).2 =
      [⟨2023, 1, 31, 0, by decide⟩, ⟨2023, 3, 3, 0, by decide⟩, ⟨2023, 4, 3, 0, by decide⟩] := by
    decide +kernel
  rw [dates]
  refine ⟨rfl, fun meets => ?_⟩
  have second := (meets 1 ⟨2023, 3, 3, 0, by decide⟩ rfl).1
  revert second
  decide

/-- A year from the middle of January stays in the middle of the months; the rent from its end is
a series all the same. -/
theorem midMonth_stays :
    InDueMonths 1 ⟨2023, 1, 15, 0, by decide⟩
      (series (some "MONTHLY") ⟨2023, 1, 15, 0, by decide⟩ 12) ∧
    ∃ count, (generateAll 1 rounds monthEndDatabase).2 =
      series (some "MONTHLY") ⟨2023, 1, 31, 0, by decide⟩ count := by
  constructor
  · refine (((occurrences_meet_iff (some "MONTHLY") ⟨2023, 1, 15, 0, by decide⟩).1 12).2 1
      rfl).mpr fun n _ => ?_
    have enough := Time.twentyEight_le_monthDays
      (Time.monthIndex ⟨2023, 1, 15, 0, by decide⟩ + (1 * n : Nat))
    show 15 ≤ _
    omega
  · exact (occurrences_meet_iff (some "MONTHLY") ⟨2023, 1, 31, 0, by decide⟩).2 monthEndDatabase
      monthEndRent rounds (by decide) rfl rfl

end ErpFinance.Service.RecurringTransactions
