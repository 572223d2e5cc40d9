import ErpFinance.Service.PostingPaths

/-!
# What creating a transaction makes of its request

A request whose entries all have a rate is turned into entries without one, which
the entry service refuses.  So no request is ever turned into a transaction.
-/

namespace ErpFinance.Service.TransactionService

open Domain Library Repository

/-! ## What is asked for -/

structure KeepsEntry (request : CreateEntryRequest) (e : TransactionEntry) : Prop where
  accountID : e.accountID = request.accountID
  amounts : e.debitAmount = request.debitAmount ∧ e.creditAmount = request.creditAmount
  currency : e.originalCurrency = request.originalCurrency ∧
    e.originalAmount = request.originalAmount ∧ e.exchangeRate = request.exchangeRate
  tax : e.taxCode = request.taxCode ∧ e.taxRate = request.taxRate ∧
    e.taxAmount = request.taxAmount
  costCenter : e.costCenter = request.costCenter

/-- A stored transaction whose entries are those of the request, under its own identifier, and
whose totals are their sums. -/
structure StoredAs (db : Database) (req : CreateTransactionRequest) (t : Transaction) : Prop where
  header : db.transactions.get? t.id = some t
  number : t.transactionNumber = req.transactionNumber
  entries : List.Forall₂ KeepsEntry req.entries
    (db.entries.filter fun e => e.transactionID = t.id)
  totals : t.totalDebitAmount = (req.entries.map CreateEntryRequest.debitAmount).sum ∧
    t.totalCreditAmount = (req.entries.map CreateEntryRequest.creditAmount).sum

/-- The creation succeeds and stores what the request says. -/
def CreatesAsRequested (cfg : Config) (env : Env) (db : Database)
    (req : CreateTransactionRequest) : Prop :=
  ∃ t, (createTransaction cfg env db req).2 = .ok t ∧
    StoredAs (createTransaction cfg env db req).1 req t

/-! ## The entries are refused -/

variable {e : TransactionEntry}

/-- An accepted entry has a positive rate. -/
theorem exchangeRate_pos_of_validate (valid : e.validate = []) :
    0 < e.exchangeRate := by
  unfold TransactionEntry.validate at valid
  simp only [List.append_eq_nil_iff, check_eq_nil] at valid
  obtain ⟨⟨⟨⟨⟨⟨⟨⟨-, rate⟩, -⟩, -⟩, -⟩, -⟩, -⟩, -⟩, -⟩ := valid
  simpa using rate

variable {cfg : Config} {env : Env} {db : Database}

theorem entryFindings_ne_nil (noRate : e.exchangeRate = 0) :
    entryFindings env db e ≠ [] := by
  have refused : e.validate ≠ [] := fun valid =>
    absurd (exchangeRate_pos_of_validate valid) (by rw [noRate]; exact lt_irrefl 0)
  rw [entryFindings, if_pos refused]
  exact refused

/-- One entry without a rate refuses them all, and nothing is stored. -/
theorem createEntries_of_noRate {entries : List TransactionEntry} (member : e ∈ entries)
    (noRate : e.exchangeRate = 0) :
    createEntries env db entries =
      (db, some (.business "VALIDATION_ERROR" "Bulk entry validation failed")) := by
  have findings : entries.flatMap (entryFindings env db) ≠ [] := fun silent =>
    entryFindings_ne_nil noRate (List.flatMap_eq_nil_iff.mp silent e member)
  rw [createEntries, if_neg (List.ne_nil_of_mem member), if_pos findings]

/-- The entries of a request have no rate, whatever rates it names. -/
theorem exchangeRate_of_mem_newEntries {tenant : Uuid} {req : CreateTransactionRequest}
    (member : e ∈ newEntries env tenant req) : e.exchangeRate = 0 := by
  obtain ⟨indexed, -, rfl⟩ := List.mem_map.mp member
  rfl

/-! ## No creation succeeds -/

/-- Entries without a rate are never stored: what is left is the database, or with a failed
clean-up the header alone. -/
theorem storeTransaction_refuses {t : Transaction} {entries : List TransactionEntry}
    (member : e ∈ entries) (noRate : e.exchangeRate = 0) :
    ∃ err, (storeTransaction cfg env db t entries).2 = .error err := by
  unfold storeTransaction
  split
  · exact ⟨_, rfl⟩
  · rw [if_neg (List.ne_nil_of_mem member), createEntries_of_noRate member noRate]
    exact ⟨_, rfl⟩

theorem two_le_length_of_validate {req : CreateTransactionRequest} (valid : req.validate = []) :
    2 ≤ req.entries.length := by
  simp only [CreateTransactionRequest.validate, List.append_eq_nil_iff, check_eq_nil] at valid
  obtain ⟨⟨⟨⟨-, entries⟩, -⟩, -⟩, -⟩ := valid
  exact Nat.le_of_not_lt (by simpa only [decide_eq_false_iff_not] using entries)

theorem createTransaction_refuses (cfg : Config) (env : Env) (db : Database)
    (req : CreateTransactionRequest) :
    ∃ err, (createTransaction cfg env db req).2 = .error err := by
  unfold createTransaction
  split
  · exact ⟨_, rfl⟩
  · split
    · exact ⟨_, rfl⟩
    · next accepted =>
        split
        · exact ⟨_, rfl⟩
        · exact ⟨_, rfl⟩
        · split
          · exact ⟨_, rfl⟩
          · next tenant _ =>
              have two := two_le_length_of_validate (not_not.mp accepted)
              have length : (newEntries env tenant req).length = req.entries.length := by
                simp [newEntries]
              obtain ⟨e, member⟩ := List.exists_mem_of_length_pos
                (show 0 < (newEntries env tenant req).length by omega)
              exact storeTransaction_refuses member (exchangeRate_of_mem_newEntries member)

/-- No request, whatever its accounts, is created as it says. -/
theorem never_createsAsRequested (cfg : Config) (env : Env) (db : Database)
    (req : CreateTransactionRequest) : ¬CreatesAsRequested cfg env db req := by
  rintro ⟨t, created, -⟩
  obtain ⟨err, refused⟩ := createTransaction_refuses cfg env db req
  rw [refused] at created
  cases created

/-! ## The sample rent -/

def rentRequest : CreateTransactionRequest :=
  { transactionNumber := "TXN-2024-000002"
    transactionType := .manual
    transactionDate := ⟨2024, 5, 8, 0, by decide⟩
    description := "Office rent May"
    currencyCode := "USD"
    exchangeRate := 1
    entries :=
      [{ accountID := 11, debitAmount := 100, description := "Office rent", exchangeRate := 1 },
       { accountID := 12, creditAmount := 100, description := "Office rent", exchangeRate := 1 }] }

/-- The request is valid and its accounts are open, and still it is refused. -/
theorem rentRequest_refused :
    rentRequest.validate = [] ∧
      (∀ r ∈ rentRequest.entries, ∃ account,
        postedRentDatabase.accounts.get? r.accountID = some account ∧
          account.canAcceptTransactions = true ∧ account.allowManualEntries = true) ∧
      (createTransaction {} { rentCaller with newID := 5, assignedID := 6 } postedRentDatabase
        rentRequest).2 = .error (.wrapped "create entries"
          (.business "VALIDATION_ERROR" "Bulk entry validation failed")) := by
  refine ⟨by decide +kernel, ?_, by decide +kernel⟩
  intro r member
  simp only [rentRequest, List.mem_cons, List.not_mem_nil, or_false] at member
  rcases member with rfl | rfl
  · exact ⟨openAccount 11 .debit, by decide +kernel, by decide, by decide⟩
  · exact ⟨openAccount 12 .credit, by decide +kernel, by decide, by decide⟩

end ErpFinance.Service.TransactionService
