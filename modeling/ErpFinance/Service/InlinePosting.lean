import ErpFinance.Service.PostingPaths

/-!
# Failed and dated inline postings

What the inline `PostTransaction` leaves when it returns an error, and which day
it records when it succeeds.  A draft is approved before it is checked, the header
is read again after it was written, and the day that is written is the clock's,
not the one whose period was looked up.
-/

namespace ErpFinance.Service.TransactionService

open Domain Library Repository Repository.Database

variable {cfg : Config} {env : Env} {db : Database} {id : Uuid} {t : Transaction}
variable {date : Option Time}

/-! ## What is claimed of a call -/

/-- The two statuses stored under an identifier. -/
def statusesOf (db : Database) (id : Uuid) : Option (TransactionStatus × ApprovalStatus) :=
  (db.transactions.get? id).map fun t => (t.transactionStatus, t.approvalStatus)

/-- Every stored status, approval status and balance is as it was. -/
structure Unharmed (before after : Database) : Prop where
  statuses : ∀ id, statusesOf after id = statusesOf before id
  accounts : after.accounts = before.accounts
  balances : after.balances = before.balances

theorem Unharmed.refl (db : Database) : Unharmed db db := ⟨fun _ => rfl, rfl, rfl⟩

/-- The days of a period, as the lookup compares them. -/
def Covers (period : AccountingPeriod) (day : Time) : Prop :=
  day.date.before period.startDate.date = false ∧ period.endDate.date.before day.date = false

/-- A draft that the path approves by itself: no approval required, and still one pending. -/
structure ApprovesItself (env : Env) (t : Transaction) : Prop where
  draft : t.transactionStatus = .draft
  notRequired : t.approvalRequired = false
  pending : t.approvalStatus = .pending
  works : env.fails .approve = false

/-- The header that the write selects, the caller and the write work. -/
structure Writes (cfg : Config) (env : Env) (db : Database) (t : Transaction)
    (date : Option Time) : Prop where
  approved : t.transactionStatus = .approved
  accepts : InlineAccepts cfg env db t date
  user : env.caller.userID.isSome = true
  works : env.fails .post = false

/-- The inputs on which the path keeps to what is claimed of it. -/
structure Sound (cfg : Config) (env : Env) (db : Database) (t : Transaction)
    (date : Option Time) : Prop where
  self : ¬ApprovesItself env t
  read : Writes cfg env db t date → env.fails .reload = false
  day : Writes cfg env db t date → cfg.periodRepo = true →
    ∀ period, db.getPeriodForDate env (date.getD env.now) = .ok period → Covers period env.now.date

def approvedRent : Transaction :=
  { Transaction.rentDraft with transactionStatus := .approved, approvedBy := some 22 }

end ErpFinance.Service.TransactionService
