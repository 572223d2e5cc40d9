import ErpFinance.Domain.Types
import ErpFinance.Library.Table

/-!
# Transaction numbering

The in-memory numbering service: rules with a running sequence, numbers built
from a rule and a date, and reservations that are confirmed, released or left
to expire.  Calls happen one after another: each holds the service's lock, but
for the map write with which `ReserveTransactionNumber` ends.
-/

namespace ErpFinance.Service

open Domain Library

namespace TransactionNumbering

/-! ## Rules and reservations -/

/-- A request; the source reads neither its custom prefix nor its custom suffix. -/
structure GenerateNumberRequest where
  tenantID : Uuid
  entityID : Option Uuid := none
  transactionType : TransactionType
  transactionDate : Time
  series : Option String := none

inductive ResetFrequency where
  | never | daily | monthly | yearly | quarterly
deriving DecidableEq

structure NumberingRule where
  tenantID : Uuid := Uuid.Nil
  entityID : Option Uuid := none
  transactionType : TransactionType
  series : String
  rulePrefix : String
  dateFormat : Option String
  numberLength : Nat
  suffix : Option String := none
  resetFrequency : ResetFrequency
  startingNumber : Int := 1
  currentNumber : Int := 0
  updatedAt : Time

structure NumberReservation where
  tenantID : Uuid
  transactionNumber : String
  reservedBy : Uuid
  reservedAt : Time
  /-- As a count of nanoseconds. -/
  expiresAt : Int
  isConfirmed : Bool := false
  confirmedAt : Option Time := none

/--
The key of a rule.  The source joins the parts with colons; identifiers print
with one length, so only the type and the series can run into each other.
-/
abbrev RuleKey := Uuid × Option Uuid × String

def getRuleKey (tenantID : Uuid) (entityID : Option Uuid) (transactionType : TransactionType)
    (series : String) : RuleKey :=
  (tenantID, entityID, transactionType.string ++ ":" ++ series)

namespace NumberingRule

def ruleKey (rule : NumberingRule) : RuleKey :=
  getRuleKey rule.tenantID rule.entityID rule.transactionType rule.series

instance : Keyed NumberingRule RuleKey := ⟨NumberingRule.ruleKey⟩

@[simp] theorem key_eq (rule : NumberingRule) : Keyed.key rule = rule.ruleKey := rfl

end NumberingRule

instance : Keyed NumberReservation String := ⟨NumberReservation.transactionNumber⟩

@[simp] theorem NumberReservation.key_eq (r : NumberReservation) :
    Keyed.key r = r.transactionNumber := rfl

/--
The service's memory.  `handedOut` is no field of the source: it lists, for the
statements below, the numbers generated or confirmed so far with their tenant.
-/
structure Numbering where
  rules : Table NumberingRule
  reservations : Table NumberReservation
  handedOut : List (Uuid × String) := []

/-! ## Default rules -/

def getDefaultPrefix : TransactionType → String
  | .manual => "TXN"
  | .journalEntry => "JE"
  | .adjustment => "ADJ"
  | .system => "SYS"
  | .recurring => "REC"
  | .closing => "CLS"
  | .opening => "OPN"
  | _ => "TXN"

/-- A yearly rule with six digits, as most default rules are. -/
def yearlyRule (now : Time) (transactionType : TransactionType) (series rulePrefix : String) :
    NumberingRule :=
  { transactionType := transactionType
    series := series
    rulePrefix := rulePrefix
    dateFormat := some "YYYY"
    numberLength := 6
    resetFrequency := .yearly
    updatedAt := now }

def createDefaultRule (now : Time) (req : GenerateNumberRequest) (series : String) :
    NumberingRule :=
  { yearlyRule now req.transactionType series (getDefaultPrefix req.transactionType) with
    tenantID := req.tenantID
    entityID := req.entityID }

/-- `initializeDefaultRules`; these rules belong to the nil tenant. -/
def defaultRules (now : Time) : List NumberingRule :=
  [yearlyRule now .manual "MAIN" "TXN",
   yearlyRule now .journalEntry "MAIN" "JE",
   yearlyRule now .adjustment "MAIN" "ADJ",
   { transactionType := .system
     series := "MAIN"
     rulePrefix := "SYS"
     dateFormat := some "YYYYMMDD"
     numberLength := 4
     resetFrequency := .daily
     updatedAt := now }]

/-- `NewTransactionNumberingService`. -/
def newNumbering (now : Time) : Numbering where
  rules := ⟨defaultRules now,
    show ((defaultRules Time.zero).map Keyed.key).Nodup by decide⟩
  reservations := ⟨[], List.nodup_nil⟩

/-- `getNumberingRule`: the stored rule of a request, or a default one that gets stored. -/
def getNumberingRule (now : Time) (rules : Table NumberingRule) (req : GenerateNumberRequest) :
    NumberingRule × Table NumberingRule :=
  let series := req.series.getD "MAIN"
  match rules.get? (getRuleKey req.tenantID req.entityID req.transactionType series) with
  | some rule => (rule, rules)
  | none =>
    let rule := createDefaultRule now req series
    (rule, rules.insert rule)

/-! ## Resetting a sequence -/

def isSameDay (first second : Time) : Bool :=
  first.year = second.year && first.yearDay = second.yearDay

def isSameMonth (first second : Time) : Bool :=
  first.year = second.year && first.month = second.month

def getQuarter (t : Time) : Nat := (t.month - 1) / 3 + 1

/-- The comparison of `shouldResetSequence`, frequency by frequency. -/
def periodChanged (frequency : ResetFrequency) (updatedAt transactionDate : Time) : Bool :=
  match frequency with
  | .daily => !isSameDay updatedAt transactionDate
  | .monthly => !isSameMonth updatedAt transactionDate
  | .yearly => updatedAt.year ≠ transactionDate.year
  | .quarterly =>
    getQuarter updatedAt ≠ getQuarter transactionDate || updatedAt.year ≠ transactionDate.year
  | .never => false

def shouldResetSequence (rule : NumberingRule) (transactionDate : Time) : Bool :=
  periodChanged rule.resetFrequency rule.updatedAt transactionDate

/-! ## Numbers -/

/-- `fmt.Sprintf("%0*d", width, n)`. -/
def zeroPadded (width : Nat) (n : Int) : String := String.ofList (paddedInt width n)

/-- `strconv.Itoa`. -/
def itoa (n : Int) : String := zeroPadded 0 n

def formatDate (format : String) (date : Time) : String :=
  if format = "YYYY" then itoa date.year
  else if format = "YY" then zeroPadded 2 (date.year.tmod 100)
  else if format = "YYYYMM" then zeroPadded 4 date.year ++ zeroPadded 2 date.month
  else if format = "YYYYMMDD" then
    zeroPadded 4 date.year ++ zeroPadded 2 date.month ++ zeroPadded 2 date.day
  else if format = "MM" then zeroPadded 2 date.month
  else if format = "DD" then zeroPadded 2 date.day
  else if format = "QQ" then "Q" ++ itoa (getQuarter date)
  else itoa date.year

def formatTransactionNumber (rule : NumberingRule) (transactionDate : Time) : String :=
  "-".intercalate
    ((if rule.rulePrefix ≠ "" then [rule.rulePrefix] else []) ++
      (rule.dateFormat.map (formatDate · transactionDate)).toList ++
      [zeroPadded rule.numberLength rule.currentNumber] ++ rule.suffix.toList)

def isNumberExists (s : Numbering) (number : String) : Bool :=
  (s.reservations.get? number).isSome

/-! ## Calls -/

/-- A rule whose sequence is reset when its last update falls in another period. -/
def resetRule (now : Time) (rule : NumberingRule) (transactionDate : Time) : NumberingRule :=
  if shouldResetSequence rule transactionDate then
    { rule with currentNumber := int64 (rule.startingNumber - 1), updatedAt := now }
  else rule

def drawNumber (now : Time) (rule : NumberingRule) (transactionDate : Time) : NumberingRule :=
  let reset := resetRule now rule transactionDate
  { reset with currentNumber := int64 (reset.currentNumber + 1), updatedAt := now }

def generateTransactionNumber (now : Time) (s : Numbering) (req : GenerateNumberRequest) :
    Numbering × Except String String :=
  let (rule, rules) := getNumberingRule now s.rules req
  let drawn := drawNumber now rule req.transactionDate
  let number := formatTransactionNumber drawn req.transactionDate
  let after := { s with rules := rules.put drawn }
  if isNumberExists s number then
    (after, .error ("generated number " ++ number ++ " already exists"))
  else (after, .ok number)

def reservationLife : Int := 30 * 60 * 1000000000

/-- `ReserveTransactionNumber`; `reservedBy` is the caller or a fallback. -/
def reserveTransactionNumber (now : Time) (reservedBy : Uuid) (s : Numbering)
    (req : GenerateNumberRequest) : Numbering × Except String String :=
  match generateTransactionNumber now s req with
  | (after, .error err) => (after, .error err)
  | (after, .ok number) =>
    let reservation : NumberReservation :=
      { tenantID := req.tenantID
        transactionNumber := number
        reservedBy := reservedBy
        reservedAt := now
        expiresAt := now.instant + reservationLife }
    ({ after with reservations := after.reservations.insert reservation }, .ok number)

def confirmTransactionNumber (now : Time) (s : Numbering) (number : String) :
    Numbering × Except String Unit :=
  match s.reservations.get? number with
  | none => (s, .error ("reservation not found for number " ++ number))
  | some reservation =>
    if reservation.isConfirmed then
      (s, .error ("number " ++ number ++ " is already confirmed"))
    else if reservation.expiresAt < now.instant then
      ({ s with reservations := s.reservations.remove number },
        .error ("reservation for number " ++ number ++ " has expired"))
    else
      ({ s with
          reservations := s.reservations.put
            { reservation with isConfirmed := true, confirmedAt := some now }
          handedOut := s.handedOut ++ [(reservation.tenantID, number)] }, .ok ())

def releaseTransactionNumber (s : Numbering) (number : String) : Numbering × Except String Unit :=
  match s.reservations.get? number with
  | none => (s, .error ("reservation not found for number " ++ number))
  | some reservation =>
    if reservation.isConfirmed then
      (s, .error ("cannot release confirmed number " ++ number))
    else ({ s with reservations := s.reservations.remove number }, .ok ())

/-! ## Operations -/

inductive Operation where
  | generate (now : Time) (req : GenerateNumberRequest)
  | reserve (now : Time) (reservedBy : Uuid) (req : GenerateNumberRequest)
  | confirm (now : Time) (number : String)
  | release (number : String)

def handed (s : Numbering) : Operation → Option String
  | .generate now req => (generateTransactionNumber now s req).2.toOption
  | .reserve now reservedBy req => (reserveTransactionNumber now reservedBy s req).2.toOption
  | .confirm _ _ => none
  | .release _ => none

def step (s : Numbering) : Operation → Numbering
  | .generate now req =>
    match generateTransactionNumber now s req with
    | (after, .ok number) =>
      { after with handedOut := after.handedOut ++ [(req.tenantID, number)] }
    | (after, .error _) => after
  | .reserve now reservedBy req => (reserveTransactionNumber now reservedBy s req).1
  | .confirm now number => (confirmTransactionNumber now s number).1
  | .release number => (releaseTransactionNumber s number).1

end TransactionNumbering

end ErpFinance.Service
