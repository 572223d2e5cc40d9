import ErpFinance.Domain.Types
import ErpFinance.Library.Except
import ErpFinance.Library.Rounding
import ErpFinance.Library.Table
import ErpFinance.Library.Text

/-!
# Tax codes and their brackets

The update of a tax code is three repository calls, each a transaction of its
own: the code is written, its brackets are deleted and the requested ones are
created, all of them or none.  A refusal in a later call does not take back what
the earlier ones have written.
-/

namespace ErpFinance.Domain

open Library

/-! ## The tax code -/

def taxTypeCodes : List String :=
  ["VAT", "GST", "WHT", "PAYE", "NSSF", "NHIF", "SHIF", "SDL", "NITA", "EXCISE", "CUSTOMS", "CIT"]

inductive TaxType where
  | vat | gst | wht | paye | nssf | nhif | shif | sdl | nita | excise | customs | cit
  | other (code : String) (unknown : code ∉ taxTypeCodes)
deriving DecidableEq

namespace TaxType

def string : TaxType → String
  | vat => "VAT"
  | gst => "GST"
  | wht => "WHT"
  | paye => "PAYE"
  | nssf => "NSSF"
  | nhif => "NHIF"
  | shif => "SHIF"
  | sdl => "SDL"
  | nita => "NITA"
  | excise => "EXCISE"
  | customs => "CUSTOMS"
  | cit => "CIT"
  | other code _ => code

def isValid : TaxType → Bool
  | other _ _ => false
  | _ => true

end TaxType

inductive TaxCalculationMethod where
  | percentage | fixedAmount | progressive | lookupTable
  | other (code : String)
      (unknown : code ∉ ["PERCENTAGE", "FIXED_AMOUNT", "PROGRESSIVE", "LOOKUP_TABLE"])
deriving DecidableEq

namespace TaxCalculationMethod

def string : TaxCalculationMethod → String
  | percentage => "PERCENTAGE"
  | fixedAmount => "FIXED_AMOUNT"
  | progressive => "PROGRESSIVE"
  | lookupTable => "LOOKUP_TABLE"
  | other code _ => code

def isValid : TaxCalculationMethod → Bool
  | other _ _ => false
  | _ => true

end TaxCalculationMethod

structure TaxBracket where
  id : Uuid := Uuid.Nil
  taxCodeID : Uuid := Uuid.Nil
  bracketNumber : Int
  minimumAmount : Decimal
  maximumAmount : Option Decimal := none
  taxRate : Decimal
  marginalCalculation : Bool := true
  createdAt : Time := Time.zero
deriving DecidableEq

structure TaxCode where
  id : Uuid
  tenantID : Uuid := Uuid.Nil
  code : String := ""
  name : String
  description : String := ""
  taxType : TaxType := .vat
  taxCategory : String := "standard"
  taxAuthorityID : Uuid := Uuid.Nil
  calculationMethod : TaxCalculationMethod
  taxRate : Decimal
  compoundTax : Bool := false
  cascadeOrder : Int := 0
  effectiveDate : Time
  expiryDate : Option Time := none
  minimumAmount : Option Decimal := none
  maximumAmount : Option Decimal := none
  taxPayableAccountID : Option Uuid := none
  taxExpenseAccountID : Option Uuid := none
  taxReceivableAccountID : Option Uuid := none
  reportingCode : String := ""
  returnLineNumber : String := ""
  isActive : Bool := true
  isDefault : Bool := false
  brackets : List TaxBracket := []
  createdAt : Time := Time.zero
  updatedAt : Time := Time.zero
  createdBy : Uuid := Uuid.Nil
  updatedBy : Option Uuid := none
deriving DecidableEq

/-- `TaxCode.Validate`. -/
def TaxCode.validate (tc : TaxCode) : List ValidationError :=
  check (tc.tenantID = Uuid.Nil)
    { field := "tenant_id", message := "tenant_id is required", code := "REQUIRED_FIELD"
      severity := "ERROR" } ++
  check (trimSpace tc.code = "")
    { field := "code", message := "tax code is required", code := "REQUIRED_FIELD"
      severity := "ERROR" } ++
  check (trimSpace tc.name = "")
    { field := "name", message := "tax name is required", code := "REQUIRED_FIELD"
      severity := "ERROR" } ++
  check (!tc.taxType.isValid)
    { field := "tax_type", message := "invalid tax type: " ++ tc.taxType.string
      code := "INVALID_VALUE", severity := "ERROR" } ++
  check (!tc.calculationMethod.isValid)
    { field := "calculation_method"
      message := "invalid calculation method: " ++ tc.calculationMethod.string
      code := "INVALID_VALUE", severity := "ERROR" } ++
  check (tc.taxAuthorityID = Uuid.Nil)
    { field := "tax_authority_id", message := "tax_authority_id is required"
      code := "REQUIRED_FIELD", severity := "ERROR" } ++
  check (tc.taxRate < 0)
    { field := "tax_rate", message := "tax_rate cannot be negative"
      code := "VALUE_OUT_OF_RANGE", severity := "ERROR" } ++
  check tc.effectiveDate.isZero
    { field := "effective_date", message := "effective_date is required"
      code := "REQUIRED_FIELD", severity := "ERROR" }

end ErpFinance.Domain

namespace ErpFinance.Service.TaxCodes

open Domain Library

/-! ## The tables -/

/-- A row of `finance_tax_codes`. -/
structure TaxCodeRow where
  id : Uuid
  tenantID : Uuid
  code : String
  name : String
  description : Option String := none
  taxType : TaxType
  taxCategory : String := "standard"
  taxAuthorityID : Uuid
  calculationMethod : TaxCalculationMethod
  taxRate : Decimal := 0
  compoundTax : Bool := false
  cascadeOrder : Int := 0
  effectiveDate : Time
  expiryDate : Option Time := none
  minimumAmount : Option Decimal := none
  maximumAmount : Option Decimal := none
  taxPayableAccountID : Option Uuid := none
  taxExpenseAccountID : Option Uuid := none
  taxReceivableAccountID : Option Uuid := none
  reportingCode : Option String := none
  returnLineNumber : Option String := none
  isActive : Bool := true
  isDefault : Bool := false
  createdAt : Time
  updatedAt : Time
  createdBy : Option Uuid := none
  updatedBy : Option Uuid := none

instance : Keyed TaxCodeRow Uuid := ⟨TaxCodeRow.id⟩

/-- `finance_tax_codes` and `finance_tax_brackets`. -/
structure Database where
  codes : Table TaxCodeRow
  brackets : List TaxBracket

def Database.bracketsOf (db : Database) (id : Uuid) : List TaxBracket :=
  db.brackets.filter (·.taxCodeID = id)

/-- Why the tables or the driver refuse a value. -/
inductive Refusal where
  | null (column : String)
  | invalidText (column : String)
  | tooLong (column : String)
  | outOfRange (column : String)
  | check (column : String)
  | duplicateBracket (number : Int)
  | noTaxCode
deriving DecidableEq

def text (column value : String) : Except Refusal String :=
  if '\x00' ∈ value.toList then .error (.invalidText column) else .ok value

/-- A column of type `VARCHAR(n)`: only blanks are cut off. -/
def varchar (column : String) (limit : Nat) (value : String) : Except Refusal String := do
  let value ← text column value
  if value.length ≤ limit then return value
  else if (value.toList.drop limit).all (· = ' ') then
    return String.ofList (value.toList.take limit)
  else throw (.tooLong column)

/-- A column of type `INT`. -/
def int4 (column : String) (value : Int) : Except Refusal Int :=
  if -2 ^ 31 ≤ value ∧ value < 2 ^ 31 then .ok value else .error (.outOfRange column)

/-- The last decimal place of a scale. -/
def unit (scale : Nat) : Decimal := ((10 : ℚ) ^ scale)⁻¹

/-- A column of type `NUMERIC(p,s)`: rounded to its scale, half away from zero. -/
def numeric (column : String) (precision scale : Nat) (value : Decimal) :
    Except Refusal Decimal :=
  if |awayTo (unit scale) value| < 10 ^ (precision - scale) then .ok (awayTo (unit scale) value)
  else .error (.outOfRange column)

/-- `tax_rate NUMERIC(10,6) CHECK (tax_rate >= 0)`. -/
def rateColumn (value : Decimal) : Except Refusal Decimal := do
  let rate ← numeric "tax_rate" 10 6 value
  if rate < 0 then throw (.check "tax_rate") else return rate

/-- The `CHECK` of `calculation_method`. -/
def methodColumn (value : TaxCalculationMethod) : Except Refusal TaxCalculationMethod :=
  if value.isValid then .ok value else .error (.check "calculation_method")

/-! ## The store -/

/-- The repository calls of the update. -/
inductive Call where
  | getTaxCodeByID | updateTaxCode | deleteBrackets | createBrackets

/-- The caller, the store and what goes wrong in it. -/
structure Env where
  tenantID : Option Uuid
  /-- Whether the store hands its callbacks a `TxStore`. -/
  txStore : Bool := true
  /-- The transaction of a call breaks, with an error text. -/
  fails : Call → Option String := fun _ => none
  /-- How the driver words a refusal. -/
  report : Refusal → String
  now : Call → Time
  /-- `gen_random_uuid()` of the rows of an insert. -/
  newID : Nat → Uuid

inductive RepositoryError where
  | taxAuthorityNotFound | taxAuthorityExists | taxCodeNotFound | taxCodeExists
  | other (text : String)

namespace TaxRepository

/-- `WithTenant` and `txFrom`: the changes of the body are kept when it succeeds. -/
def withTenant {α : Type} (env : Env) (call : Call) (db : Database)
    (body : Uuid → Except RepositoryError (Database × α)) :
    Database × Except RepositoryError α :=
  match env.tenantID with
  | none => (db, .error (.other "tenant ID not found in context"))
  | some tenant =>
    if !env.txStore then
      (db, .error (.other ("finance repository: store is not a TxStore — " ++
        "must be called inside a WithTenant callback")))
    else match env.fails call with
      | some text => (db, .error (.other text))
      | none =>
        match body tenant with
        | .error err => (db, .error err)
        | .ok (written, result) => (written, .ok result)

/-- The row of an identifier, as far as the tenant sees it. -/
def visible (db : Database) (tenant id : Uuid) : Option TaxCodeRow :=
  (db.codes.get? id).filter (·.tenantID = tenant)

/-- Scanning into a `string`. -/
def scanText (column : String) : Option String → Except Refusal String
  | none => .error (.null column)
  | some value => .ok value

def scanTaxCode (row : TaxCodeRow) : Except Refusal TaxCode := do
  let description ← scanText "description" row.description
  let reportingCode ← scanText "reporting_code" row.reportingCode
  let returnLineNumber ← scanText "return_line_number" row.returnLineNumber
  return {
    id := row.id, tenantID := row.tenantID, code := row.code, name := row.name
    description, taxType := row.taxType, taxCategory := row.taxCategory
    taxAuthorityID := row.taxAuthorityID, calculationMethod := row.calculationMethod
    taxRate := row.taxRate, compoundTax := row.compoundTax, cascadeOrder := row.cascadeOrder
    effectiveDate := row.effectiveDate, expiryDate := row.expiryDate
    minimumAmount := row.minimumAmount, maximumAmount := row.maximumAmount
    taxPayableAccountID := row.taxPayableAccountID
    taxExpenseAccountID := row.taxExpenseAccountID
    taxReceivableAccountID := row.taxReceivableAccountID
    reportingCode, returnLineNumber, isActive := row.isActive, isDefault := row.isDefault
    createdAt := row.createdAt, updatedAt := row.updatedAt
    createdBy := row.createdBy.getD Uuid.Nil, updatedBy := row.updatedBy }

def getTaxCodeByID (env : Env) (db : Database) (id : Uuid) : Except RepositoryError TaxCode :=
  (withTenant env .getTaxCodeByID db fun tenant =>
    match visible db tenant id with
    | none => .error .taxCodeNotFound
    | some row =>
      match scanTaxCode row with
      | .error refusal => .error (.other ("get tax code: " ++ env.report refusal))
      | .ok tc => .ok (db, tc)).2

def nullString (value : String) : Option String := if value = "" then none else some value

/-- The `SET` list of the update. -/
def assign (env : Env) (tc : TaxCode) (row : TaxCodeRow) : Except Refusal TaxCodeRow := do
  let name ← varchar "name" 255 tc.name
  let description ← (nullString tc.description).mapM (text "description")
  let taxCategory ← varchar "tax_category" 30 tc.taxCategory
  let calculationMethod ← methodColumn tc.calculationMethod
  let taxRate ← rateColumn tc.taxRate
  let cascadeOrder ← int4 "cascade_order" tc.cascadeOrder
  let minimumAmount ← tc.minimumAmount.mapM (numeric "minimum_amount" 18 4)
  let maximumAmount ← tc.maximumAmount.mapM (numeric "maximum_amount" 18 4)
  let reportingCode ← (nullString tc.reportingCode).mapM (varchar "reporting_code" 50)
  let returnLineNumber ← (nullString tc.returnLineNumber).mapM (varchar "return_line_number" 20)
  return { row with
    name, description, taxCategory, calculationMethod, taxRate
    compoundTax := tc.compoundTax, cascadeOrder, effectiveDate := tc.effectiveDate.date
    expiryDate := tc.expiryDate.map Time.date, minimumAmount, maximumAmount
    taxPayableAccountID := tc.taxPayableAccountID
    taxExpenseAccountID := tc.taxExpenseAccountID
    taxReceivableAccountID := tc.taxReceivableAccountID
    reportingCode, returnLineNumber, isActive := tc.isActive, isDefault := tc.isDefault
    updatedAt := env.now .updateTaxCode, updatedBy := tc.updatedBy }

/-- The result is the new `updated_at`. -/
def updateTaxCode (env : Env) (db : Database) (tc : TaxCode) :
    Database × Except RepositoryError Time :=
  withTenant env .updateTaxCode db fun tenant =>
    match visible db tenant tc.id with
    | none => .error (.other "no rows in result set")
    | some row =>
      match assign env tc row with
      | .error refusal => .error (.other (env.report refusal))
      | .ok written => .ok ({ db with codes := db.codes.put written }, written.updatedAt)

def deleteBrackets (env : Env) (db : Database) (taxCodeID : Uuid) :
    Database × Except RepositoryError Unit :=
  withTenant env .deleteBrackets db fun _ =>
    .ok ({ db with brackets := db.brackets.filter (·.taxCodeID ≠ taxCodeID) }, ())

/-- What an insert gives back to the caller's bracket. -/
def stamp (env : Env) (taxCodeID : Uuid) (index : Nat) (b : TaxBracket) : TaxBracket :=
  { b with id := env.newID index, taxCodeID, createdAt := env.now .createBrackets }

def storeBracket (env : Env) (taxCodeID : Uuid) (index : Nat) (b : TaxBracket) :
    Except Refusal TaxBracket := do
  let bracketNumber ← int4 "bracket_number" b.bracketNumber
  let minimumAmount ← numeric "minimum_amount" 18 4 b.minimumAmount
  let maximumAmount ← b.maximumAmount.mapM (numeric "maximum_amount" 18 4)
  let taxRate ← rateColumn b.taxRate
  return { stamp env taxCodeID index b with bracketNumber, minimumAmount, maximumAmount, taxRate }

/-- One `INSERT`, with the constraint `uq_tax_bracket` and the reference to the tax code. -/
def insertBracket (env : Env) (codes : Table TaxCodeRow) (taxCodeID : Uuid) (index : Nat)
    (rows : List TaxBracket) (b : TaxBracket) : Except Refusal (List TaxBracket) := do
  let row ← storeBracket env taxCodeID index b
  if rows.any (fun r => r.taxCodeID = taxCodeID && r.bracketNumber = row.bracketNumber) then
    throw (.duplicateBracket row.bracketNumber)
  else if (codes.get? taxCodeID).isNone then throw .noTaxCode
  else return rows ++ [row]

/-- The loop of `CreateBrackets`: the table and the caller's brackets. -/
def insertBrackets (env : Env) (codes : Table TaxCodeRow) (taxCodeID : Uuid) :
    Nat → List TaxBracket → List TaxBracket →
      Except RepositoryError (List TaxBracket × List TaxBracket)
  | _, rows, [] => .ok (rows, [])
  | index, rows, b :: rest =>
    match insertBracket env codes taxCodeID index rows b with
    | .error refusal => .error (.other ("insert tax bracket " ++ toString b.bracketNumber ++
        ": " ++ env.report refusal))
    | .ok rows => (insertBrackets env codes taxCodeID (index + 1) rows rest).map
        fun result => (result.1, stamp env taxCodeID index b :: result.2)

def createBrackets (env : Env) (db : Database) (taxCodeID : Uuid) (brackets : List TaxBracket) :
    Database × Except RepositoryError (List TaxBracket) :=
  if brackets = [] then (db, .ok [])
  else withTenant env .createBrackets db fun _ =>
    (insertBrackets env db.codes taxCodeID 0 db.brackets brackets).map
      fun result => ({ db with brackets := result.1 }, result.2)

end TaxRepository

/-! ## The service -/

structure BusinessError where
  code : String
  message : String
  httpStatus : Nat
deriving DecidableEq

def mapTaxError (op : String) : RepositoryError → BusinessError
  | .taxAuthorityNotFound => ⟨"TAX_AUTHORITY_NOT_FOUND", "tax authority not found", 404⟩
  | .taxAuthorityExists => ⟨"TAX_AUTHORITY_EXISTS", "tax authority code already exists", 409⟩
  | .taxCodeNotFound => ⟨"TAX_CODE_NOT_FOUND", "tax code not found", 404⟩
  | .taxCodeExists => ⟨"TAX_CODE_EXISTS", "tax code already exists", 409⟩
  | .other text => ⟨"TAX_ERROR", op ++ ": " ++ text, 500⟩

/-- The immutable fields are those of the stored code. -/
def preserve (existing tc : TaxCode) : TaxCode :=
  { tc with tenantID := existing.tenantID, code := existing.code, taxType := existing.taxType
            taxAuthorityID := existing.taxAuthorityID, createdAt := existing.createdAt
            createdBy := existing.createdBy }

/-- Replace the brackets when the request has any to say; `nil` is `none`. -/
def replaceBrackets (env : Env) (db : Database) (tc : TaxCode) :
    Option (List TaxBracket) → Database × Except BusinessError TaxCode
  | none => (db, .ok tc)
  | some brackets =>
    match TaxRepository.deleteBrackets env db tc.id with
    | (db, .error err) => (db, .error (mapTaxError "delete old brackets" err))
    | (db, .ok ()) =>
      match TaxRepository.createBrackets env db tc.id brackets with
      | (db, .error err) => (db, .error (mapTaxError "create new brackets" err))
      | (db, .ok brackets) => (db, .ok { tc with brackets })

def updateTaxCode (env : Env) (db : Database) (tc : TaxCode)
    (brackets : Option (List TaxBracket)) : Database × Except BusinessError TaxCode :=
  match TaxRepository.getTaxCodeByID env db tc.id with
  | .error err => (db, .error (mapTaxError "get tax code" err))
  | .ok existing =>
    match (preserve existing tc).validate with
    | finding :: _ => (db, .error ⟨"TAX_CODE_VALIDATION_FAILED", finding.message, 400⟩)
    | [] =>
      match TaxRepository.updateTaxCode env db (preserve existing tc) with
      | (db, .error err) => (db, .error (mapTaxError "update tax code" err))
      | (db, .ok updatedAt) =>
        replaceBrackets env db { preserve existing tc with updatedAt } brackets

section Store

variable {α : Type} {env : Env} {call : Call} {db written : Database} {result : α}
  {body : Uuid → Except RepositoryError (Database × α)}

end Store

def FitsNumeric (precision scale : Nat) (value : Decimal) : Prop :=
  |awayTo (unit scale) value| < 10 ^ (precision - scale)

/-- The columns of a bracket take its values. -/
structure Storable (b : TaxBracket) : Prop where
  number : -2 ^ 31 ≤ b.bracketNumber ∧ b.bracketNumber < 2 ^ 31
  minimum : FitsNumeric 18 4 b.minimumAmount
  maximum : ∀ m, b.maximumAmount = some m → FitsNumeric 18 4 m
  rate : FitsNumeric 10 6 b.taxRate
  nonneg : 0 ≤ awayTo (unit 6) b.taxRate

/-- No amount of a bracket has more decimal places than its column. -/
structure Exact (b : TaxBracket) : Prop where
  minimum : OnGrid (unit 4) b.minimumAmount
  maximum : ∀ m, b.maximumAmount = some m → OnGrid (unit 4) m
  rate : OnGrid (unit 6) b.taxRate

/-- The row of a bracket: its values at the scale of their columns. -/
def stored (env : Env) (taxCodeID : Uuid) (index : Nat) (b : TaxBracket) : TaxBracket :=
  { TaxRepository.stamp env taxCodeID index b with
    minimumAmount := awayTo (unit 4) b.minimumAmount
    maximumAmount := b.maximumAmount.map (awayTo (unit 4))
    taxRate := awayTo (unit 6) b.taxRate }

/-- The values of a bracket that a request names. -/
def terms (b : TaxBracket) : Int × Decimal × Option Decimal × Decimal × Bool :=
  (b.bracketNumber, b.minimumAmount, b.maximumAmount, b.taxRate, b.marginalCalculation)

variable {id : Uuid} {index : Nat}

/-- The update finds a row, accepts the request and writes another row. -/
structure Writes (env : Env) (db : Database) (tc : TaxCode) (row written : TaxCodeRow) : Prop where
  txStore : env.txStore = true
  visible : ∃ tenant, env.tenantID = some tenant ∧
    TaxRepository.visible db tenant tc.id = some row
  reads : env.fails .getTaxCodeByID = none
  accepts : ∃ existing, TaxRepository.scanTaxCode row = .ok existing ∧
    (preserve existing tc).validate = []
  works : env.fails .updateTaxCode = none
  assigns : TaxRepository.assign env tc row = .ok written

/-- The insertion of the requested brackets goes through. -/
structure Creates (env : Env) (brackets : List TaxBracket) : Prop where
  works : env.fails .createBrackets = none
  storable : ∀ b ∈ brackets, Storable b
  distinct : (brackets.map (·.bracketNumber)).Nodup

variable {env : Env} {db : Database} {tc : TaxCode} {row written : TaxCodeRow}
  {requested : Option (List TaxBracket)}

/-- The tables once the code is written. -/
def Database.write (db : Database) (written : TaxCodeRow) : Database :=
  { db with codes := db.codes.put written }

variable {after : Database}

/-- The tables without the brackets of a code. -/
def Database.clear (db : Database) (id : Uuid) : Database :=
  { db with brackets := db.brackets.filter (·.taxCodeID ≠ id) }

section Rewrite

variable {tenant : Uuid} (caller : env.tenantID = some tenant) (store : env.txStore = true)
include caller store

end Rewrite

/-! ## When an update keeps its promise -/

/-- The row of a code and its brackets are the same. -/
def Unchanged (before after : Database) (id : Uuid) : Prop :=
  after.codes.get? id = before.codes.get? id ∧ after.bracketsOf id = before.bracketsOf id

/-- An error changes nothing; after a success the stored brackets are the requested ones, or the
old ones when none were requested. -/
def Meets (env : Env) (db : Database) (tc : TaxCode) (requested : Option (List TaxBracket)) :
    Prop :=
  (∀ err, (updateTaxCode env db tc requested).2 = .error err →
    Unchanged db (updateTaxCode env db tc requested).1 tc.id) ∧
  ∀ out, (updateTaxCode env db tc requested).2 = .ok out →
    (∀ brackets, requested = some brackets →
      (((updateTaxCode env db tc requested).1.bracketsOf tc.id).map terms).Perm
        (brackets.map terms)) ∧
    (requested = none →
      (updateTaxCode env db tc requested).1.bracketsOf tc.id = db.bracketsOf tc.id)

/-- Once the code is written, requested brackets are deleted and created as they are; or what
fails then has nothing to take back. -/
def Rewritable (env : Env) (db : Database) (id : Uuid) (row written : TaxCodeRow)
    (brackets : List TaxBracket) : Prop :=
  (env.fails .deleteBrackets = none ∧
    (brackets = [] ∨ Creates env brackets ∧ ∀ b ∈ brackets, Exact b)) ∨
  (written = row ∧ (env.fails .deleteBrackets ≠ none ∨
    ¬Creates env brackets ∧ db.bracketsOf id = []))

/-- Requested brackets can be rewritten whenever the update gets so far. -/
def Sound (env : Env) (db : Database) (tc : TaxCode) (requested : Option (List TaxBracket)) :
    Prop :=
  ∀ row written, Writes env db tc row written → ∀ brackets, requested = some brackets →
    Rewritable env db tc.id row written brackets

section Outcomes

variable (writes : Writes env db tc row written) {brackets : List TaxBracket}
include writes

end Outcomes

def paye : TaxCodeRow :=
  { id := 40, tenantID := 7, code := "KE-PAYE", name := "Kenya PAYE", taxType := .paye
    description := some "Pay as you earn", taxAuthorityID := 30
    calculationMethod := .progressive, effectiveDate := ⟨2023, 7, 1, 0, by decide⟩
    reportingCode := some "P10", returnLineNumber := some "1", createdAt := Time.zero
    updatedAt := Time.zero }

end ErpFinance.Service.TaxCodes
