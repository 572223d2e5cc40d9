import ErpFinance.Api.EntityService
import ErpFinance.Driver.Postgres

/-!
# The generated handlers

The requests on the records of an entity and what the handlers answer.  Of a
request there is what Fiber and the parsers of the standard library make of it:
an identifier or a body that does not parse is none.
-/

namespace ErpFinance.Api.Crud

open Domain Driver Library ErpFinance.Runtime

/-! ## Filters in a query -/

/-- The values of a list in a query. -/
def listed (value : String) : List Value :=
  (split value ',').map fun part => .string (trimSpace part)

/-- `buildFilter`; none for an operator that is not known. -/
def buildFilter (field op value : String) : Option Filter :=
  if op = "eq" then some (.eq field (.string value))
  else if op = "neq" then some (.leaf field (.neq (.string value)))
  else if op = "gt" then some (.leaf field (.gt (.string value)))
  else if op = "gte" then some (.leaf field (.gte (.string value)))
  else if op = "lt" then some (.leaf field (.lt (.string value)))
  else if op = "lte" then some (.leaf field (.lte (.string value)))
  else if op = "contains" then some (.leaf field (.contains value))
  else if op = "starts_with" then some (.leaf field (.startsWith value))
  else if op = "ends_with" then some (.leaf field (.endsWith value))
  else if op = "is_null" then some (.leaf field .isNull)
  else if op = "is_not_null" then some (.leaf field .isNotNull)
  else if op = "in" then some (.leaf field (.isIn (listed value)))
  else if op = "not_in" then some (.leaf field (.notIn (listed value)))
  else if op = "between" then
    match value.toList.dropWhile (· ≠ ',') with
    | [] => none
    | _ :: high =>
      some (.leaf field (.between
        (.string (trimSpace (String.ofList (value.toList.takeWhile (· ≠ ',')))))
        (.string (trimSpace (String.ofList high)))))
  else none

/-- The field and the operator of a parameter `filter[field][op]`. -/
def filterKey (key : String) : Option (String × String) :=
  if hasPrefix key "filter[" then
    let rest := (trimPrefix key "filter[").toList
    match rest.dropWhile (· ≠ ']') with
    | _ :: '[' :: op =>
      if byteLen (String.ofList op) < 2 then none
      else some (String.ofList (rest.takeWhile (· ≠ ']')),
        String.ofList (if op.getLast? = some ']' then op.dropLast else op))
    | _ => none
  else none

def fromQuery (params : List (String × String)) : Option Filter :=
  Filter.conjoin (params.filterMap fun param =>
    (filterKey param.1).bind fun (field, op) => buildFilter field op param.2)

/-! ## Requests and responses -/

/-- The query of a list request; the page and its size are 1 and 20 when they do not parse. -/
structure ListParams where
  page : Int := 1
  pageSize : Int := 20
  orderBy : String := ""
  orderDir : String := ""
  filters : List (String × String) := []

/-- A click on the header of a column sorts by it. -/
def ListParams.options (params : ListParams) : QueryOptions where
  page := params.page
  pageSize := params.pageSize
  sortField := params.orderBy
  sortAsc := params.orderBy ≠ "" && params.orderDir ≠ "desc"

inductive Request where
  | list (params : ListParams)
  | get (id : Option Uuid)
  | create (body : Option Object)
  | update (id : Option Uuid) (body : Option Object)
  | delete (id : Option Uuid)

def Request.isDelete : Request → Bool
  | delete _ => true
  | _ => false

/-- `response.Meta`. -/
structure Meta where
  total : Int
  page : Int
  pageSize : Int
  hasMore : Bool

inductive Body where
  | record (members : Object)
  | records (data : List Object) (info : Meta)
  | error (code message : String) (fields : List (String × String))
  | empty

structure Response where
  status : Nat
  body : Body

def errorBody (error : Error) : Body :=
  match error.root with
  | .business code message _ => .error code message []
  | .validation fields => .error "validation_error" "One or more fields are invalid" fields
  | .notFound entityName id =>
    .error "not_found"
      (if id = "" then entityName ++ " not found" else entityName ++ " not found: " ++ id) []
  | _ => .error "internal_error" "An unexpected error occurred" []

theorem errorBody_ne_record (error : Error) (members : Object) :
    errorBody error ≠ .record members := by
  unfold errorBody
  split <;> rintro ⟨⟩

/-- `handleError`. -/
def failure (error : Error) : Response := ⟨error.httpStatus, errorBody error⟩

/-- The answer to a parameter or a body that does not parse. -/
def badRequest (field message : String) : Response :=
  ⟨400, errorBody (.validation [(field, message)])⟩

def recordToMap (record : EntityRecord) : Object :=
  let framework := objectOf frameworkColumns nodup_frameworkColumns fun column =>
    if column = "id" then .uuid record.id
    else if column = "tenant_id" then .uuid record.tenantID
    else if column = "created_at" then .time record.createdAt
    else .time record.updatedAt
  (framework.merge record.data).merge record.customFields

section Handlers

variable {σ : Type} (d : Database σ) (s : EntityService) (ctx : Context)

/-- The response to what a program returns, or to its error. -/
def answer {α : Type} (success : α → Response) : Except Error α → Response
  | .ok value => success value
  | .error error => failure error

def respond {α : Type} (program : Stateful σ Error α) (success : α → Response) :
    Stateful σ Error Response := do
  let outcome ← program.outcome
  pure (answer success outcome)

theorem respond_apply {σ α : Type} (program : Stateful σ Error α) (success : α → Response)
    (state : σ) :
    respond program success state =
      (.ok (answer success (program state).1), (program state).2) := rfl

def list (params : ListParams) : Stateful σ Error Response :=
  respond (EntityService.query d s ctx (fromQuery params.filters) params.options)
    fun (records, info) =>
      ⟨200, .records (records.map recordToMap)
        { total := info.total, page := info.page, pageSize := info.pageSize
          hasMore := info.hasNextPage }⟩

def get (id : Option Uuid) : Stateful σ Error Response :=
  match id with
  | none => pure (badRequest "id" "must be a valid UUID")
  | some id =>
    respond (EntityService.get d s ctx id) fun record => ⟨200, .record (recordToMap record)⟩

def create (body : Option Object) : Stateful σ Error Response :=
  match body with
  | none => pure (badRequest "_body" "invalid JSON")
  | some data =>
    respond (EntityService.create d s ctx data ctx.viewer)
      fun record => ⟨201, .record (recordToMap record)⟩

def update (id : Option Uuid) (body : Option Object) : Stateful σ Error Response :=
  match id, body with
  | none, _ => pure (badRequest "id" "must be a valid UUID")
  | some _, none => pure (badRequest "_body" "invalid JSON")
  | some id, some data =>
    respond (EntityService.update d s ctx id data ctx.viewer)
      fun record => ⟨200, .record (recordToMap record)⟩

def delete (id : Option Uuid) : Stateful σ Error Response :=
  match id with
  | none => pure (badRequest "id" "must be a valid UUID")
  | some id => respond (EntityService.delete d s ctx id) fun _ => ⟨204, .empty⟩

/-- The handler of a request. -/
def serve : Request → Stateful σ Error Response
  | .list params => list d s ctx params
  | .get id => get d s ctx id
  | .create body => create d s ctx body
  | .update id body => update d s ctx id body
  | .delete id => delete d s ctx id

end Handlers

def serveAll {σ : Type} (d : Database σ) (s : EntityService) :
    List (Context × Request) → Stateful σ Error (List Response)
  | [] => pure []
  | (ctx, request) :: rest => do
      let response ← serve d s ctx request
      let responses ← serveAll d s rest
      pure (response :: responses)

theorem serveAll_single {σ : Type} {d : Database σ} {s : EntityService} {ctx : Context}
    {request : Request} {response : Response} {store : σ}
    (serves : (serve d s ctx request store).1 = .ok response) :
    (serveAll d s [(ctx, request)] store).1 = .ok [response] := by
  rcases runs : serve d s ctx request store with ⟨outcome, after⟩
  rw [runs] at serves
  obtain rfl : outcome = .ok response := serves
  rw [serveAll, Stateful.bind_ok runs]
  rfl

end ErpFinance.Api.Crud
