import ErpFinance.Naming.Pattern

/-!
# Allocation of identifiers

The naming service: parsed patterns are cached, a counter is incremented under
a key built of the tenant, the rendered prefix and the calendar month, and the
number it answers is rendered into the identifier.
-/

namespace ErpFinance.Naming

open Domain Library

/-- The service's cache of parsed patterns; what it holds is what the parser returned. -/
structure NamingSeriesService where
  tokens : String → Option (List Token)
  sound : ∀ pattern parsed, tokens pattern = some parsed → parsePattern pattern = .ok parsed

def newNamingSeriesService : NamingSeriesService where
  tokens := fun _ => none
  sound := by simp

/-- `parsePattern` of the service: the cached tokens, or parsed ones that get cached. -/
def NamingSeriesService.parse (service : NamingSeriesService) (pattern : String) :
    Except String (List Token) × NamingSeriesService :=
  match service.tokens pattern with
  | some parsed => (.ok parsed, service)
  | none =>
    match parsed : parsePattern pattern with
    | .error err => (.error err, service)
    | .ok tokens =>
      (.ok tokens,
        { tokens := fun other => if other = pattern then some tokens else service.tokens other
          sound := by
            intro other found lookup
            split at lookup
            · subst other
              rw [parsed, ← Option.some.inj lookup]
            · exact service.sound other found lookup })

/-- The cache never changes what a pattern parses to. -/
@[simp] theorem NamingSeriesService.parse_fst (service : NamingSeriesService) (pattern : String) :
    (service.parse pattern).1 = parsePattern pattern := by
  unfold NamingSeriesService.parse
  split
  · rename_i parsed cached
    exact (service.sound pattern parsed cached).symm
  · split <;> simp_all

structure AllocateInput where
  tenantID : Uuid
  pattern : String
  orgCode : String := ""
  fiscalYearLabel : String := ""
  now : Time := Time.zero

/-- An allocation request with what the clock shows while it is served. -/
structure Request where
  input : AllocateInput
  clock : Time

/-- The variables before the counter is incremented. -/
def Request.vars (request : Request) : PatternVars where
  now := if request.input.now.isZero then request.clock else request.input.now
  orgCode := request.input.orgCode
  fiscalYearLabel := request.input.fiscalYearLabel

def renderWithoutSEQ (tokens : List Token) (vars : PatternVars) : List Char :=
  (tokens.map fun token => if token.isSEQ then .literal "" else token).flatMap
    (Token.write { vars with sequence := 0 })

/-- `fmt.Sprintf("%04d%02d", now.Year(), int(now.Month()))`. -/
def period (now : Time) : List Char := paddedInt 4 now.year ++ paddedInt 2 now.month

def counterKey (tenantID : Uuid) (tokens : List Token) (vars : PatternVars) : String :=
  String.ofList ("naming:counter:".toList ++ tenantID.string.toList ++ ':' ::
    renderWithoutSEQ tokens vars ++ ':' :: period vars.now)

/-- A request with the counter that serves it: what it answers for a key and an increment. -/
structure Call where
  request : Request
  increment : String → Int → Except String Int

def allocate (service : NamingSeriesService) (call : Call) :
    Except String (String × Int) × NamingSeriesService :=
  let input := call.request.input
  let (parsed, service) := service.parse input.pattern
  (do
    let tokens ← parsed.mapError fun err =>
      "naming.Allocate: parse \"" ++ input.pattern ++ "\": " ++ err
    let vars := call.request.vars
    let seq ← (call.increment (counterKey input.tenantID tokens vars) 1).mapError fun err =>
      "naming.Allocate: increment counter: " ++ err
    return (render tokens { vars with sequence := seq }, seq), service)

/-- The identifiers that a sequence of calls returns, in order. -/
def identifiers : NamingSeriesService → List Call → List String
  | _, [] => []
  | service, call :: rest =>
    match allocate service call with
    | (.ok (identifier, _), service) => identifier :: identifiers service rest
    | (.error _, service) => identifiers service rest

/-! ## One call -/

section Keys

variable {tokens : List Token} {tenant : Uuid} {x y : PatternVars}

def Call.key (tokens : List Token) (call : Call) : String :=
  counterKey call.request.input.tenantID tokens call.request.vars

/-- The number the counter gives a call, when it gives one. -/
def Call.answer (tokens : List Token) (call : Call) : Option Int :=
  (call.increment (call.key tokens) 1).toOption

/-- The identifier of a call that the counter serves. -/
def Call.identifier (tokens : List Token) (call : Call) : Option String :=
  (call.answer tokens).map fun seq => render tokens { call.request.vars with sequence := seq }

theorem allocate_identifier {call : Call}
    (parsed : parsePattern call.request.input.pattern = .ok tokens)
    (service : NamingSeriesService) :
    (allocate service call).1.toOption.map Prod.fst = call.identifier tokens := by
  simp only [allocate, NamingSeriesService.parse_fst, parsed, Call.identifier, Call.answer,
    Call.key, Except.mapError, bind, Except.bind]
  cases call.increment (counterKey call.request.input.tenantID tokens call.request.vars) 1 <;> rfl

theorem allocate_ok {service after : NamingSeriesService} {call : Call} {identifier : String}
    {seq : Int} (allocates : allocate service call = (.ok (identifier, seq), after)) :
    ∃ tokens, parsePattern call.request.input.pattern = .ok tokens ∧
      call.increment (call.key tokens) 1 = .ok seq ∧
        identifier = render tokens { call.request.vars with sequence := seq } := by
  have answered := congrArg Prod.fst allocates
  simp only [allocate, NamingSeriesService.parse_fst] at answered
  cases parsed : parsePattern call.request.input.pattern with
  | error err =>
    rw [parsed] at answered
    cases answered
  | ok tokens =>
    cases counted : call.increment
      (counterKey call.request.input.tenantID tokens call.request.vars) 1 with
    | error err =>
      rw [parsed] at answered
      simp only [Except.mapError, bind, Except.bind, counted] at answered
      cases answered
    | ok number =>
      rw [parsed] at answered
      simp only [Except.mapError, bind, Except.bind, counted, pure, Except.pure] at answered
      cases answered
      exact ⟨tokens, rfl, counted, rfl⟩

/-- Calls with one pattern return what the counter's answers render to. -/
theorem identifiers_eq {pattern : String} (parsed : parsePattern pattern = .ok tokens)
    {calls : List Call} (one : ∀ call ∈ calls, call.request.input.pattern = pattern)
    (service : NamingSeriesService) :
    identifiers service calls = calls.filterMap (Call.identifier tokens) := by
  induction calls generalizing service with
  | nil => rfl
  | cons call rest ih =>
    obtain ⟨same, others⟩ := List.forall_mem_cons.mp one
    have result := allocate_identifier (same ▸ parsed) service
    rw [identifiers, List.filterMap_cons, ← result]
    cases outcome : allocate service call with
    | mk answer after =>
      cases answer with
      | error err => exact ih others after
      | ok served => exact congrArg (served.1 :: ·) (ih others after)

theorem renderWithoutSEQ_congr
    (same : ∀ token ∈ tokens, token.isSEQ = false → token.write x = token.write y) :
    renderWithoutSEQ tokens x = renderWithoutSEQ tokens y := by
  unfold renderWithoutSEQ
  rw [List.flatMap_map, List.flatMap_map]
  apply List.flatMap_congr
  intro token member
  cases fixed : token.isSEQ with
  | true => rfl
  | false =>
    exact (Token.write_sequence fixed x 0).trans
      ((same token member fixed).trans (Token.write_sequence fixed y 0).symm)

theorem month_of_period {n m : Time}
    (same : period n = period m) : n.year = m.year ∧ n.month = m.month := by
  have twoDigits (t : Time) : (paddedInt 2 (t.month : Int)).length = 2 := by
    refine length_paddedDigits (by decide) ?_
    have := t.valid.1.2
    omega
  obtain ⟨years, months⟩ := List.append_inj' same ((twoDigits n).trans (twoDigits m).symm)
  exact ⟨paddedInt_injective years, Int.ofNat_inj.mp (paddedInt_injective months)⟩

theorem month_of_counterKey (prefixes : renderWithoutSEQ tokens x = renderWithoutSEQ tokens y)
    (same : counterKey tenant tokens x = counterKey tenant tokens y) :
    x.now.year = y.now.year ∧ x.now.month = y.now.month := by
  have keys := String.ofList_inj.mp same
  rw [prefixes] at keys
  exact month_of_period (List.cons.inj (List.append_cancel_left keys)).2

theorem counterKey_congr (prefixes : renderWithoutSEQ tokens x = renderWithoutSEQ tokens y)
    (months : x.now.year = y.now.year ∧ x.now.month = y.now.month) :
    counterKey tenant tokens x = counterKey tenant tokens y := by
  unfold counterKey period
  rw [prefixes, months.1, months.2]

end Keys

end ErpFinance.Naming
