import ErpFinance.Domain.Basics
import ErpFinance.Library.Rounding

/-!
# The exchange rate engine

Rates are kept in a cache with a lifetime under a text made of the pair, the
rate type and the day.  What the cache does not have the provider is asked for,
and without an answer the rate is one.  Converted amounts are rounded by the
requested mode.
-/

namespace ErpFinance.Domain.Decimal

/-- The value of the last of a number of decimal places. -/
def ulp (places : Int) : Decimal := (10 : ℚ) ^ (-places)

theorem ulp_pos (places : Int) : 0 < ulp places := zpow_pos (by norm_num) _

/-- `Decimal.Round`: to the nearest value, half away from zero. -/
def round (amount : Decimal) (places : Int) : Decimal := Library.awayTo (ulp places) amount

/-- `Decimal.RoundDown`: towards zero. -/
def roundDown (amount : Decimal) (places : Int) : Decimal := Library.truncTo (ulp places) amount

def roundCeil (amount : Decimal) (places : Int) : Decimal := Library.ceilTo (ulp places) amount

def roundFloor (amount : Decimal) (places : Int) : Decimal := Library.floorTo (ulp places) amount

def divisionPrecision : Int := 16

/-- `Decimal.Div`: rounded to sixteen places; a division by zero panics. -/
def div (amount divisor : Decimal) : Option Decimal :=
  if divisor = 0 then none else some (round (amount / divisor) divisionPrecision)

end ErpFinance.Domain.Decimal

namespace ErpFinance.Service.ExchangeRates

open Domain Library

/-! ## Rate types and rounding modes -/

def rateTypeCodes : List String :=
  ["SPOT", "AVERAGE", "CLOSING", "OPENING", "BUYING", "SELLING"]

inductive RateType where
  | spot | average | closing | opening | buying | selling
  | other (code : String) (unknown : code ∉ rateTypeCodes)

def RateType.string : RateType → String
  | spot => "SPOT"
  | average => "AVERAGE"
  | closing => "CLOSING"
  | opening => "OPENING"
  | buying => "BUYING"
  | selling => "SELLING"
  | other code _ => code

/-- A text outside the constants has one rate type. -/
theorem RateType.eq_other {t : RateType} {code : String} (unknown : code ∉ rateTypeCodes)
    (same : t.string = code) : t = .other code unknown := by
  subst same
  cases t with
  | other code unknown => rfl
  | _ => exact absurd (by decide) unknown

theorem RateType.string_injective : Function.Injective RateType.string := by
  intro first second same
  cases second with
  | other code unknown => exact eq_other unknown same
  | _ =>
    cases first with
    | other code unknown => exact (eq_other unknown same.symm).symm
    | _ => first | rfl | exact absurd same (by decide)

inductive RoundingMode where
  | halfUp | halfDown | ceiling | floor
  | other (code : String) (unknown : code ∉ ["HALF_UP", "HALF_DOWN", "CEILING", "FLOOR"])

/-! ## Requests and results -/

/-- A day is that of the location which the instant carries. -/
structure GetExchangeRateRequest where
  fromCurrency : String
  toCurrency : String
  rateDate : Option Time := none
  rateType : RateType

structure UpdateExchangeRateRequest where
  fromCurrency : String
  toCurrency : String
  rate : Decimal
  rateDate : Time
  rateType : RateType
  source : String
  updatedBy : Uuid := Uuid.Nil

structure ConvertAmountRequest where
  amount : Decimal
  fromCurrency : String
  toCurrency : String
  rateDate : Option Time := none
  rateType : RateType
  roundingMode : RoundingMode
  decimalPlaces : Int

structure ExchangeRateResult where
  fromCurrency : String
  toCurrency : String
  rate : Decimal
  inverseRate : Decimal
  rateDate : Time
  rateType : RateType
  source : String
  isEstimated : Bool
  lastUpdated : Time

structure UpdateExchangeRateResult where
  success : Bool := true
  exchangeRate : ExchangeRateResult
  previousRate : ExchangeRateResult
  percentChange : Decimal
  updatedAt : Time
  errors : List String := []

structure ConversionDetails where
  rateUsed : Decimal
  roundingApplied : Bool
  roundingMode : RoundingMode
  decimalPlaces : Int
  rawAmount : Decimal
  conversionTime : Time

structure ConvertAmountResult where
  originalAmount : Decimal
  convertedAmount : Decimal
  fromCurrency : String
  toCurrency : String
  exchangeRate : ExchangeRateResult
  conversionDetails : ConversionDetails

/-- An external source of rates; no answer is an error. -/
structure ExternalRateProvider where
  getRate : String → String → RateType → Option ExchangeRateResult
  getHistoricalRate : String → String → Time → RateType → Option ExchangeRateResult

/-! ## The cache -/

structure CachedRate where
  rate : ExchangeRateResult
  timestamp : Time

/-- `RateCache`: the entries under their keys, and the lifetime in nanoseconds. -/
structure RateCache where
  rates : String → Option CachedRate
  ttl : Int

namespace RateCache

/-- `NewRateCache`. -/
def new (ttl : Int) : RateCache := { rates := fun _ => none, ttl }

/-- `RateCache.Get`: an entry that is too old is deleted. -/
def get (cache : RateCache) (now : Time) (key : String) :
    RateCache × Option ExchangeRateResult :=
  match cache.rates key with
  | none => (cache, none)
  | some cached =>
    if cache.ttl < now.sub cached.timestamp then
      ({ cache with rates := Function.update cache.rates key none }, none)
    else (cache, some cached.rate)

/-- `RateCache.Set`. -/
def set (cache : RateCache) (now : Time) (key : String) (rate : ExchangeRateResult) : RateCache :=
  { cache with rates := Function.update cache.rates key (some { rate, timestamp := now }) }

end RateCache

/-! ## The engine -/

/-- What one call finds: the clock, and the provider with what it would answer. -/
structure Call where
  now : Time
  externalProvider : Option ExternalRateProvider := none

def buildCacheKey (fromCurrency toCurrency : String) (rateType : RateType)
    (rateDate : Option Time) : String :=
  let dateStr := match rateDate with
    | some date => date.dateString
    | none => "current"
  fromCurrency ++ "-" ++ toCurrency ++ "-" ++ rateType.string ++ "-" ++ dateStr

def GetExchangeRateRequest.key (req : GetExchangeRateRequest) : String :=
  buildCacheKey req.fromCurrency req.toCurrency req.rateType req.rateDate

def one (call : Call) (req : GetExchangeRateRequest) (source : String) (isEstimated : Bool) :
    ExchangeRateResult :=
  { fromCurrency := req.fromCurrency
    toCurrency := req.toCurrency
    rate := 1
    inverseRate := 1
    rateDate := req.rateDate.getD call.now
    rateType := req.rateType
    source
    isEstimated
    lastUpdated := call.now }

def ask (call : Call) (req : GetExchangeRateRequest) : Option ExchangeRateResult :=
  call.externalProvider.bind fun provider =>
    match req.rateDate with
    | some date => provider.getHistoricalRate req.fromCurrency req.toCurrency date req.rateType
    | none => provider.getRate req.fromCurrency req.toCurrency req.rateType

def getExchangeRate (call : Call) (cache : RateCache) (req : GetExchangeRateRequest) :
    RateCache × ExchangeRateResult :=
  if req.fromCurrency = req.toCurrency then (cache, one call req "SYSTEM" false)
  else
    match cache.get call.now req.key with
    | (cache, some rate) => (cache, rate)
    | (cache, none) =>
      match ask call req with
      | some rate => (cache.set call.now req.key rate, rate)
      | none => (cache, one call req "DEFAULT" true)

/-- `applyRounding`; any other text rounds as `HALF_UP`. -/
def applyRounding (amount : Decimal) (mode : RoundingMode) (decimalPlaces : Int) : Decimal :=
  match mode with
  | .halfUp => amount.round decimalPlaces
  | .halfDown => amount.roundDown decimalPlaces
  | .ceiling => amount.roundCeil decimalPlaces
  | .floor => amount.roundFloor decimalPlaces
  | .other _ _ => amount.round decimalPlaces

def convertAmount (call : Call) (cache : RateCache) (req : ConvertAmountRequest) :
    RateCache × ConvertAmountResult :=
  let (cache, exchangeRate) := getExchangeRate call cache
    { fromCurrency := req.fromCurrency
      toCurrency := req.toCurrency
      rateDate := req.rateDate
      rateType := req.rateType }
  let rawAmount := req.amount * exchangeRate.rate
  let roundedAmount := applyRounding rawAmount req.roundingMode req.decimalPlaces
  (cache,
    { originalAmount := req.amount
      convertedAmount := roundedAmount
      fromCurrency := req.fromCurrency
      toCurrency := req.toCurrency
      exchangeRate
      conversionDetails :=
        { rateUsed := exchangeRate.rate
          roundingApplied := rawAmount ≠ roundedAmount
          roundingMode := req.roundingMode
          decimalPlaces := req.decimalPlaces
          rawAmount
          conversionTime := call.now } })

/-- The read that an update starts with, and the entry it writes. -/
def UpdateExchangeRateRequest.read (req : UpdateExchangeRateRequest) : GetExchangeRateRequest :=
  { fromCurrency := req.fromCurrency
    toCurrency := req.toCurrency
    rateDate := some req.rateDate
    rateType := req.rateType }

/-- The entry of an update, given the reciprocal of its rate. -/
def UpdateExchangeRateRequest.newRate (req : UpdateExchangeRateRequest) (now : Time)
    (inverseRate : Decimal) : ExchangeRateResult :=
  { fromCurrency := req.fromCurrency
    toCurrency := req.toCurrency
    rate := req.rate
    inverseRate
    rateDate := req.rateDate
    rateType := req.rateType
    source := req.source
    isEstimated := false
    lastUpdated := now }

/-- `UpdateExchangeRate`: no result is a panic. -/
def updateExchangeRate (call : Call) (cache : RateCache) (req : UpdateExchangeRateRequest) :
    RateCache × Option UpdateExchangeRateResult :=
  let (cache, previousRate) := getExchangeRate call cache req.read
  match Decimal.div 1 req.rate with
  | none => (cache, none)
  | some inverseRate =>
    let newRate := req.newRate call.now inverseRate
    let change :=
      if previousRate.rate = 0 then some 0
      else Decimal.div (req.rate - previousRate.rate) previousRate.rate
    match change with
    | none => (cache, none)
    | some change =>
      (cache.set call.now req.read.key newRate,
        some
          { exchangeRate := newRate
            previousRate
            percentChange := change * 100
            updatedAt := call.now })

/-- A sequence of updates; the cache outlives a call that panics. -/
def runUpdates (cache : RateCache) (updates : List (Call × UpdateExchangeRateRequest)) :
    RateCache :=
  updates.foldl (fun cache update => (updateExchangeRate update.1 cache update.2).1) cache

/-! ## Rounding -/

/-- The modes that round to the nearest value. -/
def RoundingMode.IsNearest : RoundingMode → Prop
  | halfUp => True
  | other _ _ => True
  | _ => False

theorem applyRounding_of_isNearest {mode : RoundingMode} (nearest : mode.IsNearest)
    (amount : Decimal) (places : Int) :
    applyRounding amount mode places = awayTo (Decimal.ulp places) amount := by
  cases mode with
  | halfUp => rfl
  | other code unknown => rfl
  | halfDown => exact nearest.elim
  | ceiling => exact nearest.elim
  | floor => exact nearest.elim

/-- What a call of `ConvertAmount` rounds and what it returns. -/
theorem convertedAmount_eq (call : Call) (cache : RateCache) (req : ConvertAmountRequest) :
    let result := (convertAmount call cache req).2
    result.convertedAmount =
      applyRounding (req.amount * result.exchangeRate.rate) req.roundingMode req.decimalPlaces :=
  rfl

/-- A mode other than the directed ones and `HALF_DOWN` rounds to the nearest multiple of the last
place, at most half of it away and on a tie farther from zero; it keeps what is rounded already and
is odd.  So does a conversion of the rate it uses.  `CEILING` and `FLOOR` give the least multiple
above and the greatest one below, keep what is rounded already and are exchanged by a change of
sign. -/
theorem applyRounding_meets (amount : Decimal) (places : Int) :
    (∀ mode : RoundingMode, mode.IsNearest →
      OnGrid (Decimal.ulp places) (applyRounding amount mode places) ∧
      (∀ value, OnGrid (Decimal.ulp places) value →
        |amount - applyRounding amount mode places| ≤ |amount - value|) ∧
      |amount - applyRounding amount mode places| ≤ Decimal.ulp places / 2 ∧
      (|amount - applyRounding amount mode places| = Decimal.ulp places / 2 →
        |amount| < |applyRounding amount mode places|) ∧
      applyRounding (applyRounding amount mode places) mode places =
        applyRounding amount mode places ∧
      applyRounding (-amount) mode places = -applyRounding amount mode places) ∧
    (∀ (call : Call) (cache : RateCache) (req : ConvertAmountRequest),
      req.roundingMode.IsNearest →
      |req.amount * (convertAmount call cache req).2.exchangeRate.rate -
        (convertAmount call cache req).2.convertedAmount| ≤
        Decimal.ulp req.decimalPlaces / 2) ∧
    IsLeast {value | OnGrid (Decimal.ulp places) value ∧ amount ≤ value}
      (applyRounding amount .ceiling places) ∧
    IsGreatest {value | OnGrid (Decimal.ulp places) value ∧ value ≤ amount}
      (applyRounding amount .floor places) ∧
    applyRounding (applyRounding amount .ceiling places) .ceiling places =
      applyRounding amount .ceiling places ∧
    applyRounding (applyRounding amount .floor places) .floor places =
      applyRounding amount .floor places ∧
    applyRounding (-amount) .ceiling places = -applyRounding amount .floor places ∧
    applyRounding (-amount) .floor places = -applyRounding amount .ceiling places := by
  have positive := Decimal.ulp_pos places
  refine ⟨?_, ?_, isLeast_ceilTo positive amount, isGreatest_floorTo positive amount,
    ceilTo_of_onGrid positive (onGrid_ceilTo _ _), floorTo_of_onGrid positive (onGrid_floorTo _ _),
    ceilTo_neg _ _, floorTo_neg _ _⟩
  · intro mode nearest
    simp only [applyRounding_of_isNearest nearest]
    exact ⟨onGrid_awayTo _ _, fun value grid => awayTo_nearest positive amount grid,
      abs_sub_awayTo_le positive amount, abs_lt_abs_awayTo positive,
      awayTo_of_onGrid positive (onGrid_awayTo _ _), awayTo_neg _ _⟩
  · intro call cache req nearest
    rw [convertedAmount_eq, applyRounding_of_isNearest nearest]
    exact abs_sub_awayTo_le (Decimal.ulp_pos _) _

/-- Rounding up to a tenth is not to the nearest one, and is not odd. -/
theorem applyRounding_ceiling_directed :
    |(121 / 100 : Decimal) - 12 / 10| <
        |(121 / 100 : Decimal) - applyRounding (121 / 100) .ceiling 1| ∧
      applyRounding (-(121 / 100)) .ceiling 1 ≠ -applyRounding (121 / 100) .ceiling 1 := by
  decide +kernel

/-! ## Keys -/

/-- A text without the separator of the key. -/
def Plain (text : String) : Prop := '-' ∉ text.toList

theorem dash_mem_dateString (date : Time) : '-' ∈ date.dateString.toList := by
  rw [Time.dateString, String.toList_ofList]
  exact List.mem_append_right _ List.mem_cons_self

/-- The text of a date is never the one that stands for no date. -/
theorem dateString_ne_current (date : Time) : date.dateString ≠ "current" := by
  intro same
  have dash := dash_mem_dateString date
  rw [same] at dash
  exact absurd dash (by decide)

theorem append_dash_inj {first second rest other : String} (hfirst : Plain first)
    (hsecond : Plain second) (same : first ++ ("-" ++ rest) = second ++ ("-" ++ other)) :
    first = second ∧ rest = other := by
  have lists : first.toList ++ '-' :: rest.toList = second.toList ++ '-' :: other.toList := by
    have chars := congrArg String.toList same
    rwa [String.toList_append, String.toList_append, String.toList_append, String.toList_append]
      at chars
  obtain ⟨front, back⟩ := eq_of_append_first hfirst hsecond lists
  exact ⟨String.toList_inj.mp front, String.toList_inj.mp back⟩

section Keys

variable {fromCurrency toCurrency fromCurrency' toCurrency' : String}
  {rateType rateType' : RateType} {rateDate rateDate' : Option Time}

/-- Plain codes and types share a key exactly when pair, type and day are the same. -/
theorem buildCacheKey_inj (plainFrom : Plain fromCurrency) (plainTo : Plain toCurrency)
    (plainType : Plain rateType.string) (plainFrom' : Plain fromCurrency')
    (plainTo' : Plain toCurrency') (plainType' : Plain rateType'.string) :
    buildCacheKey fromCurrency toCurrency rateType rateDate =
        buildCacheKey fromCurrency' toCurrency' rateType' rateDate' ↔
      fromCurrency = fromCurrency' ∧ toCurrency = toCurrency' ∧ rateType = rateType' ∧
        rateDate.map Time.date = rateDate'.map Time.date := by
  constructor
  · intro same
    simp only [buildCacheKey, String.append_assoc] at same
    obtain ⟨sameFrom, same⟩ := append_dash_inj plainFrom plainFrom' same
    obtain ⟨sameTo, same⟩ := append_dash_inj plainTo plainTo' same
    obtain ⟨sameType, same⟩ := append_dash_inj plainType plainType' same
    refine ⟨sameFrom, sameTo, RateType.string_injective sameType, ?_⟩
    cases rateDate with
    | none =>
      cases rateDate' with
      | none => rfl
      | some date => exact absurd same.symm (dateString_ne_current date)
    | some date =>
      cases rateDate' with
      | none => exact absurd same (dateString_ne_current date)
      | some date' => exact congrArg some (Time.dateString_inj.mp same)
  · rintro ⟨rfl, rfl, rfl, sameDay⟩
    cases rateDate with
    | none =>
      cases rateDate' with
      | none => rfl
      | some date => cases sameDay
    | some date =>
      cases rateDate' with
      | none => cases sameDay
      | some date' =>
        have day := Time.dateString_inj.mpr (Option.some.inj sameDay)
        simp only [buildCacheKey, day]

end Keys

/-! ## What a call does to the cache -/

section Frames

variable {call : Call} {cache : RateCache} {key : String}

theorem RateCache.ttl_get (cache : RateCache) (now : Time) (key : String) :
    (cache.get now key).1.ttl = cache.ttl := by
  unfold RateCache.get
  split
  · rfl
  · split <;> rfl

theorem RateCache.rates_get_of_ne {now : Time} {other : String} (ne : key ≠ other) :
    (cache.get now other).1.rates key = cache.rates key := by
  unfold RateCache.get
  split
  · rfl
  · split
    · exact Function.update_of_ne ne _ _
    · rfl

theorem ttl_getExchangeRate (call : Call) (cache : RateCache) (req : GetExchangeRateRequest) :
    (getExchangeRate call cache req).1.ttl = cache.ttl := by
  have kept := RateCache.ttl_get cache call.now req.key
  unfold getExchangeRate
  split
  · rfl
  · split
    · next found => rw [found] at kept; exact kept
    · next found =>
        rw [found] at kept
        split <;> exact kept

variable {req : GetExchangeRateRequest}

/-- A read touches the entry of its own key only. -/
theorem rates_getExchangeRate_of_ne (ne : key ≠ req.key) :
    (getExchangeRate call cache req).1.rates key = cache.rates key := by
  have kept : (cache.get call.now req.key).1.rates key = cache.rates key :=
    RateCache.rates_get_of_ne ne
  unfold getExchangeRate
  split
  · rfl
  · split
    · next found => rw [found] at kept; exact kept
    · next found =>
        rw [found] at kept
        split
        · exact (Function.update_of_ne ne _ _).trans kept
        · exact kept

theorem updateExchangeRate_of_ne_zero {req : UpdateExchangeRateRequest} (nonzero : req.rate ≠ 0) :
    (updateExchangeRate call cache req).2 ≠ none ∧
      (updateExchangeRate call cache req).1 =
        (getExchangeRate call cache req.read).1.set call.now req.read.key
          (req.newRate call.now ((1 / req.rate).round Decimal.divisionPrecision)) := by
  have inverse : Decimal.div 1 req.rate =
      some ((1 / req.rate).round Decimal.divisionPrecision) := if_neg nonzero
  by_cases zero : (getExchangeRate call cache req.read).2.rate = 0
  · simp [updateExchangeRate, inverse, zero]
  · have change : ∀ amount, Decimal.div amount (getExchangeRate call cache req.read).2.rate =
        some ((amount / (getExchangeRate call cache req.read).2.rate).round
          Decimal.divisionPrecision) := fun amount => if_neg zero
    simp [updateExchangeRate, inverse, zero, change]

/-- An update touches the entry of its own key only, also when it panics. -/
theorem updateExchangeRate_frame (call : Call) (cache : RateCache)
    (req : UpdateExchangeRateRequest) :
    (updateExchangeRate call cache req).1.ttl = cache.ttl ∧
      ∀ key, key ≠ req.read.key →
        (updateExchangeRate call cache req).1.rates key = cache.rates key := by
  have ttl := ttl_getExchangeRate call cache req.read
  have frame : ∀ key, key ≠ req.read.key →
      (getExchangeRate call cache req.read).1.rates key = cache.rates key :=
    fun key ne => rates_getExchangeRate_of_ne ne
  unfold updateExchangeRate
  dsimp only
  split
  · exact ⟨ttl, frame⟩
  · split
    · exact ⟨ttl, frame⟩
    · exact ⟨ttl, fun key ne => (Function.update_of_ne ne _ _).trans (frame key ne)⟩

/-- A read answers with an entry of its key that is young enough. -/
theorem getExchangeRate_of_cached {cached : CachedRate} (pair : req.fromCurrency ≠ req.toCurrency)
    (found : cache.rates req.key = some cached) (young : call.now.sub cached.timestamp ≤ cache.ttl)
      :
    getExchangeRate call cache req = (cache, cached.rate) := by
  have hit : cache.get call.now req.key = (cache, some cached.rate) := by
    simp only [RateCache.get, found, if_neg (not_lt.mpr young)]
  simp [getExchangeRate, pair, hit]

theorem getExchangeRate_of_missed (pair : req.fromCurrency ≠ req.toCurrency)
    (old : ∀ cached ∈ cache.rates req.key, cache.ttl < call.now.sub cached.timestamp) :
    (getExchangeRate call cache req).2 = (ask call req).getD (one call req "DEFAULT" true) := by
  have miss : (cache.get call.now req.key).2 = none := by
    unfold RateCache.get
    cases found : cache.rates req.key with
    | none => rfl
    | some cached => simp [old cached found]
  unfold getExchangeRate
  rw [if_neg pair]
  split
  · next hit => simp [hit] at miss
  · split
    · next answer => simp [answer]
    · next answer => simp [answer]

end Frames

/-! ## Runs -/

theorem runUpdates_frame (updates : List (Call × UpdateExchangeRateRequest)) (cache : RateCache) :
    (runUpdates cache updates).ttl = cache.ttl ∧
      ∀ key, (∀ update ∈ updates, key ≠ update.2.read.key) →
        (runUpdates cache updates).rates key = cache.rates key := by
  induction updates generalizing cache with
  | nil => exact ⟨rfl, fun key _ => rfl⟩
  | cons update rest ih =>
    obtain ⟨ttl, frame⟩ := updateExchangeRate_frame update.1 cache update.2
    obtain ⟨ttlRest, frameRest⟩ := ih (updateExchangeRate update.1 cache update.2).1
    refine ⟨ttlRest.trans ttl, fun key others => ?_⟩
    rw [List.forall_mem_cons] at others
    exact (frameRest key others.2).trans (frame key others.1)

theorem rates_runUpdates_last {before after : List (Call × UpdateExchangeRateRequest)} {call : Call}
    {u : UpdateExchangeRateRequest} (cache : RateCache) (nonzero : u.rate ≠ 0)
    (last : ∀ later ∈ after, u.read.key ≠ later.2.read.key) :
    (runUpdates cache (before ++ (call, u) :: after)).rates u.read.key =
      some
        { rate := u.newRate call.now ((1 / u.rate).round Decimal.divisionPrecision)
          timestamp := call.now } := by
  have split : runUpdates cache (before ++ (call, u) :: after) =
      runUpdates (updateExchangeRate call (runUpdates cache before) u).1 after := by
    simp [runUpdates, List.foldl_append]
  rw [split, (runUpdates_frame after _).2 _ last, (updateExchangeRate_of_ne_zero nonzero).2]
  exact Function.update_self _ _ _

/-- A rate that is not zero, for codes and a type whose texts the key keeps apart. -/
structure UpdateExchangeRateRequest.Sound (req : UpdateExchangeRateRequest) : Prop where
  nonzero : req.rate ≠ 0
  fromCurrency : Plain req.fromCurrency
  toCurrency : Plain req.toCurrency
  rateType : Plain req.rateType.string

/-- A request for codes and a type whose texts the key keeps apart. -/
structure GetExchangeRateRequest.Sound (req : GetExchangeRateRequest) : Prop where
  fromCurrency : Plain req.fromCurrency
  toCurrency : Plain req.toCurrency
  rateType : Plain req.rateType.string

/-- Two requests are for the same pair, type and day, or both for no day. -/
structure GetExchangeRateRequest.SameQuote (req other : GetExchangeRateRequest) : Prop where
  fromCurrency : req.fromCurrency = other.fromCurrency
  toCurrency : req.toCurrency = other.toCurrency
  rateType : req.rateType = other.rateType
  rateDate : req.rateDate.map Time.date = other.rateDate.map Time.date

theorem UpdateExchangeRateRequest.Sound.read {req : UpdateExchangeRateRequest}
    (sound : req.Sound) : req.read.Sound :=
  ⟨sound.fromCurrency, sound.toCurrency, sound.rateType⟩

theorem GetExchangeRateRequest.key_inj {req other : GetExchangeRateRequest} (sound : req.Sound)
    (sound' : other.Sound) : req.key = other.key ↔ req.SameQuote other := by
  have keys : req.key = other.key ↔ _ := buildCacheKey_inj sound.fromCurrency sound.toCurrency
    sound.rateType sound'.fromCurrency sound'.toCurrency sound'.rateType
  constructor
  · intro same
    obtain ⟨sameFrom, sameTo, sameType, sameDate⟩ := keys.mp same
    exact ⟨sameFrom, sameTo, sameType, sameDate⟩
  · intro same
    exact keys.mpr ⟨same.fromCurrency, same.toCurrency, same.rateType, same.rateDate⟩

/-- After updates to rates that are not zero, a read for the pair, type and day of one that no later
update replaces gives its rate, with the reciprocal to sixteen places, as long as the entry lives;
the entry of every other request, that of the inverse pair included, is as it was.  Two requests
share an entry exactly when pair, type and day agree.  No update divides by zero.  A currency
against itself has the rate one, and what no living entry answers the provider does, else it is
one. -/
theorem rates_kept (cache : RateCache) (updates : List (Call × UpdateExchangeRateRequest))
    (sound : ∀ update ∈ updates, update.2.Sound) :
    (∀ before call u after, updates = before ++ (call, u) :: after →
      (∀ later ∈ after, ¬u.read.SameQuote later.2.read) →
      ∀ (read : Call) (req : GetExchangeRateRequest), req.SameQuote u.read →
        u.fromCurrency ≠ u.toCurrency → read.now.sub call.now ≤ cache.ttl →
        (getExchangeRate read (runUpdates cache updates) req).2 =
          u.newRate call.now ((1 / u.rate).round Decimal.divisionPrecision)) ∧
    (∀ req : GetExchangeRateRequest, req.Sound →
      (∀ update ∈ updates, ¬req.SameQuote update.2.read) →
      (runUpdates cache updates).rates req.key = cache.rates req.key) ∧
    (∀ req other : GetExchangeRateRequest, req.Sound → other.Sound →
      (req.key = other.key ↔ req.SameQuote other)) ∧
    (∀ update ∈ updates, ∀ any : RateCache, (updateExchangeRate update.1 any update.2).2 ≠ none) ∧
    (∀ (call : Call) (any : RateCache) (req : GetExchangeRateRequest),
      (req.fromCurrency = req.toCurrency →
        (getExchangeRate call any req).2 = one call req "SYSTEM" false) ∧
      (req.fromCurrency ≠ req.toCurrency →
        (∀ cached ∈ any.rates req.key, any.ttl < call.now.sub cached.timestamp) →
        (getExchangeRate call any req).2 = (ask call req).getD (one call req "DEFAULT" true))) := by
  refine ⟨?_, ?_, fun req other reqSound otherSound => req.key_inj reqSound otherSound,
    fun update inRun any => (updateExchangeRate_of_ne_zero (sound update inRun).nonzero).1, ?_⟩
  · rintro before call u after rfl last read req same pair young
    rw [List.forall_mem_append, List.forall_mem_cons] at sound
    obtain ⟨-, soundU, soundAfter⟩ := sound
    have others : ∀ later ∈ after, u.read.key ≠ later.2.read.key := fun later inAfter sameKey =>
      last later inAfter ((u.read.key_inj soundU.read (soundAfter later inAfter).read).mp sameKey)
    have entry : (runUpdates cache (before ++ (call, u) :: after)).rates u.read.key = _ :=
      rates_runUpdates_last cache soundU.nonzero others
    have reqSound : req.Sound := by
      refine ⟨?_, ?_, ?_⟩
      · rw [same.fromCurrency]; exact soundU.fromCurrency
      · rw [same.toCurrency]; exact soundU.toCurrency
      · rw [same.rateType]; exact soundU.rateType
    rw [← (req.key_inj reqSound soundU.read).mpr same] at entry
    have reqPair : req.fromCurrency ≠ req.toCurrency := by
      rw [same.fromCurrency, same.toCurrency]; exact pair
    have ttl := (runUpdates_frame (before ++ (call, u) :: after) cache).1
    rw [getExchangeRate_of_cached reqPair entry (by rw [ttl]; exact young)]
  · intro req reqSound others
    refine (runUpdates_frame updates cache).2 req.key fun update inRun sameKey => ?_
    exact others update inRun ((req.key_inj reqSound (sound update inRun).read).mp sameKey)
  · intro call any req
    refine ⟨fun same => ?_, getExchangeRate_of_missed⟩
    rw [getExchangeRate, if_pos same]

def dollarInEuros : UpdateExchangeRateRequest :=
  { fromCurrency := "USD"
    toCurrency := "EUR"
    rate := 2
    rateDate := Time.zero
    rateType := .spot
    source := "BANK" }

theorem rates_kept_dollarInEuros :
    (getExchangeRate { now := Time.zero }
      (runUpdates (RateCache.new 1000) [({ now := Time.zero }, dollarInEuros)])
      dollarInEuros.read).2.rate = 2 := by
  have sound : dollarInEuros.Sound := by
    refine ⟨by decide +kernel, ?_, ?_, ?_⟩
    · show '-' ∉ "USD".toList
      decide
    · show '-' ∉ "EUR".toList
      decide
    · show '-' ∉ "SPOT".toList
      decide
  have kept := (rates_kept (RateCache.new 1000) [({ now := Time.zero }, dollarInEuros)]
    (by simpa using sound)).1 [] { now := Time.zero } dollarInEuros [] rfl (by simp)
    { now := Time.zero } dollarInEuros.read ⟨rfl, rfl, rfl, rfl⟩ (by decide) (by decide +kernel)
  rw [kept]
  rfl

/-- The inverse pair is not given the reciprocal, and a day later the rate is forgotten. -/
theorem inverse_and_expired_rate_not_kept :
    let cache := runUpdates (RateCache.new 1000) [({ now := Time.zero }, dollarInEuros)]
    let nextDay : Time := ⟨1, 1, 2, 0, by decide⟩
    (getExchangeRate { now := Time.zero } cache
        { fromCurrency := "EUR", toCurrency := "USD", rateDate := some Time.zero
          rateType := .spot }).2.rate ≠ 1 / 2 ∧
      (getExchangeRate { now := nextDay } cache dollarInEuros.read).2.rate ≠ 2 := by
  decide +kernel

end ErpFinance.Service.ExchangeRates
