import ErpFinance.Library.Run
import ErpFinance.Service.TransactionNumbering

/-!
# Uniqueness of transaction numbers

When numbers of one tenant do not repeat.  A sequence is reset by comparing the
rule's last update with the date on the request, and the number names the
prefix and the date but neither the type nor the series nor the entity.  Hence
two things have to be excluded: a date outside the current period, and two
rules of one tenant that share a prefix in one period.
-/

namespace ErpFinance.Service

open Domain Library

namespace TransactionNumbering

/-! ## Periods -/

/-- The place of an instant's period within its year. -/
def periodInYear (frequency : ResetFrequency) (t : Time) : Nat :=
  match frequency with
  | .daily => t.yearDay
  | .monthly => t.month
  | .quarterly => getQuarter t
  | _ => 0

/-- The period of an instant; without resets there is only one. -/
def period (frequency : ResetFrequency) (t : Time) : Int × Nat :=
  if frequency = .never then (0, 0) else (t.year, periodInYear frequency t)

variable {frequency : ResetFrequency} {first second : Time}

theorem periodChanged_eq_false_iff :
    periodChanged frequency first second = false ↔
      period frequency first = period frequency second := by
  cases frequency with
  | quarterly => simp [periodChanged, period, periodInYear, and_comm]
  | _ => simp [periodChanged, period, periodInYear, isSameDay, isSameMonth]

theorem periodInYear_mono (frequency : ResetFrequency) (order : second.before first = false)
    (year : first.year = second.year) :
    periodInYear frequency first ≤ periodInYear frequency second := by
  have months := Time.month_le_of_not_before order year
  have days := Time.yearDay_le_of_not_before order year
  cases frequency with
  | daily => exact days
  | monthly => exact months
  | quarterly =>
    unfold periodInYear getQuarter
    dsimp only
    omega
  | never => exact le_refl _
  | yearly => exact le_refl _

theorem period_between {first middle last : Time} (early : middle.before first = false)
    (late : last.before middle = false) (same : period frequency first = period frequency last) :
    period frequency middle = period frequency last := by
  unfold period at same ⊢
  by_cases never : frequency = .never
  · simp [never]
  · simp only [if_neg never, Prod.mk.injEq] at same ⊢
    have yearsEarly := Time.year_le_of_not_before early
    have yearsLate := Time.year_le_of_not_before late
    have sameYear : middle.year = last.year := by omega
    have placeEarly := periodInYear_mono frequency early (by omega)
    have placeLate := periodInYear_mono frequency late sameYear
    exact ⟨sameYear, by omega⟩

/-! ## What a number tells -/

/-- What all rules of the service have in common. -/
structure Regular (rule : NumberingRule) : Prop where
  startsAtOne : rule.startingNumber = 1
  noSuffix : rule.suffix = none
  prefixed : rule.rulePrefix ≠ ""
  noDash : '-' ∉ rule.rulePrefix.toList
  dated : (rule.dateFormat = some "YYYY" ∧ rule.resetFrequency = .yearly) ∨
    (rule.dateFormat = some "YYYYMMDD" ∧ rule.resetFrequency = .daily)
  nonneg : 0 ≤ rule.currentNumber

theorem toList_zeroPadded (width : Nat) (n : Int) :
    (zeroPadded width n).toList = paddedInt width n := by
  simp [zeroPadded]

/-- A number is its prefix, its date and its sequence, joined by dashes. -/
theorem toList_formatTransactionNumber {rule : NumberingRule} (regular : Regular rule)
    {format : String} (dated : rule.dateFormat = some format) (date : Time) :
    (formatTransactionNumber rule date).toList =
      rule.rulePrefix.toList ++ '-' :: ((formatDate format date).toList ++
        '-' :: paddedInt rule.numberLength rule.currentNumber) := by
  simp [formatTransactionNumber, regular.prefixed, regular.noSuffix, dated, toList_zeroPadded]

/-- A two-digit field of a date fills two places. -/
theorem length_paddedInt_two {n : Nat} (fits : n < 100) : (paddedInt 2 n).length = 2 :=
  length_paddedDigits (by decide) fits

theorem day_lt_hundred (t : Time) : t.day < 100 := by
  have bound : daysInMonth t.year t.month ≤ 31 := by
    unfold daysInMonth
    split
    · split <;> decide
    all_goals decide
  have inMonth := t.valid.2.1.2
  omega

theorem period_of_formatDate {format : String}
    (dated : (format = "YYYY" ∧ frequency = .yearly) ∨ (format = "YYYYMMDD" ∧ frequency = .daily))
    (same : formatDate format first = formatDate format second) :
    period frequency first = period frequency second := by
  rcases dated with ⟨rfl, rfl⟩ | ⟨rfl, rfl⟩
  · have years : paddedInt 0 first.year = paddedInt 0 second.year := by
      simpa [formatDate, itoa, zeroPadded, ← String.toList_inj] using same
    simp [period, periodInYear, paddedInt_injective years]
  · have digits : (paddedInt 4 first.year ++ paddedInt 2 first.month) ++ paddedInt 2 first.day =
        (paddedInt 4 second.year ++ paddedInt 2 second.month) ++ paddedInt 2 second.day := by
      simpa [formatDate, zeroPadded, ← String.toList_inj] using same
    have monthBound := first.valid.1.2
    have monthBound' := second.valid.1.2
    obtain ⟨heads, days⟩ := List.append_inj' digits (by
      rw [length_paddedInt_two (day_lt_hundred first),
        length_paddedInt_two (day_lt_hundred second)])
    obtain ⟨years, months⟩ := List.append_inj' heads (by
      rw [length_paddedInt_two (by omega), length_paddedInt_two (by omega)])
    have sameYear := paddedInt_injective years
    have sameMonth : first.month = second.month := by
      exact_mod_cast paddedInt_injective months
    have sameDay : first.day = second.day := by
      exact_mod_cast paddedInt_injective days
    simp [period, periodInYear, Time.yearDay, sameYear, sameMonth, sameDay]

/-- Every rule prints its dates so that they tell its periods. -/
theorem Regular.exists_format {rule : NumberingRule} (regular : Regular rule) :
    ∃ format, rule.dateFormat = some format ∧ ∀ first second,
      formatDate format first = formatDate format second →
        period rule.resetFrequency first = period rule.resetFrequency second := by
  rcases regular.dated with ⟨dated, frequency⟩ | ⟨dated, frequency⟩
  · exact ⟨_, dated, fun _ _ => period_of_formatDate (Or.inl ⟨rfl, frequency⟩)⟩
  · exact ⟨_, dated, fun _ _ => period_of_formatDate (Or.inr ⟨rfl, frequency⟩)⟩

theorem Regular.sameFrequency {rule other : NumberingRule} (regular : Regular rule)
    (regular' : Regular other) (same : rule.dateFormat = other.dateFormat) :
    rule.resetFrequency = other.resetFrequency := by
  rcases regular.dated with ⟨dated, frequency⟩ | ⟨dated, frequency⟩ <;>
    rcases regular'.dated with ⟨dated', frequency'⟩ | ⟨dated', frequency'⟩ <;>
      simp [dated, dated', frequency, frequency'] at same ⊢

theorem parts_of_formatTransactionNumber {rule other : NumberingRule} (regular : Regular rule)
    (regular' : Regular other) {format format' : String} (dated : rule.dateFormat = some format)
    (dated' : other.dateFormat = some format') {date date' : Time}
    (same : formatTransactionNumber rule date = formatTransactionNumber other date') :
    rule.rulePrefix = other.rulePrefix ∧ formatDate format date = formatDate format' date' ∧
      paddedInt rule.numberLength rule.currentNumber =
        paddedInt other.numberLength other.currentNumber := by
  have texts := congrArg String.toList same
  rw [toList_formatTransactionNumber regular dated,
    toList_formatTransactionNumber regular' dated'] at texts
  obtain ⟨prefixes, rests⟩ := eq_of_append_first regular.noDash regular'.noDash texts
  obtain ⟨dates, sequences⟩ := eq_of_append_last (dash_notMem_paddedInt regular.nonneg)
    (dash_notMem_paddedInt regular'.nonneg) rests
  exact ⟨String.toList_inj.mp prefixes, String.toList_inj.mp dates, sequences⟩

/--
The date lies in the current period, the clock has not gone back behind a
rule, no other rule of the tenant with the same prefix was used in the period,
and the sequence has room.
-/
structure IssueGuard (now : Time) (s : Numbering) (req : GenerateNumberRequest) : Prop where
  inPeriod : periodChanged (getNumberingRule now s.rules req).1.resetFrequency now
    req.transactionDate = false
  clock : ∀ rule ∈ s.rules.rows, now.before rule.updatedAt = false
  alone : ∀ other ∈ s.rules.rows, other.ruleKey ≠ (getNumberingRule now s.rules req).1.ruleKey →
    other.tenantID = req.tenantID → 0 < other.currentNumber →
    other.rulePrefix = (getNumberingRule now s.rules req).1.rulePrefix →
    other.dateFormat = (getNumberingRule now s.rules req).1.dateFormat ∧
      shouldResetSequence other req.transactionDate = true
  room : (getNumberingRule now s.rules req).1.currentNumber < 2 ^ 63 - 1

def Guard (s : Numbering) : Operation → Prop
  | .generate now req => IssueGuard now s req
  | .reserve now _ req => IssueGuard now s req
  | _ => True

/-! ## Drawing a number -/

/--
A number was drawn from a rule: in the period of a clock reading that is not
later than the rule's last update, and within the sequence if that period is
still running.
-/
def IssuedBy (rule : NumberingRule) (number : String) : Prop :=
  ∃ k date clock, number = formatTransactionNumber { rule with currentNumber := k } date ∧
    1 ≤ k ∧ 1 ≤ rule.currentNumber ∧ rule.updatedAt.before clock = false ∧
    period rule.resetFrequency clock = period rule.resetFrequency date ∧
    (period rule.resetFrequency rule.updatedAt = period rule.resetFrequency date →
      k ≤ rule.currentNumber)

theorem int64_of_bounds {n : Int} (low : 0 ≤ n) (high : n < 2 ^ 63) : int64 n = n := by
  unfold int64
  omega

section Drawing

variable {rule : NumberingRule} {now date : Time}

/-- Drawing moves the sequence on, from one again after a period has passed. -/
theorem drawNumber_eq (regular : Regular rule) (room : rule.currentNumber < 2 ^ 63 - 1) :
    drawNumber now rule date = { rule with
      updatedAt := now
      currentNumber :=
        if shouldResetSequence rule date = true then 1 else rule.currentNumber + 1 } := by
  have nonneg := regular.nonneg
  unfold drawNumber resetRule
  by_cases reset : shouldResetSequence rule date = true
  · simp only [if_pos reset, regular.startsAtOne]
    rfl
  · simp only [if_neg reset]
    rw [int64_of_bounds (by omega) (by omega)]

theorem one_le_drawNumber (now date : Time) (regular : Regular rule)
    (room : rule.currentNumber < 2 ^ 63 - 1) :
    1 ≤ (drawNumber now rule date).currentNumber := by
  have nonneg := regular.nonneg
  rw [drawNumber_eq regular room]
  dsimp only
  split <;> omega

theorem Regular.withNumber (regular : Regular rule) {k : Int} (nonneg : 0 ≤ k) :
    Regular { rule with currentNumber := k } :=
  ⟨regular.startsAtOne, regular.noSuffix, regular.prefixed, regular.noDash, regular.dated, nonneg⟩

theorem Regular.drawn (now date : Time) (regular : Regular rule)
    (room : rule.currentNumber < 2 ^ 63 - 1) :
    Regular (drawNumber now rule date) := by
  have positive := one_le_drawNumber now date regular room
  rw [drawNumber_eq regular room] at positive ⊢
  exact ⟨regular.startsAtOne, regular.noSuffix, regular.prefixed, regular.noDash, regular.dated,
    by omega⟩

theorem le_of_issued (clock : now.before rule.updatedAt = false)
    (inPeriod : periodChanged rule.resetFrequency now date = false) {k : Int}
    {old reading : Time} (earlier : rule.updatedAt.before reading = false)
    (drawnFor : period rule.resetFrequency reading = period rule.resetFrequency old)
    (within : period rule.resetFrequency rule.updatedAt = period rule.resetFrequency old →
      k ≤ rule.currentNumber)
    (current : period rule.resetFrequency old = period rule.resetFrequency date) :
    k ≤ rule.currentNumber ∧ shouldResetSequence rule date = false := by
  have today := periodChanged_eq_false_iff.mp inPeriod
  have updated : period rule.resetFrequency rule.updatedAt = period rule.resetFrequency now :=
    period_between earlier clock (by rw [drawnFor, current, today])
  refine ⟨within (by rw [updated, today, current]), ?_⟩
  unfold shouldResetSequence
  rw [periodChanged_eq_false_iff, updated, today]

theorem IssuedBy.drawn (regular : Regular rule) (room : rule.currentNumber < 2 ^ 63 - 1)
    (clock : now.before rule.updatedAt = false)
    (inPeriod : periodChanged rule.resetFrequency now date = false) {number : String}
    (issued : IssuedBy rule number) : IssuedBy (drawNumber now rule date) number := by
  obtain ⟨k, old, reading, built, positive, _, earlier, drawnFor, within⟩ := issued
  have used := one_le_drawNumber now date regular room
  rw [drawNumber_eq regular room] at used ⊢
  refine ⟨k, old, reading, built, positive, used, Time.not_before_trans earlier clock, drawnFor,
    ?_⟩
  intro nowIsOld
  dsimp only at nowIsOld ⊢
  have current : period rule.resetFrequency old = period rule.resetFrequency date := by
    rw [← nowIsOld]
    exact periodChanged_eq_false_iff.mp inPeriod
  obtain ⟨le, noReset⟩ := le_of_issued clock inPeriod earlier drawnFor within current
  rw [if_neg (by simp [noReset])]
  omega

theorem issuedBy_drawNumber (regular : Regular rule) (room : rule.currentNumber < 2 ^ 63 - 1)
    (inPeriod : periodChanged rule.resetFrequency now date = false) :
    IssuedBy (drawNumber now rule date)
      (formatTransactionNumber (drawNumber now rule date) date) := by
  have used := one_le_drawNumber now date regular room
  rw [drawNumber_eq regular room] at used ⊢
  exact ⟨_, date, now, rfl, used, used, Time.before_irrefl now,
    periodChanged_eq_false_iff.mp inPeriod, fun _ => Int.le_refl _⟩

theorem not_issuedBy_of_drawn (regular : Regular rule)
    (room : rule.currentNumber < 2 ^ 63 - 1) (clock : now.before rule.updatedAt = false)
    (inPeriod : periodChanged rule.resetFrequency now date = false) :
    ¬ IssuedBy rule (formatTransactionNumber (drawNumber now rule date) date) := by
  rintro ⟨k, old, reading, built, positive, _, earlier, drawnFor, within⟩
  have regularDrawn := regular.drawn now date room
  rw [drawNumber_eq regular room] at built regularDrawn
  obtain ⟨format, dated, tells⟩ := regular.exists_format
  obtain ⟨_, dates, sequences⟩ := parts_of_formatTransactionNumber
    (regular.withNumber (k := k) (by omega)) regularDrawn dated dated built.symm
  have next : k = if shouldResetSequence rule date = true then 1 else rule.currentNumber + 1 :=
    paddedInt_injective sequences
  obtain ⟨le, noReset⟩ := le_of_issued clock inPeriod earlier drawnFor within (tells _ _ dates)
  rw [if_neg (by simp [noReset])] at next
  omega

theorem not_issuedBy_other {other : NumberingRule} (regular : Regular rule)
    (regularOther : Regular other) (room : rule.currentNumber < 2 ^ 63 - 1)
    (clock : now.before other.updatedAt = false)
    (inPeriod : periodChanged rule.resetFrequency now date = false)
    (alone : 0 < other.currentNumber → other.rulePrefix = rule.rulePrefix →
      other.dateFormat = rule.dateFormat ∧ shouldResetSequence other date = true) :
    ¬ IssuedBy other (formatTransactionNumber (drawNumber now rule date) date) := by
  rintro ⟨k, old, reading, built, positive, used, earlier, drawnFor, _⟩
  have regularDrawn := regular.drawn now date room
  rw [drawNumber_eq regular room] at built regularDrawn
  have regularOld : Regular { other with currentNumber := k } :=
    regularOther.withNumber (by omega)
  obtain ⟨format, dated, tells⟩ := regularOther.exists_format
  obtain ⟨format', dated', _⟩ := regular.exists_format
  obtain ⟨prefixes, dates, _⟩ := parts_of_formatTransactionNumber regularOld regularDrawn dated
    dated' built.symm
  -- a shared prefix comes with a shared format, so the dates can be compared
  obtain ⟨sameFormat, changed⟩ := alone (by omega) prefixes
  rw [← regularOther.sameFrequency regular sameFormat] at inPeriod
  rw [dated, dated', Option.some.injEq] at sameFormat
  rw [← sameFormat] at dates
  have today := periodChanged_eq_false_iff.mp inPeriod
  have updated : period other.resetFrequency other.updatedAt =
      period other.resetFrequency now :=
    period_between earlier clock (by rw [drawnFor, tells _ _ dates, today])
  have unchanged : shouldResetSequence other date = false := by
    unfold shouldResetSequence
    rw [periodChanged_eq_false_iff, updated, today]
  rw [unchanged] at changed
  cases changed

end Drawing

/-! ## The table of rules -/

def Issued (rules : Table NumberingRule) (tenantID : Uuid) (number : String) : Prop :=
  ∃ rule ∈ rules.rows, rule.tenantID = tenantID ∧ IssuedBy rule number

theorem regular_yearlyRule (now : Time) (transactionType : TransactionType)
    {series rulePrefix : String} (prefixed : rulePrefix ≠ "") (noDash : '-' ∉ rulePrefix.toList) :
    Regular (yearlyRule now transactionType series rulePrefix) :=
  ⟨rfl, rfl, prefixed, noDash, Or.inl ⟨rfl, rfl⟩, Int.le_refl 0⟩

theorem regular_createDefaultRule (now : Time) (req : GenerateNumberRequest) (series : String) :
    Regular (createDefaultRule now req series) := by
  have named : getDefaultPrefix req.transactionType ≠ "" ∧
      '-' ∉ (getDefaultPrefix req.transactionType).toList := by
    unfold getDefaultPrefix
    split <;> decide
  exact ⟨rfl, rfl, named.1, named.2, Or.inl ⟨rfl, rfl⟩, Int.le_refl 0⟩

section Rules

variable {now : Time} {rules : Table NumberingRule} {req : GenerateNumberRequest}

theorem getNumberingRule_spec :
    (getNumberingRule now rules req).1 ∈ (getNumberingRule now rules req).2.rows ∧
      (getNumberingRule now rules req).1.tenantID = req.tenantID ∧
      (∀ rule ∈ rules.rows, rule ∈ (getNumberingRule now rules req).2.rows) ∧
      ∀ rule ∈ (getNumberingRule now rules req).2.rows, rule ∈ rules.rows ∨
        (rule = (getNumberingRule now rules req).1 ∧ Regular rule ∧ rule.updatedAt = now ∧
          rule.currentNumber = 0) := by
  unfold getNumberingRule
  dsimp only
  split
  · rename_i rule found
    have stored := Table.key_of_get? found
    refine ⟨Table.mem_of_get? found, ?_, fun _ member => member, fun _ member => Or.inl member⟩
    exact congrArg Prod.fst stored
  · rename_i absent
    have rows : (rules.insert (createDefaultRule now req (req.series.getD "MAIN"))).rows =
        rules.rows ++ [createDefaultRule now req (req.series.getD "MAIN")] :=
      Table.rows_insert absent
    simp only [rows, List.mem_append, List.mem_singleton]
    refine ⟨by simp, rfl, fun _ member => Or.inl member, ?_⟩
    rintro rule (old | rfl)
    · exact Or.inl old
    · exact Or.inr ⟨rfl, regular_createDefaultRule now req _, rfl, rfl⟩

theorem drawNumber_ruleKey (now date : Time) (rule : NumberingRule) :
    (drawNumber now rule date).ruleKey = rule.ruleKey := by
  unfold drawNumber resetRule
  dsimp only
  split <;> rfl

section Drawn

variable {rule : NumberingRule} {date : Time}

theorem drawNumber_tenantID (now date : Time) (rule : NumberingRule) :
    (drawNumber now rule date).tenantID = rule.tenantID :=
  congrArg Prod.fst (drawNumber_ruleKey now date rule)

theorem mem_put_drawNumber (now date : Time) (stored : rule ∈ rules.rows) :
    drawNumber now rule date ∈ (rules.put (drawNumber now rule date)).rows := by
  apply Table.mem_put_self
  rw [NumberingRule.key_eq, drawNumber_ruleKey]
  exact Table.get?_key_of_mem stored

theorem issued_drawNumber (stored : rule ∈ rules.rows) (regular : Regular rule)
    (room : rule.currentNumber < 2 ^ 63 - 1)
    (inPeriod : periodChanged rule.resetFrequency now date = false) :
    Issued (rules.put (drawNumber now rule date)) rule.tenantID
      (formatTransactionNumber (drawNumber now rule date) date) :=
  ⟨_, mem_put_drawNumber now date stored, drawNumber_tenantID now date rule,
    issuedBy_drawNumber regular room inPeriod⟩

theorem Issued.put_drawNumber (stored : rule ∈ rules.rows) (regular : Regular rule)
    (room : rule.currentNumber < 2 ^ 63 - 1) (clock : now.before rule.updatedAt = false)
    (inPeriod : periodChanged rule.resetFrequency now date = false) {tenantID : Uuid}
    {number : String} (issued : Issued rules tenantID number) :
    Issued (rules.put (drawNumber now rule date)) tenantID number := by
  obtain ⟨other, member, hasTenant, issuedBy⟩ := issued
  by_cases same : other.ruleKey = rule.ruleKey
  · obtain rfl : other = rule := Table.eq_of_key_eq member stored same
    exact ⟨_, mem_put_drawNumber now date stored,
      (drawNumber_tenantID now date other).trans hasTenant,
      issuedBy.drawn regular room clock inPeriod⟩
  · refine ⟨other, Table.mem_put_of_ne member ?_, hasTenant, issuedBy⟩
    simpa [drawNumber_ruleKey] using same

end Drawn

end Rules

/-- What a guarded call of the generator leaves behind and hands out. -/
structure Generated (s : Numbering) (req : GenerateNumberRequest)
    (out : Numbering × Except String String) : Prop where
  reservations : out.1.reservations = s.reservations
  handedOut : out.1.handedOut = s.handedOut
  regular : ∀ rule ∈ out.1.rules.rows, Regular rule
  grows : ∀ tenantID number, Issued s.rules tenantID number → Issued out.1.rules tenantID number
  fresh : ∀ number, out.2 = .ok number → Issued out.1.rules req.tenantID number ∧
    ¬ Issued s.rules req.tenantID number ∧ s.reservations.get? number = none

theorem generate_spec {now : Time} {s : Numbering} {req : GenerateNumberRequest}
    (regular : ∀ rule ∈ s.rules.rows, Regular rule) (guard : IssueGuard now s req) :
    Generated s req (generateTransactionNumber now s req) := by
  obtain ⟨inPeriod, clock, alone, room⟩ := guard
  obtain ⟨stored, tenant, kept, origin⟩ := @getNumberingRule_spec now s.rules req
  unfold generateTransactionNumber
  generalize getNumberingRule now s.rules req = found at *
  obtain ⟨rule, rules⟩ := found
  dsimp only at *
  have regularAll : ∀ other ∈ rules.rows, Regular other := by
    intro other member
    rcases origin other member with old | ⟨_, isRegular, _⟩
    · exact regular other old
    · exact isRegular
  have clockAll : ∀ other ∈ rules.rows, now.before other.updatedAt = false := by
    intro other member
    rcases origin other member with old | ⟨_, _, isNow, _⟩
    · exact clock other old
    · rw [isNow]
      exact Time.before_irrefl now
  have isRegular := regularAll rule stored
  have regularAfter : ∀ other ∈ (rules.put (drawNumber now rule req.transactionDate)).rows,
      Regular other := by
    intro other member
    rcases Table.mem_put member with rfl | ⟨old, _⟩
    · exact isRegular.drawn now req.transactionDate room
    · exact regularAll other old
  have grows : ∀ tenantID number, Issued s.rules tenantID number →
      Issued (rules.put (drawNumber now rule req.transactionDate)) tenantID number := by
    rintro tenantID number ⟨other, member, hasTenant, issued⟩
    exact Issued.put_drawNumber stored isRegular room (clockAll rule stored) inPeriod
      ⟨other, kept other member, hasTenant, issued⟩
  have issuedNow : Issued (rules.put (drawNumber now rule req.transactionDate)) req.tenantID
      (formatTransactionNumber (drawNumber now rule req.transactionDate) req.transactionDate) :=
    tenant ▸ issued_drawNumber stored isRegular room inPeriod
  have notBefore : ¬ Issued s.rules req.tenantID
      (formatTransactionNumber (drawNumber now rule req.transactionDate)
        req.transactionDate) := by
    rintro ⟨other, member, hasTenant, issued⟩
    by_cases same : other.ruleKey = rule.ruleKey
    · have isRule : other = rule := Table.eq_of_key_eq (kept other member) stored same
      rw [isRule] at issued
      exact not_issuedBy_of_drawn isRegular room (clockAll rule stored) inPeriod issued
    · exact not_issuedBy_other isRegular (regular other member) room (clock other member) inPeriod
        (alone other member same hasTenant) issued
  by_cases taken : isNumberExists s
      (formatTransactionNumber (drawNumber now rule req.transactionDate) req.transactionDate) =
        true
  · rw [if_pos taken]
    exact ⟨rfl, rfl, regularAfter, grows, fun number impossible => by cases impossible⟩
  · rw [if_neg taken]
    refine ⟨rfl, rfl, regularAfter, grows, ?_⟩
    intro number isNumber
    cases isNumber
    exact ⟨issuedNow, notBefore, by simpa [isNumberExists] using taken⟩

/-! ## Guarded runs -/

/--
Every number handed out or reserved was issued to its tenant, a pending
reservation's number was not handed out, and no number was handed out twice.
-/
structure Inv (s : Numbering) : Prop where
  regular : ∀ rule ∈ s.rules.rows, Regular rule
  issuedHanded : ∀ pair ∈ s.handedOut, Issued s.rules pair.1 pair.2
  issuedReserved : ∀ r ∈ s.reservations.rows, Issued s.rules r.tenantID r.transactionNumber
  pending : ∀ r ∈ s.reservations.rows, r.isConfirmed = false →
    (r.tenantID, r.transactionNumber) ∉ s.handedOut
  once : s.handedOut.Nodup

theorem inv_newNumbering (now : Time) : Inv (newNumbering now) where
  regular := by
    intro rule member
    simp only [newNumbering, defaultRules, List.mem_cons, List.not_mem_nil, or_false] at member
    rcases member with rfl | rfl | rfl | rfl
    · exact regular_yearlyRule now _ (by decide) (by decide)
    · exact regular_yearlyRule now _ (by decide) (by decide)
    · exact regular_yearlyRule now _ (by decide) (by decide)
    · exact ⟨rfl, rfl, by dsimp only; decide, by dsimp only; decide, Or.inr ⟨rfl, rfl⟩,
        Int.le_refl 0⟩
  issuedHanded := by simp [newNumbering]
  issuedReserved := by simp [newNumbering]
  pending := by simp [newNumbering]
  once := List.nodup_nil

section Steps

variable {s after : Numbering} {now : Time} {req : GenerateNumberRequest} {number : String}

/-- A call that draws a number and hands nothing out keeps the invariant. -/
theorem Inv.generated {answer : Except String String} (inv : Inv s)
    (generated : Generated s req (after, answer)) : Inv after where
  regular := generated.regular
  issuedHanded := by
    intro pair member
    rw [generated.handedOut] at member
    exact generated.grows _ _ (inv.issuedHanded pair member)
  issuedReserved := by
    intro r member
    rw [generated.reservations] at member
    exact generated.grows _ _ (inv.issuedReserved r member)
  pending := by
    rw [generated.reservations, generated.handedOut]
    exact inv.pending
  once := by
    rw [generated.handedOut]
    exact inv.once

theorem Inv.handOut (inv : Inv s) (generated : Generated s req (after, .ok number)) :
    Inv { after with handedOut := after.handedOut ++ [(req.tenantID, number)] } := by
  obtain ⟨issued, notBefore, unreserved⟩ := generated.fresh number rfl
  have kept := inv.generated generated
  refine ⟨kept.regular, ?_, kept.issuedReserved, ?_, ?_⟩
  · intro pair member
    rcases List.mem_append.mp member with old | new
    · exact kept.issuedHanded pair old
    · rw [List.mem_singleton.mp new]
      exact issued
  · intro r member unconfirmed handed
    rcases List.mem_append.mp handed with old | new
    · exact kept.pending r member unconfirmed old
    · have same := (Prod.mk.inj (List.mem_singleton.mp new)).2
      rw [generated.reservations] at member
      exact Table.get?_eq_none_iff.mp unreserved r member same
  · rw [List.nodup_append']
    refine ⟨kept.once, List.nodup_singleton _, ?_⟩
    intro pair old new
    rw [List.mem_singleton.mp new, generated.handedOut] at old
    exact notBefore (inv.issuedHanded _ old)

/-- Reserving the number that was drawn keeps the invariant. -/
theorem Inv.reserve (inv : Inv s) (generated : Generated s req (after, .ok number))
    {r : NumberReservation} (tenant : r.tenantID = req.tenantID)
    (named : r.transactionNumber = number) :
    Inv { after with reservations := after.reservations.insert r } := by
  obtain ⟨issued, notBefore, unreserved⟩ := generated.fresh number rfl
  have kept := inv.generated generated
  have free : after.reservations.get? (Keyed.key r) = none := by
    rw [generated.reservations, NumberReservation.key_eq, named]
    exact unreserved
  refine ⟨kept.regular, kept.issuedHanded, ?_, ?_, kept.once⟩
  · intro other member
    rw [Table.rows_insert free, List.mem_append, List.mem_singleton] at member
    rcases member with old | rfl
    · exact kept.issuedReserved other old
    · rw [tenant, named]
      exact issued
  · intro other member unconfirmed
    rw [Table.rows_insert free, List.mem_append, List.mem_singleton] at member
    rcases member with old | rfl
    · exact kept.pending other old unconfirmed
    · rw [tenant, named, generated.handedOut]
      exact fun handed => notBefore (inv.issuedHanded _ handed)

/-- Dropping a reservation keeps the invariant. -/
theorem Inv.remove (inv : Inv s) (number : String) :
    Inv { s with reservations := s.reservations.remove number } := by
  have kept : ∀ r ∈ (s.reservations.remove number).rows, r ∈ s.reservations.rows :=
    fun r member => (List.mem_filter.mp member).1
  exact ⟨inv.regular, inv.issuedHanded, fun r member => inv.issuedReserved r (kept r member),
    fun r member => inv.pending r (kept r member), inv.once⟩

theorem Inv.confirm (inv : Inv s) : Inv (confirmTransactionNumber now s number).1 := by
  unfold confirmTransactionNumber
  cases found : s.reservations.get? number with
  | none => exact inv
  | some r =>
    dsimp only
    have member := Table.mem_of_get? found
    have named : r.transactionNumber = number := Table.key_of_get? found
    split
    · exact inv
    · rename_i unconfirmed
      split
      · exact inv.remove number
      · have notHanded := inv.pending r member (by simpa using unconfirmed)
        rw [named] at notHanded
        refine ⟨inv.regular, ?_, ?_, ?_, ?_⟩
        · intro pair handed
          rcases List.mem_append.mp handed with old | new
          · exact inv.issuedHanded pair old
          · rw [List.mem_singleton.mp new, ← named]
            exact inv.issuedReserved r member
        · intro other stored
          rcases Table.mem_put stored with rfl | ⟨old, _⟩
          · exact inv.issuedReserved r member
          · exact inv.issuedReserved other old
        · intro other stored isPending handed
          rcases Table.mem_put stored with rfl | ⟨old, different⟩
          · cases isPending
          · rcases List.mem_append.mp handed with before | new
            · exact inv.pending other old isPending before
            · apply different
              have same := (Prod.mk.inj (List.mem_singleton.mp new)).2
              exact same.trans named.symm
        · rw [List.nodup_append']
          refine ⟨inv.once, List.nodup_singleton _, ?_⟩
          intro pair old new
          rw [List.mem_singleton.mp new] at old
          exact notHanded old

theorem Inv.release (inv : Inv s) : Inv (releaseTransactionNumber s number).1 := by
  unfold releaseTransactionNumber
  split
  · exact inv
  · split
    · exact inv
    · exact inv.remove number

theorem step_keeps (inv : Inv s) {operation : Operation} (guard : Guard s operation) :
    Inv (step s operation) := by
  cases operation with
  | generate now req =>
    have generated := generate_spec inv.regular guard
    unfold step
    dsimp only
    split
    · rename_i after number out
      rw [out] at generated
      exact inv.handOut generated
    · rename_i after err out
      rw [out] at generated
      exact inv.generated generated
  | reserve now reservedBy req =>
    have generated := generate_spec inv.regular guard
    unfold step reserveTransactionNumber
    dsimp only
    split
    · rename_i after err out
      rw [out] at generated
      exact inv.generated generated
    · rename_i after number out
      rw [out] at generated
      exact inv.reserve generated rfl rfl
  | confirm now number => exact inv.confirm
  | release number => exact inv.release

end Steps

/-! ## Confirmed numbers -/

/-- The generator leaves the reservations alone and hands out no reserved number. -/
theorem generate_unreserved (now : Time) (s : Numbering) (req : GenerateNumberRequest) :
    (generateTransactionNumber now s req).1.reservations = s.reservations ∧
      ∀ number, (generateTransactionNumber now s req).2 = .ok number →
        s.reservations.get? number = none := by
  unfold generateTransactionNumber
  dsimp only
  split
  · exact ⟨rfl, fun number impossible => by cases impossible⟩
  · rename_i free
    refine ⟨rfl, ?_⟩
    intro number isNumber
    cases isNumber
    simpa [isNumberExists] using free

section Confirmed

variable {s : Numbering} {r other : NumberReservation} {number : String}

theorem number_ne_of_confirmed (member : r ∈ s.reservations.rows)
    (confirmed : r.isConfirmed = true) (found : s.reservations.get? number = some other)
    (unconfirmed : other.isConfirmed = false) : r.transactionNumber ≠ number := by
  intro same
  rw [Table.eq_of_get? found member same, unconfirmed] at confirmed
  cases confirmed

/-- Dropping a pending reservation keeps the confirmed ones. -/
theorem mem_remove_of_confirmed (member : r ∈ s.reservations.rows)
    (confirmed : r.isConfirmed = true) (found : s.reservations.get? number = some other)
    (unconfirmed : other.isConfirmed = false) : r ∈ (s.reservations.remove number).rows := by
  apply List.mem_filter.mpr
  exact ⟨member, decide_eq_true (number_ne_of_confirmed member confirmed found unconfirmed)⟩

theorem confirmTransactionNumber_keeps (now : Time) (member : r ∈ s.reservations.rows)
    (confirmed : r.isConfirmed = true) :
    r ∈ (confirmTransactionNumber now s number).1.reservations.rows := by
  unfold confirmTransactionNumber
  split
  · exact member
  · rename_i other found
    split
    · exact member
    · rename_i notConfirmed
      have unconfirmed : other.isConfirmed = false := by simpa using notConfirmed
      split
      · exact mem_remove_of_confirmed member confirmed found unconfirmed
      · apply Table.mem_put_of_ne member
        have different := number_ne_of_confirmed member confirmed found unconfirmed
        rw [← Table.key_of_get? found] at different
        exact different

theorem releaseTransactionNumber_keeps (member : r ∈ s.reservations.rows)
    (confirmed : r.isConfirmed = true) :
    r ∈ (releaseTransactionNumber s number).1.reservations.rows := by
  unfold releaseTransactionNumber
  split
  · exact member
  · rename_i other found
    split
    · exact member
    · rename_i notConfirmed
      exact mem_remove_of_confirmed member confirmed found (by simpa using notConfirmed)

theorem confirmed_stays (member : r ∈ s.reservations.rows) (confirmed : r.isConfirmed = true)
    (operation : Operation) :
    r ∈ (step s operation).reservations.rows ∧
      handed s operation ≠ some r.transactionNumber := by
  have found : s.reservations.get? r.transactionNumber = some r :=
    Table.get?_key_of_mem member
  cases operation with
  | generate now req =>
    obtain ⟨same, unreserved⟩ := generate_unreserved now s req
    unfold step handed
    dsimp only
    cases out : generateTransactionNumber now s req with
    | mk after answer =>
      rw [out] at same unreserved
      cases answer with
      | error err => exact ⟨same ▸ member, by simp [Except.toOption]⟩
      | ok number =>
        refine ⟨same ▸ member, ?_⟩
        rintro isNumber
        cases isNumber
        rw [unreserved _ rfl] at found
        cases found
  | reserve now reservedBy req =>
    obtain ⟨same, unreserved⟩ := generate_unreserved now s req
    unfold step handed reserveTransactionNumber
    dsimp only
    cases out : generateTransactionNumber now s req with
    | mk after answer =>
      rw [out] at same unreserved
      cases answer with
      | error err => exact ⟨same ▸ member, by simp [Except.toOption]⟩
      | ok number =>
        have free : after.reservations.get? number = none := same ▸ unreserved number rfl
        constructor
        · dsimp only
          rw [Table.rows_insert free]
          exact List.mem_append_left _ (same ▸ member)
        · intro isNumber
          cases isNumber
          rw [unreserved _ rfl] at found
          cases found
  | confirm now number =>
    exact ⟨confirmTransactionNumber_keeps now member confirmed, by simp [handed]⟩
  | release number =>
    exact ⟨releaseTransactionNumber_keeps member confirmed, by simp [handed]⟩

end Confirmed

/--
In every run of guarded calls no number is handed out twice to a tenant, by the
generator or by a confirmation, and a confirmed number is never handed out
again, whatever is called next.
-/
theorem guarded_run_hands_out_once {start : Time} {s : Numbering}
    (run : Run step Guard (newNumbering start) s) :
    s.handedOut.Nodup ∧ ∀ r ∈ s.reservations.rows, r.isConfirmed = true → ∀ operation,
      r ∈ (step s operation).reservations.rows ∧
        handed s operation ≠ some r.transactionNumber := by
  have inv : Inv s := run.invariant (inv_newNumbering start)
    (fun _ _ guard inv => step_keeps inv guard)
  exact ⟨inv.once, fun r member confirmed operation =>
    confirmed_stays member confirmed operation⟩

/-! ## Sample calls -/

def mayDay : Time := ⟨2024, 5, 14, 0, by decide⟩

def sampleRequest (transactionType : TransactionType) (year : Int) : GenerateNumberRequest :=
  { tenantID := 7, transactionType := transactionType,
    transactionDate := ⟨year, 3, 1, 0, by decide, ⟨by decide, by
      show 1 ≤ 31
      decide⟩, by decide⟩ }

/-- A generated number and a reserved one of another type. -/
def sampleCalls : List Operation :=
  [.generate mayDay (sampleRequest .manual 2024),
   .reserve mayDay 21 (sampleRequest .journalEntry 2024),
   .confirm mayDay "JE-2024-000001"]

/-- Calls for two types within the current year are guarded and hand out two numbers. -/
theorem guarded_run_hands_out_once_sample :
    (sampleCalls.foldl step (newNumbering mayDay)).handedOut =
        [(7, "TXN-2024-000001"), (7, "JE-2024-000001")] ∧
      (sampleCalls.foldl step (newNumbering mayDay)).handedOut.Nodup := by
  have first : Guard (newNumbering mayDay) (.generate mayDay (sampleRequest .manual 2024)) :=
    ⟨by decide +kernel, by decide +kernel, by decide +kernel, by decide +kernel⟩
  have second : Guard (step (newNumbering mayDay) (.generate mayDay (sampleRequest .manual 2024)))
      (.reserve mayDay 21 (sampleRequest .journalEntry 2024)) :=
    ⟨by decide +kernel, by decide +kernel, by decide +kernel, by decide +kernel⟩
  have run : Run step Guard (newNumbering mayDay)
      (sampleCalls.foldl step (newNumbering mayDay)) :=
    .tail (Operation.confirm mayDay "JE-2024-000001") (.tail _ (.tail _ .refl first) second)
      (show Guard _ (Operation.confirm mayDay "JE-2024-000001") from trivial)
  exact ⟨by decide +kernel, (guarded_run_hands_out_once run).1⟩

/--
Two types that share a prefix get one number, and so do two requests with a
date in an earlier year.
-/
theorem shared_prefix_repeats_number :
    (([.generate mayDay (sampleRequest .manual 2024),
        .generate mayDay (sampleRequest .purchase 2024)] : List Operation).foldl step
        (newNumbering mayDay)).handedOut = [(7, "TXN-2024-000001"), (7, "TXN-2024-000001")] ∧
      (([.generate mayDay (sampleRequest .manual 2023),
        .generate mayDay (sampleRequest .manual 2023)] : List Operation).foldl step
        (newNumbering mayDay)).handedOut = [(7, "TXN-2023-000001"), (7, "TXN-2023-000001")] := by
  decide +kernel

end TransactionNumbering

end ErpFinance.Service
