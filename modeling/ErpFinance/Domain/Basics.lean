import ErpFinance.Library.Digits
import Mathlib.Algebra.Order.Ring.Int
import Mathlib.Algebra.Order.Ring.Rat
import Mathlib.Data.Finset.Attr

/-!
# Basic values

Identifiers, decimals, instants and the string tests the finance domain uses.
Decimals are exact rationals: `shopspring/decimal` adds, subtracts and compares
without rounding.  Instants are civil UTC times ordered lexicographically.
-/

namespace ErpFinance.Domain

/-- A 128-bit identifier; `uuid.Nil` is zero. -/
abbrev Uuid := Nat

namespace Uuid

def Nil : Uuid := 0

private def hex (value width : Nat) : String :=
  let digits := Nat.toDigits 16 value
  String.ofList (List.replicate (width - digits.length) '0' ++ digits)

/-- The canonical text `8-4-4-4-12` of an identifier. -/
def string (id : Uuid) : String :=
  hex (id / 2 ^ 96 % 2 ^ 32) 8 ++ "-" ++ hex (id / 2 ^ 80 % 2 ^ 16) 4 ++ "-" ++
    hex (id / 2 ^ 64 % 2 ^ 16) 4 ++ "-" ++ hex (id / 2 ^ 48 % 2 ^ 16) 4 ++ "-" ++
    hex (id % 2 ^ 48) 12

private theorem length_hex {value width : Nat} (positive : 0 < width)
    (fits : value < 16 ^ width) : (hex value width).toList.length = width := by
  have short := (Nat.length_toDigits_le_iff (by decide : 1 < 16) positive).mpr fits
  rw [hex, String.toList_ofList, List.length_append, List.length_replicate]
  omega

theorem length_field (n : Nat) : (hex (n % 2 ^ 16) 4).toList.length = 4 :=
  length_hex (by decide) (by omega)

theorem length_lastField (n : Nat) : (hex (n % 2 ^ 48) 12).toList.length = 12 :=
  length_hex (by decide) (by omega)

/-- The texts of all identifiers have one length. -/
theorem length_string (id : Uuid) : id.string.toList.length = 36 := by
  have first : (hex (id / 2 ^ 96 % 2 ^ 32) 8).toList.length = 8 :=
    length_hex (by decide) (by omega)
  have dash : "-".toList.length = 1 := rfl
  rw [string]
  simp only [String.toList_append, List.length_append, first, length_field, length_lastField, dash]

/-! ### Reading the text back -/

/-- The characters an identifier is written with. -/
def alphabet : List Char := "0123456789abcdef-".toList

/-- The value of a hexadecimal digit of either case. -/
def hexDigit (c : Char) : Nat := if c.isDigit then c.toNat - 48 else c.toLower.toNat - 87

/-- The value of a sequence of hexadecimal digits. -/
def ofHex (digits : List Char) : Nat := digits.foldl (fun value c => 16 * value + hexDigit c) 0

/-- The value a text stands for when its dashes are dropped. -/
def ofText (text : String) : Uuid := ofHex (text.toList.filter (· ≠ '-'))

theorem ofHex_append (digits more : List Char) :
    ofHex (digits ++ more) = ofHex digits * 16 ^ more.length + ofHex more := by
  have start (value : Nat) : more.foldl (fun value c => 16 * value + hexDigit c) value =
      value * 16 ^ more.length + ofHex more := by
    unfold ofHex
    induction more generalizing value with
    | nil => simp
    | cons c rest ih =>
      rw [List.foldl_cons, ih, List.foldl_cons, ih (16 * 0 + _), List.length_cons, pow_succ',
        Nat.mul_zero, Nat.zero_add, Nat.add_mul, Nat.mul_comm 16 value, Nat.mul_assoc,
        Nat.add_assoc]
  rw [ofHex, List.foldl_append, start]
  rfl

private theorem digit_spec : ∀ d < 16, Nat.digitChar d ∈ alphabet ∧ Nat.digitChar d ≠ '-' ∧
    hexDigit (Nat.digitChar d) = d := by
  decide

/-- Hexadecimal digits are in the alphabet, and their value is the number they were made of. -/
private theorem toDigits_spec (value : Nat) :
    (∀ c ∈ Nat.toDigits 16 value, c ∈ alphabet ∧ c ≠ '-') ∧
      ofHex (Nat.toDigits 16 value) = value := by
  induction value using Nat.strongRecOn with
  | _ value ih =>
    rw [Nat.toDigits_eq_if (by decide)]
    split
    next small =>
      obtain ⟨inAlphabet, digit, reads⟩ := digit_spec value small
      refine ⟨fun c member => ?_, by simpa [ofHex] using reads⟩
      rw [List.mem_singleton.mp member]
      exact ⟨inAlphabet, digit⟩
    next large =>
      obtain ⟨earlier, front⟩ := ih (value / 16) (by omega)
      obtain ⟨inAlphabet, digit, reads⟩ := digit_spec _ (Nat.mod_lt value (by decide))
      refine ⟨fun c member => ?_, ?_⟩
      · rcases List.mem_append.mp member with inFront | last
        · exact earlier c inFront
        · rw [List.mem_singleton.mp last]
          exact ⟨inAlphabet, digit⟩
      · have last : ofHex [Nat.digitChar (value % 16)] = value % 16 := by
          simpa [ofHex] using reads
        rw [ofHex_append, front, last, List.length_singleton]
        omega

private theorem mem_hex {value width : Nat} {c : Char} (member : c ∈ (hex value width).toList) :
    c ∈ alphabet ∧ c ≠ '-' := by
  rw [hex, String.toList_ofList] at member
  rcases List.mem_append.mp member with zeros | digits
  · rw [(List.mem_replicate.mp zeros).2]
    decide
  · exact (toDigits_spec value).1 c digits

private theorem ofHex_hex (value width : Nat) : ofHex (hex value width).toList = value := by
  have zeros (count : Nat) : ofHex (List.replicate count '0') = 0 := by
    induction count with
    | zero => rfl
    | succ count ih =>
      rw [List.replicate_succ', ofHex_append, ih, Nat.zero_mul]
      rfl
  rw [hex, String.toList_ofList, ofHex_append, zeros, (toDigits_spec value).2, Nat.zero_mul,
    Nat.zero_add]

private theorem filter_hex (value width : Nat) :
    (hex value width).toList.filter (· ≠ '-') = (hex value width).toList :=
  List.filter_eq_self.mpr fun _ member => decide_eq_true (mem_hex member).2

theorem mem_string {id : Uuid} {c : Char} (member : c ∈ id.string.toList) : c ∈ alphabet := by
  have dash : '-' ∈ alphabet := by decide
  simp only [string, String.toList_append, List.mem_append] at member
  rcases member with
    (((((((inPart | inDash) | inPart) | inDash) | inPart) | inDash) | inPart) | inDash) | inPart
  all_goals first
    | exact (mem_hex inPart).1
    | exact (List.mem_singleton.mp inDash) ▸ dash

private theorem fields_eq {n : Nat} (fits : n < 2 ^ 128) :
    (((n / 2 ^ 96 % 2 ^ 32 * 16 ^ 4 + n / 2 ^ 80 % 2 ^ 16) * 16 ^ 4 + n / 2 ^ 64 % 2 ^ 16) *
      16 ^ 4 + n / 2 ^ 48 % 2 ^ 16) * 16 ^ 12 + n % 2 ^ 48 = n := by
  omega

/-- An identifier is read back from its text. -/
theorem ofText_string {id : Uuid} (fits : id < 2 ^ 128) : ofText id.string = id := by
  have dash : "-".toList.filter (· ≠ '-') = [] := by decide
  simp only [ofText, string, String.toList_append, List.filter_append, filter_hex, dash,
    List.append_nil, ofHex_append, ofHex_hex, length_field, length_lastField]
  exact fields_eq fits

theorem string_inj {id other : Uuid} (fits : id < 2 ^ 128) (otherFits : other < 2 ^ 128) :
    id.string = other.string ↔ id = other := by
  refine ⟨fun same => ?_, congrArg string⟩
  rw [← ofText_string fits, same, ofText_string otherFits]

end Uuid

/-! ## Decimals -/

abbrev Decimal := ℚ

namespace Decimal

/-- Decimal places needed to write a denominator exactly, searched up to `fuel`. -/
private def places (den : Nat) : Nat → Nat → Nat
  | 0, count => count
  | fuel + 1, count =>
    if 10 ^ count % den = 0 then count else places den fuel (count + 1)

/-- `Decimal.String`: the shortest exact decimal expansion. -/
def string (value : Decimal) : String :=
  let count := places value.den (value.den.log2 + 1) 0
  let scaled := value.num.natAbs * (10 ^ count / value.den)
  let whole := toString (scaled / 10 ^ count)
  let fraction := Nat.toDigits 10 (scaled % 10 ^ count)
  let text :=
    if count = 0 then whole
    else whole ++ "." ++
      String.ofList (List.replicate (count - fraction.length) '0' ++ fraction)
  if value < 0 then "-" ++ text else text

/-- `StringFixed`: rounded half away from zero to a number of places. -/
def stringFixed (value : Decimal) (count : Nat) : String :=
  let scaled := ((if value < 0 then -value else value) * 10 ^ count + 1 / 2).floor.toNat
  let fraction := Nat.toDigits 10 (scaled % 10 ^ count)
  let text := toString (scaled / 10 ^ count) ++
    (if count = 0 then ""
    else "." ++ String.ofList (List.replicate (count - fraction.length) '0' ++ fraction))
  if value < 0 && scaled ≠ 0 then "-" ++ text else text

/-- `fmt.Sprintf("%.0f", value)`: the nearest integer, ties to the even one. -/
def roundHalfEven (value : Decimal) : Int :=
  let floor := value.floor
  let rest := value - floor
  if rest < 1 / 2 || (rest = 1 / 2 && floor % 2 = 0) then floor else floor + 1

end Decimal

/-! ## Strings -/

/-- `unicode.IsSpace`. -/
def isSpace (c : Char) : Bool :=
  c.val ∈ [0x09, 0x0A, 0x0B, 0x0C, 0x0D, 0x20, 0x85, 0xA0, 0x1680, 0x2028, 0x2029,
    0x202F, 0x205F, 0x3000] || (0x2000 ≤ c.val && c.val ≤ 0x200A)

/-- `strings.TrimSpace(s) == ""`. -/
def isBlank (s : String) : Bool := s.toList.all isSpace

/-- Go's `len` of a string counts bytes. -/
def byteLen (s : String) : Nat := s.utf8ByteSize

/-- Conversion to a 64-bit signed integer. -/
def int64 (n : Int) : Int := (n + 2 ^ 63) % 2 ^ 64 - 2 ^ 63

/-- Conversion to a 32-bit signed integer. -/
def int32 (n : Int) : Int := (n + 2 ^ 31) % 2 ^ 32 - 2 ^ 31

/-- `fmt.Sprintf("%02d", n)`. -/
def twoDigits (n : Nat) : String := if n < 10 then "0" ++ toString n else toString n

/-- `fmt.Sprintf("entries[%d]", i)`. -/
def entryPath (index : Nat) : String := "entries[" ++ toString index ++ "]"

/-! ## Instants -/

def isLeap (year : Int) : Bool :=
  year % 4 = 0 && (year % 100 ≠ 0 || year % 400 = 0)

def daysInMonth (year : Int) : Nat → Nat
  | 2 => if isLeap year then 29 else 28
  | 4 => 30
  | 6 => 30
  | 9 => 30
  | 11 => 30
  | _ => 31

theorem daysInMonth_pos (year : Int) (month : Nat) : 1 ≤ daysInMonth year month := by
  unfold daysInMonth
  split
  · split <;> decide
  all_goals decide

def daysThrough (year : Int) : Nat → Nat
  | 0 => 0
  | month + 1 => daysThrough year month + daysInMonth year (month + 1)

theorem daysThrough_mono (year : Int) {first second : Nat} (le : first ≤ second) :
    daysThrough year first ≤ daysThrough year second := by
  induction le with
  | refl => exact le_refl _
  | step _ ih => exact Nat.le_trans ih (Nat.le_add_right _ _)

def nanosPerDay : Nat := 86400000000000

/-- A civil instant in UTC; the calendar bounds are part of the value. -/
structure Time where
  year : Int
  month : Nat
  day : Nat
  nanos : Nat
  valid : (1 ≤ month ∧ month ≤ 12) ∧ (1 ≤ day ∧ day ≤ daysInMonth year month) ∧
    nanos < nanosPerDay
deriving DecidableEq

namespace Time

/-- `time.Time{}`: midnight on the first of January of year one. -/
def zero : Time := ⟨1, 1, 1, 0, by decide⟩

def isZero (t : Time) : Bool := t = zero

/-- Lexicographic order of the civil fields. -/
def before (s t : Time) : Bool :=
  s.year < t.year || (s.year = t.year && (s.month < t.month || (s.month = t.month &&
    (s.day < t.day || (s.day = t.day && s.nanos < t.nanos)))))

def after (s t : Time) : Bool := t.before s

/-- Midnight on the first day of an instant's month. -/
def monthStart (t : Time) : Time :=
  ⟨t.year, t.month, 1, 0, t.valid.1, ⟨le_refl 1, daysInMonth_pos _ _⟩, by decide⟩

/-- Midnight on the last day of an instant's month. -/
def monthEnd (t : Time) : Time :=
  ⟨t.year, t.month, daysInMonth t.year t.month, 0, t.valid.1,
    ⟨daysInMonth_pos _ _, le_refl _⟩, by decide⟩

/-- A `DATE` column keeps the day of an instant. -/
def date (t : Time) : Time :=
  ⟨t.year, t.month, t.day, 0, t.valid.1, t.valid.2.1, by decide⟩

/-- `Format("2006-01-02")`. -/
def dateString (t : Time) : String :=
  String.ofList ((if t.year < 0 then ['-'] else []) ++ Library.paddedDigits 4 t.year.natAbs ++
    '-' :: Library.paddedDigits 2 t.month ++ '-' :: Library.paddedDigits 2 t.day)

/-- `YearDay`: the day of the year, counted from one. -/
def yearDay (t : Time) : Nat := daysThrough t.year (t.month - 1) + t.day

/-- Days since the first of March of year zero in the Gregorian calendar. -/
def dayNumber (t : Time) : Int :=
  let year := if t.month ≤ 2 then t.year - 1 else t.year
  let month := (t.month + 9) % 12
  365 * year + year / 4 - year / 100 + year / 400 + ((153 * month + 2) / 5 + t.day - 1 : Nat)

/-- An instant as a count of nanoseconds. -/
def instant (t : Time) : Int := t.dayNumber * nanosPerDay + t.nanos

/-- `t.Sub(s)`: a duration, which saturates at the bounds of a 64-bit count. -/
def sub (t s : Time) : Int := max (-2 ^ 63) (min (2 ^ 63 - 1) (t.instant - s.instant))

variable {s t : Time}

/-- A date's text determines the day. -/
theorem dateString_inj : s.dateString = t.dateString ↔ s.date = t.date := by
  constructor
  · intro same
    rw [dateString, dateString, String.ofList_inj] at same
    obtain ⟨front, day⟩ := Library.eq_of_append_last (Library.dash_notMem_paddedDigits _ _)
      (Library.dash_notMem_paddedDigits _ _) same
    obtain ⟨years, month⟩ := Library.eq_of_append_last (Library.dash_notMem_paddedDigits _ _)
      (Library.dash_notMem_paddedDigits _ _) front
    have year : s.year = t.year := by
      have unsigned (n m : Nat) (rest : List Char) :
          Library.paddedDigits n m ≠ '-' :: rest := fun starts =>
        Library.dash_notMem_paddedDigits n m (starts ▸ List.mem_cons_self)
      split at years <;> split at years
      · have magnitude := Library.eq_of_paddedDigits_eq (List.cons.inj years).2
        omega
      · exact absurd years.symm (unsigned _ _ _)
      · exact absurd years (unsigned _ _ _)
      · have magnitude := Library.eq_of_paddedDigits_eq years
        omega
    simp only [date, year, Library.eq_of_paddedDigits_eq month, Library.eq_of_paddedDigits_eq day]
  · intro same
    simp only [date, Time.mk.injEq] at same
    simp only [dateString, same]

theorem before_irrefl (t : Time) : t.before t = false := by
  simp [before]

theorem not_before_trans {s t u : Time} (hst : t.before s = false) (htu : u.before t = false) :
    u.before s = false := by
  simp only [before, Bool.or_eq_false_iff, Bool.and_eq_false_iff, decide_eq_false_iff_not] at *
  omega

/-- An instant that is not earlier is in the same year or a later one. -/
theorem year_le_of_not_before (h : t.before s = false) : s.year ≤ t.year := by
  simp only [before, Bool.or_eq_false_iff, decide_eq_false_iff_not] at h
  omega

/-- Within a year it is in the same month or a later one. -/
theorem month_le_of_not_before (h : t.before s = false) (year : s.year = t.year) :
    s.month ≤ t.month := by
  simp only [before, Bool.or_eq_false_iff, Bool.and_eq_false_iff, decide_eq_false_iff_not] at h
  omega

theorem yearDay_le_of_not_before (h : t.before s = false) (year : s.year = t.year) :
    s.yearDay ≤ t.yearDay := by
  have months := month_le_of_not_before h year
  unfold yearDay
  rw [year]
  by_cases same : s.month = t.month
  · rw [same]
    simp only [before, Bool.or_eq_false_iff, Bool.and_eq_false_iff, decide_eq_false_iff_not] at h
    omega
  · -- the whole month of `s` lies before the first day of the month of `t`
    have inMonth : s.day ≤ daysInMonth t.year s.month := year ▸ s.valid.2.1.2
    have through : daysThrough t.year (s.month - 1) + daysInMonth t.year s.month =
        daysThrough t.year s.month := by
      obtain ⟨month, isSucc⟩ := Nat.exists_eq_succ_of_ne_zero
        (Nat.one_le_iff_ne_zero.mp s.valid.1.1)
      rw [isSucc]
      rfl
    have earlier := daysThrough_mono t.year (show s.month ≤ t.month - 1 by omega)
    omega

end Time

end ErpFinance.Domain
