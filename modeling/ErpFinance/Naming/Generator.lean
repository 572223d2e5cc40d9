import ErpFinance.Library.Run
import ErpFinance.Library.Stateful
import ErpFinance.Library.Text
import ErpFinance.Naming.Pattern

/-!
# The series generator

`Generator.Next` replaces the tokens of a format, each sequence token by a new
number of a counter that is keyed by the year, or by the month where the format
contains the month token.  The names of a series are distinct as long as times
that print alike are of one period.
-/

namespace ErpFinance.Naming.Generator

open Domain Library

/-! ## Formats -/

/-- A stretch of a format: a text that stays, or a token that is replaced. -/
inductive Part where
  | literal (text : List Char)
  | yyyy
  | yy
  | mm
  | dd
  | seq (width : Nat)
deriving DecidableEq

def Part.isSeq : Part → Bool
  | .seq _ => true
  | _ => false

/-- `fmt.Sscanf` of `%d` into a variable that holds zero: blanks, a sign and digits are read,
and a text without a number in range leaves the zero. -/
def scanWidth (text : List Char) : Int :=
  let text := text.dropWhile fun c => Library.isSpace c && c != '\n'
  let negative := text.head? = some '-'
  let unsigned := if negative ∨ text.head? = some '+' then text.tail else text
  let n : Int := Nat.ofDigitChars 10 (unsigned.takeWhile Char.isDigit) 0
  let value := if negative then -n else n
  if -2 ^ 63 ≤ value ∧ value < 2 ^ 63 then value else 0

/-- The switch on the text between the braces. -/
def tokenPart (inner : List Char) : Part :=
  if inner = "YYYY".toList then .yyyy
  else if inner = "YY".toList then .yy
  else if inner = "MM".toList then .mm
  else if inner = "DD".toList then .dd
  else if "SEQ:".toList.isPrefixOf inner then
    let width := scanWidth (inner.drop 4)
    .seq (if width < 1 then 5 else width.toNat)
  else .literal ('\x7b' :: inner ++ ['\x7d'])

/-- The matches of `tokenRe` and the text around them; `inner` is what has been read since a
brace was opened. -/
def parts : Option (List Char) → List Char → List Part
  | none, [] => []
  | some inner, [] => [.literal ('\x7b' :: inner)]
  | none, c :: rest =>
    if c = '\x7b' then parts (some []) rest else .literal [c] :: parts none rest
  | some inner, c :: rest =>
    if c ≠ '\x7d' then parts (some (inner ++ [c])) rest
    else if inner = [] then .literal ['\x7b', '\x7d'] :: parts none rest
    else tokenPart inner :: parts none rest

def partsOf (format : String) : List Part := parts none format.toList

/-- The text of a part; a sequence token shows the given number. -/
def Part.write (now : Time) (n : Int) : Part → List Char
  | .literal text => text
  | .yyyy => paddedInt 4 now.year
  | .yy => paddedInt 2 (now.year.tmod 100)
  | .mm => paddedInt 2 now.month
  | .dd => paddedInt 2 now.day
  | .seq width => formatSequence width n

def periodKey (format : String) (t : Time) : String :=
  if contains format "\x7bMM\x7d" then
    toString t.year ++ "-" ++ String.ofList (paddedInt 2 t.month)
  else toString t.year

/-! ## The counter -/

/-- The values of the counter; a key that does not exist counts as zero. -/
abbrev Counter : Type := String → Nat

/-- What comes back of an increment: its number, or an error before or after it was counted. -/
inductive Reply where
  | served
  | lost (counted : Bool) (err : String)

def Counter.bump (counter : Counter) (key : String) : Counter :=
  fun other => if other = key then counter key + 1 else counter other

/-- `Increment` by one; the numbers are 64-bit integers. -/
def increment (reply : Reply) (key : String) : Stateful Counter String Int := fun counter =>
  match reply with
  | .lost counted err => (.error err, if counted then counter.bump key else counter)
  | .served =>
    if counter key + 1 < 2 ^ 63 then (.ok (counter key + 1 : Nat), counter.bump key)
    else (.error "increment or decrement would overflow", counter)

/-! ## `Next` -/

structure Series where
  format : String
  entityName : String
  fieldName : String
  tenantID : Uuid
deriving DecidableEq

/-- A call of `Next`: the clock, and the replies to its increments. -/
structure NextCall where
  series : Series
  now : Time
  replies : Nat → Reply := fun _ => .served

def Series.counterKey (series : Series) (now : Time) : String :=
  "seq:" ++ series.tenantID.string ++ ":" ++ series.entityName ++ ":" ++ series.fieldName ++ ":" ++
    periodKey series.format now

/-- The replacement of the parts from the given one on; after an error no part is replaced. -/
def resolve (call : NextCall) : Nat → List Part → Stateful Counter String (List Char)
  | _, [] => pure []
  | tokens, .seq width :: rest => do
      let n ← increment (call.replies tokens) (call.series.counterKey call.now)
      let others ← resolve call (tokens + 1) rest
      pure (formatSequence width n ++ others)
  | tokens, part :: rest => do
      let others ← resolve call tokens rest
      pure (part.write call.now 0 ++ others)

def next (call : NextCall) : Stateful Counter String String :=
  Stateful.mapError
    (fun err => "naming.Next: increment counter " ++
      quoted (call.series.counterKey call.now) ++ ": " ++ err)
    (do
      let result ← resolve call 0 (partsOf call.series.format)
      pure (String.ofList result))

/-! ## What a call returns -/

/-- The number that the part after a given one shows. -/
def Part.following (n : Int) (part : Part) : Int := if part.isSeq then n + 1 else n

/-- The texts of parts, with consecutive numbers from the given one on. -/
def writeAll (now : Time) : Int → List Part → List Char
  | _, [] => []
  | n, part :: rest => part.write now n ++ writeAll now (part.following n) rest

/-- How many numbers a list of parts takes. -/
def seqCount (ps : List Part) : Nat := ps.countP Part.isSeq

theorem Part.write_of_fixed {part : Part} (fixed : part.isSeq = false) (now : Time) (n m : Int) :
    part.write now n = part.write now m := by
  cases part <;> first | rfl | cases fixed

section Calls

variable {counter after : Counter} {key : String} {call : NextCall} {reply : Reply} {n : Int}

theorem increment_ok (runs : increment reply key counter = (.ok n, after)) :
    n = counter key + 1 ∧ after = counter.bump key := by
  cases reply with
  | lost counted err => cases runs
  | served =>
    simp only [increment] at runs
    split at runs
    · obtain ⟨answer, rest⟩ := Prod.mk.inj runs
      exact ⟨(Except.ok.inj answer).symm, rest.symm⟩
    · cases runs

/-- No reply takes a number back. -/
theorem increment_moves (reply : Reply) (key : String) :
    Stateful.Moves (· ≤ ·) (increment reply key) := by
  intro counter other
  have bumped : counter other ≤ counter.bump key other := by
    unfold Counter.bump
    split
    · rename_i same
      rw [same]
      exact Nat.le_succ _
    · exact Nat.le_refl _
  cases reply with
  | served =>
    by_cases room : counter key + 1 < 2 ^ 63
    · simpa only [increment, if_pos room] using bumped
    · simp only [increment, if_neg room, Nat.le_refl]
  | lost counted err =>
    cases counted with
    | true => exact bumped
    | false => exact Nat.le_refl _

/-- The text of the parts shows consecutive numbers from the counter's next one on. -/
theorem resolve_ok {tokens : Nat} {ps : List Part} {text : List Char}
    (runs : resolve call tokens ps counter = (.ok text, after)) :
    text = writeAll call.now (counter (call.series.counterKey call.now) + 1) ps ∧
      after (call.series.counterKey call.now) =
        counter (call.series.counterKey call.now) + seqCount ps := by
  induction ps generalizing tokens counter text with
  | nil =>
    obtain ⟨same, rfl⟩ := Prod.mk.inj runs
    exact ⟨(Except.ok.inj same).symm, rfl⟩
  | cons part rest ih =>
    cases kind : part.isSeq with
    | true =>
      obtain ⟨width, rfl⟩ : ∃ width, part = .seq width := by
        cases part <;> first | exact ⟨_, rfl⟩ | cases kind
      obtain ⟨n, middle, counted, runs⟩ := Stateful.bind_eq_ok_iff.mp runs
      obtain ⟨others, last, resolved, ends⟩ := Stateful.bind_eq_ok_iff.mp runs
      obtain ⟨same, rfl⟩ := Prod.mk.inj ends
      obtain ⟨rfl, rfl⟩ := increment_ok counted
      obtain ⟨rfl, total⟩ := ih resolved
      have bumped (key : String) : counter.bump key key = counter key + 1 := if_pos rfl
      rw [bumped] at total same
      refine ⟨(Except.ok.inj same).symm, ?_⟩
      rw [total, seqCount, seqCount, List.countP_cons_of_pos kind]
      omega
    | false =>
      have unfolded : resolve call tokens (part :: rest) =
          resolve call tokens rest >>= fun others =>
            pure (part.write call.now 0 ++ others) := by
        cases part <;> first | rfl | cases kind
      rw [unfolded] at runs
      obtain ⟨others, last, resolved, ends⟩ := Stateful.bind_eq_ok_iff.mp runs
      obtain ⟨same, rfl⟩ := Prod.mk.inj ends
      obtain ⟨rfl, total⟩ := ih resolved
      rw [total, seqCount, seqCount, List.countP_cons_of_neg (by simp [kind])]
      refine ⟨?_, rfl⟩
      rw [← Except.ok.inj same, writeAll, Part.following, kind]
      rw [Part.write_of_fixed kind call.now (counter _ + 1) 0]
      rfl

theorem resolve_moves (call : NextCall) (tokens : Nat) (ps : List Part) :
    Stateful.Moves (· ≤ ·) (resolve call tokens ps) := by
  induction ps generalizing tokens with
  | nil => exact Stateful.Moves.pure _
  | cons part rest ih =>
    cases part with
    | seq width =>
      exact (increment_moves _ _).bind fun n => (ih (tokens + 1)).bind fun others =>
        Stateful.Moves.pure _
    | _ => exact (ih tokens).bind fun others => Stateful.Moves.pure _

theorem next_moves (call : NextCall) : Stateful.Moves (· ≤ ·) (next call) :=
  ((resolve_moves call 0 _).bind fun _ => Stateful.Moves.pure _).mapError _

/-- A name shows the counter's next numbers, which it takes. -/
theorem next_ok {name : String} (runs : next call counter = (.ok name, after)) :
    name = String.ofList (writeAll call.now (counter (call.series.counterKey call.now) + 1)
        (partsOf call.series.format)) ∧
      after (call.series.counterKey call.now) =
        counter (call.series.counterKey call.now) + seqCount (partsOf call.series.format) := by
  unfold next Stateful.mapError at runs
  rcases resolved : resolve call 0 (partsOf call.series.format) counter with ⟨err | text, last⟩
  · rw [Stateful.bind_error resolved] at runs
    cases runs
  · rw [Stateful.bind_ok resolved] at runs
    obtain ⟨same, rfl⟩ := Prod.mk.inj runs
    obtain ⟨rfl, total⟩ := resolve_ok resolved
    exact ⟨(Except.ok.inj same).symm, total⟩

end Calls

/-! ## Reading names back -/

/-- Every part but the sequence prints alike at two times. -/
def SameTexts (ps : List Part) (t u : Time) : Prop :=
  ∀ part ∈ ps, part.isSeq = false → part.write t 0 = part.write u 0

/-- Every part but the sequence prints as many characters at two times. -/
def SameLengths (ps : List Part) (t u : Time) : Prop :=
  ∀ part ∈ ps, part.isSeq = false → (part.write t 0).length = (part.write u 0).length

section Reading

variable {ps : List Part} {part : Part} {t u : Time} {n m : Int}

theorem Part.length_write_le (lengths : part.isSeq = false →
      (part.write t 0).length = (part.write u 0).length) (nonneg : 0 ≤ n) (le : n ≤ m) :
    (part.write t n).length ≤ (part.write u m).length := by
  cases kind : part.isSeq with
  | true =>
    cases part with
    | seq width => exact formatSequence_length_le (length_paddedInt_mono nonneg le) width
    | _ => cases kind
  | false =>
    rw [Part.write_of_fixed kind t n 0, Part.write_of_fixed kind u m 0]
    exact (lengths kind).le

theorem Part.following_mono (le : n ≤ m) : part.following n ≤ part.following m := by
  unfold following
  split <;> omega

theorem Part.following_nonneg (nonneg : 0 ≤ n) : 0 ≤ part.following n := by
  unfold following
  split <;> omega

/-- Greater numbers never shorten a text. -/
theorem length_writeAll_le (lengths : SameLengths ps t u) (nonneg : 0 ≤ n) (le : n ≤ m) :
    (writeAll t n ps).length ≤ (writeAll u m ps).length := by
  induction ps generalizing n m with
  | nil => exact Nat.le_refl _
  | cons part rest ih =>
    obtain ⟨first, others⟩ := List.forall_mem_cons.mp lengths
    simp only [writeAll, List.length_append]
    exact Nat.add_le_add (Part.length_write_le first nonneg le)
      (ih others (Part.following_nonneg nonneg) (Part.following_mono le))

/-- Where no boundary but that of a number moves, a text determines its parts. -/
theorem eq_of_writeAll_of_le (lengths : SameLengths ps t u) (nonneg : 0 ≤ n) (le : n ≤ m)
    (same : writeAll t n ps = writeAll u m ps) :
    SameTexts ps t u ∧ (ps.any Part.isSeq = true → n = m) := by
  induction ps generalizing n m with
  | nil => exact ⟨nofun, nofun⟩
  | cons part rest ih =>
    obtain ⟨first, others⟩ := List.forall_mem_cons.mp lengths
    have shorter := Part.length_write_le first nonneg le
    have tails := length_writeAll_le others (Part.following_nonneg nonneg)
      (@Part.following_mono part _ _ le)
    have total := congrArg List.length same
    simp only [writeAll, List.length_append] at same total
    obtain ⟨head, tail⟩ := List.append_inj same (by omega)
    obtain ⟨texts, numbers⟩ := ih others (Part.following_nonneg nonneg)
      (Part.following_mono le) tail
    cases kind : part.isSeq with
    | true =>
      refine ⟨List.forall_mem_cons.mpr ⟨fun fixed => ?_, texts⟩, fun _ => ?_⟩
      · rw [kind] at fixed
        cases fixed
      · cases part with
        | seq width => exact formatSequence_injective head
        | _ => cases kind
    | false =>
      refine ⟨List.forall_mem_cons.mpr ⟨fun _ => ?_, texts⟩, fun sequenced => ?_⟩
      · rwa [Part.write_of_fixed kind t n 0, Part.write_of_fixed kind u m 0] at head
      · rw [List.any_cons, kind, Bool.false_or] at sequenced
        have rests := numbers sequenced
        simpa [Part.following, kind] using rests

theorem eq_of_writeAll (lengths : SameLengths ps t u) (nonneg : 0 ≤ n) (nonneg' : 0 ≤ m)
    (same : writeAll t n ps = writeAll u m ps) :
    SameTexts ps t u ∧ (ps.any Part.isSeq = true → n = m) := by
  rcases Int.le_total n m with le | le
  · exact eq_of_writeAll_of_le lengths nonneg le same
  · have back : SameLengths ps u t := fun part member kind => (lengths part member kind).symm
    obtain ⟨texts, numbers⟩ := eq_of_writeAll_of_le back nonneg' le same.symm
    exact ⟨fun part member kind => (texts part member kind).symm,
      fun sequenced => (numbers sequenced).symm⟩

end Reading

/-! ## Separate times -/

/-- Numbers a counter may give at two times: within one period they differ. -/
def Fresh (format : String) (t u : Time) (n m : Int) : Prop :=
  (partsOf format).any Part.isSeq = true → periodKey format t = periodKey format u → n ≠ m

/-- Times that print alike are of one period, whose numbers the format shows; and where the
texts of two times differ in length, no numbers make up for it. -/
structure Separate (format : String) (t u : Time) : Prop where
  period : SameTexts (partsOf format) t u →
    (partsOf format).any Part.isSeq = true ∧ periodKey format t = periodKey format u
  boundary : ¬SameLengths (partsOf format) t u → ∀ n m : Int, 1 ≤ n → 1 ≤ m →
    Fresh format t u n m → writeAll t n (partsOf format) ≠ writeAll u m (partsOf format)

variable {format : String}

/-- Names at separate times differ when numbers of one period do. -/
theorem Separate.writeAll_ne {t u : Time} {n m : Int} (separate : Separate format t u)
    (first : 1 ≤ n) (second : 1 ≤ m) (fresh : Fresh format t u n m) :
    writeAll t n (partsOf format) ≠ writeAll u m (partsOf format) := by
  by_cases lengths : SameLengths (partsOf format) t u
  · intro same
    obtain ⟨texts, numbers⟩ := eq_of_writeAll lengths (by omega) (by omega) same
    obtain ⟨sequenced, periods⟩ := separate.period texts
    exact fresh sequenced periods (numbers sequenced)
  · exact separate.boundary lengths n m first second fresh

theorem writeAll_congr {ps : List Part} {t u : Time} (texts : SameTexts ps t u) (n : Int) :
    writeAll t n ps = writeAll u n ps := by
  induction ps generalizing n with
  | nil => rfl
  | cons part rest ih =>
    obtain ⟨first, others⟩ := List.forall_mem_cons.mp texts
    have head : part.write t n = part.write u n := by
      cases kind : part.isSeq with
      | true =>
        cases part with
        | seq width => rfl
        | _ => cases kind
      | false =>
        rw [Part.write_of_fixed kind t n 0, Part.write_of_fixed kind u n 0, first kind]
    rw [writeAll, writeAll, head, ih others]

/-- Times that are not separate have a name in common that the counter may give to both. -/
theorem exists_writeAll_eq {t u : Time} (together : ¬Separate format t u) :
    ∃ n m : Int, 1 ≤ n ∧ 1 ≤ m ∧ Fresh format t u n m ∧
      writeAll t n (partsOf format) = writeAll u m (partsOf format) := by
  by_contra apart
  push Not at apart
  refine together ⟨fun texts => ?_, fun _ => apart⟩
  by_contra restarts
  have fresh : Fresh format t u 1 1 := fun sequenced periods =>
    absurd ⟨sequenced, periods⟩ restarts
  exact apart 1 1 (by decide) (by decide) fresh (writeAll_congr texts 1)

theorem daysInMonth_le (year : Int) (month : Nat) : daysInMonth year month ≤ 31 := by
  unfold daysInMonth
  split
  · split <;> decide
  all_goals decide

/-- A format that prints the year in full, the month too where it counts by the month, and a
number separates any two times of four-digit years. -/
theorem separate_of_dated {t u : Time} (sequenced : (partsOf format).any Part.isSeq = true)
    (dated : .yyyy ∈ partsOf format)
    (monthly : contains format "\x7bMM\x7d" = true → .mm ∈ partsOf format)
    (first : 0 ≤ t.year ∧ t.year < 10000) (second : 0 ≤ u.year ∧ u.year < 10000) :
    Separate format t u where
  period := by
    intro texts
    have years : t.year = u.year := paddedInt_injective (texts .yyyy dated rfl)
    refine ⟨sequenced, ?_⟩
    unfold periodKey
    cases counted : contains format "\x7bMM\x7d" with
    | false => simp [years]
    | true =>
      have months : paddedInt 2 t.month = paddedInt 2 u.month := texts .mm (monthly counted) rfl
      simp [years, months]
  boundary := by
    intro differ
    refine absurd ?_ differ
    have short (time : Time) : (0 : Int) ≤ time.month ∧ (time.month : Int) < 10 ^ 2 ∧
        (0 : Int) ≤ time.day ∧ (time.day : Int) < 10 ^ 2 := by
      obtain ⟨⟨_, month⟩, ⟨_, day⟩, _⟩ := time.valid
      have days := daysInMonth_le time.year time.month
      omega
    intro part _ fixed
    cases part with
    | literal text => rfl
    | seq width => cases fixed
    | yyyy =>
      simp only [Part.write, length_paddedInt_of_fits (by decide : 0 < 4) first.1 (by omega),
        length_paddedInt_of_fits (by decide : 0 < 4) second.1 (by omega)]
    | yy =>
      have century (year : Int) (nonneg : 0 ≤ year) :
          (paddedInt 2 (year.tmod 100)).length = 2 := by
        apply length_paddedInt_of_fits (by decide)
        · exact Int.tmod_nonneg _ nonneg
        · exact Int.tmod_lt_of_pos _ (by decide)
      simp only [Part.write, century t.year first.1, century u.year second.1]
    | mm =>
      simp only [Part.write, length_paddedInt_of_fits (by decide : 0 < 2) (short t).1
        (short t).2.1, length_paddedInt_of_fits (by decide : 0 < 2) (short u).1 (short u).2.1]
    | dd =>
      simp only [Part.write, length_paddedInt_of_fits (by decide : 0 < 2) (short t).2.2.1
        (short t).2.2.2, length_paddedInt_of_fits (by decide : 0 < 2) (short u).2.2.1
        (short u).2.2.2]

/-! ## Runs -/

/-- A name that has been returned, with the call it answers and the number it shows first. -/
structure Issue where
  series : Series
  now : Time
  first : Int
  name : String

/-- The counter part of a name. -/
def Issue.numbers (issue : Issue) : List Int :=
  (List.range (seqCount (partsOf issue.series.format))).map fun i : Nat => issue.first + i

def Issue.key (issue : Issue) : String := issue.series.counterKey issue.now

def Issue.period (issue : Issue) : String := periodKey issue.series.format issue.now

/-- The counter, and the names returned so far in their order. -/
structure Registry where
  counter : Counter
  issued : List Issue := []

def step (s : Registry) (call : NextCall) : Registry :=
  match next call s.counter with
  | (.ok name, counter) =>
    { counter := counter
      issued := s.issued ++
        [⟨call.series, call.now, s.counter (call.series.counterKey call.now) + 1, name⟩] }
  | (.error _, counter) => { s with counter := counter }

/-- The times of a call and of each earlier name of its series are separate. -/
def Apart (s : Registry) (call : NextCall) : Prop :=
  ∀ issue ∈ s.issued, issue.series = call.series →
    Separate call.series.format issue.now call.now

/-- Every name shows its numbers, which increase within each period of a series. -/
structure Counting (s : Registry) : Prop where
  shown : ∀ issue ∈ s.issued,
    issue.name = String.ofList (writeAll issue.now issue.first (partsOf issue.series.format))
  increasing : s.issued.Pairwise fun earlier later =>
    earlier.series = later.series → earlier.period = later.period →
      ∀ n ∈ earlier.numbers, ∀ m ∈ later.numbers, n < m
  /-- the numbers are positive and taken from the counter -/
  taken : ∀ issue ∈ s.issued, 1 ≤ issue.first ∧
    issue.first + seqCount (partsOf issue.series.format) ≤ s.counter issue.key + 1

/-- Moreover no name of a series is returned twice. -/
structure DistinctNames (s : Registry) : Prop extends Counting s where
  names : s.issued.Pairwise fun earlier later => earlier.series = later.series →
    earlier.name ≠ later.name

section Steps

variable {s : Registry} {call : NextCall}

/-- A step takes the counter on and adds at most one name, which shows its next numbers. -/
theorem step_cases (s : Registry) (call : NextCall) :
    s.counter ≤ (step s call).counter ∧
      ((step s call).issued = s.issued ∨
        ∃ issue : Issue, (step s call).issued = s.issued ++ [issue] ∧
          issue.series = call.series ∧ issue.now = call.now ∧
          issue.first = s.counter issue.key + 1 ∧
          issue.name = String.ofList
            (writeAll issue.now issue.first (partsOf issue.series.format)) ∧
          (step s call).counter issue.key =
            s.counter issue.key + seqCount (partsOf issue.series.format)) := by
  have grows := next_moves call s.counter
  rcases runs : next call s.counter with ⟨err | name, counter⟩
  · rw [runs] at grows
    have stepped : step s call = { s with counter := counter } := by simp only [step, runs]
    rw [stepped]
    exact ⟨grows, .inl rfl⟩
  · rw [runs] at grows
    obtain ⟨shown, total⟩ := next_ok runs
    have stepped : step s call =
        { counter := counter
          issued := s.issued ++
            [⟨call.series, call.now, s.counter (call.series.counterKey call.now) + 1, name⟩] } := by
      simp only [step, runs]
    rw [stepped]
    exact ⟨grows, .inr ⟨_, rfl, rfl, rfl, rfl, shown, total⟩⟩

/-- A number of a later name is past all that were taken before. -/
theorem Issue.lt_of_taken {earlier later : Issue}
    (within : earlier.first + seqCount (partsOf earlier.series.format) ≤
      s.counter earlier.key + 1)
    (first : later.first = s.counter later.key + 1) (keys : earlier.key = later.key) :
    ∀ n ∈ earlier.numbers, ∀ m ∈ later.numbers, n < m := by
  intro n nMember m mMember
  obtain ⟨i, iMember, rfl⟩ := List.mem_map.mp nMember
  obtain ⟨j, -, rfl⟩ := List.mem_map.mp mMember
  have bound := List.mem_range.mp iMember
  rw [keys] at within
  omega

theorem Issue.key_eq {earlier later : Issue} (series : earlier.series = later.series)
    (periods : earlier.period = later.period) : earlier.key = later.key := by
  unfold period at periods
  rw [series] at periods
  rw [key, key, series]
  unfold Series.counterKey
  rw [periods]

theorem Counting.step (counting : Counting s) (call : NextCall) : Counting (step s call) := by
  obtain ⟨grows, same | ⟨new, more, _, _, first, shown, total⟩⟩ := step_cases s call
  · refine ⟨by rw [same]; exact counting.shown, by rw [same]; exact counting.increasing, ?_⟩
    intro issue member
    rw [same] at member
    obtain ⟨positive, within⟩ := counting.taken issue member
    have later : s.counter issue.key ≤ (Generator.step s call).counter issue.key :=
      grows issue.key
    omega
  · refine ⟨?_, ?_, ?_⟩
    · intro issue member
      rw [more] at member
      rcases List.mem_append.mp member with old | new'
      · exact counting.shown issue old
      · rwa [List.mem_singleton.mp new']
    · rw [more]
      refine List.pairwise_append.mpr ⟨counting.increasing, List.pairwise_singleton _ _, ?_⟩
      intro earlier old later new' series periods
      rw [List.mem_singleton.mp new'] at series periods ⊢
      exact Issue.lt_of_taken (counting.taken earlier old).2 first
        (Issue.key_eq series periods)
    · intro issue member
      rw [more] at member
      rcases List.mem_append.mp member with old | new'
      · obtain ⟨positive, within⟩ := counting.taken issue old
        have later : s.counter issue.key ≤ (Generator.step s call).counter issue.key :=
          grows issue.key
        omega
      · obtain rfl := List.mem_singleton.mp new'
        omega

theorem DistinctNames.step (distinct : DistinctNames s) (apart : Apart s call) :
    DistinctNames (step s call) := by
  refine ⟨distinct.toCounting.step call, ?_⟩
  obtain ⟨-, same | ⟨new, more, newSeries, newTime, first, shown, _⟩⟩ := step_cases s call
  · rw [same]
    exact distinct.names
  · rw [more]
    refine List.pairwise_append.mpr ⟨distinct.names, List.pairwise_singleton _ _, ?_⟩
    intro earlier old later new' series
    obtain rfl := List.mem_singleton.mp new'
    obtain ⟨positive, within⟩ := distinct.taken earlier old
    have separate := apart earlier old (series.trans newSeries)
    rw [← newSeries, ← newTime] at separate
    rw [distinct.shown earlier old, shown, series]
    refine fun sameName => separate.writeAll_ne positive (by omega) ?_
      (String.ofList_inj.mp sameName)
    intro sequenced periods numbers
    have keys : earlier.key = later.key :=
      Issue.key_eq series (by rw [Issue.period, Issue.period, series, periods])
    have some : 0 < seqCount (partsOf earlier.series.format) := by
      rw [series]
      exact List.countP_pos_iff.mpr (List.any_eq_true.mp sequenced)
    rw [keys] at within
    omega

end Steps

/-- In every run the numbers of a series increase within each period. -/
theorem counting_of_run {counter : Counter} {s : Registry}
    (run : Run step (fun _ _ => True) ⟨counter, []⟩ s) : Counting s :=
  run.invariant ⟨nofun, .nil, nofun⟩ fun _ call _ counting => counting.step call

/-- In a run of calls at separate times no name of a series is returned twice. -/
theorem distinctNames_of_run {counter : Counter} {s : Registry}
    (run : Run step Apart ⟨counter, []⟩ s) : DistinctNames s :=
  run.invariant ⟨⟨nofun, .nil, nofun⟩, .nil⟩ fun _ _ apart distinct => distinct.step apart

namespace Example

def fiveDigits : Series := ⟨"INV-\x7bSEQ:5\x7d", "finance_invoice", "number", 1⟩

def yearAndDigits : Series := ⟨"INV-\x7bYYYY\x7d-\x7bSEQ:5\x7d", "finance_invoice", "number", 1⟩

def december : Time := ⟨2026, 12, 31, 0, by decide⟩

def january : Time := ⟨2027, 1, 1, 0, by decide⟩

def noNumbers : Registry := ⟨fun _ => 0, []⟩

end Example

open Example in
/-- With the year printed the first invoices of two years have names of their own. -/
theorem distinctNames_over_new_year :
    DistinctNames (step (step noNumbers { series := yearAndDigits, now := december })
      { series := yearAndDigits, now := january }) := by
  apply distinctNames_of_run
  refine .tail _ (.tail _ .refl nofun) ?_
  intro issue member _
  have only : ∀ issue ∈ (step noNumbers { series := yearAndDigits, now := december }).issued,
      issue.now = december := by decide
  rw [only issue member]
  exact separate_of_dated (by decide) (by decide) (by decide) (by decide) (by decide)

open Example in
/-- Without it the name of the old year's first invoice is returned again. -/
theorem sequence_restarts_unseen :
    december.before january = true ∧
      ¬DistinctNames (step (step noNumbers { series := fiveDigits, now := december })
        { series := fiveDigits, now := january }) := by
  refine ⟨by decide, fun distinct => ?_⟩
  have names := distinct.names
  revert names
  decide

end ErpFinance.Naming.Generator
