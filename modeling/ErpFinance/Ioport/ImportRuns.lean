import ErpFinance.Ioport.RoundTrip
import ErpFinance.Library.Batches

/-!
# Runs of an import

What an import does with rows that cannot be read, that have a value of the
wrong type or that are refused, wherever they stand: whether it ends, what it
counts, which rows it creates and which it leaves out.  A decoder that has met
malformed JSON returns the same error on every further call.
-/

namespace ErpFinance.Ioport

open Library

variable {F O σ : Type}

section Rows

variable (schema : EntitySchema) (repo : Repository F O) (opts : ImportOptions)

/-- What one row does to the batch and to the result, or the result that it ends the loop with. -/
def importRow (row : Nat) (batch : List (Data F O)) (out : Imported F O) :
    Parsed F O → Except (Imported F O) (List (Data F O) × Imported F O)
  | .unreadable err =>
    if opts.skipErrors then .ok (batch, { out with errors := out.errors ++ [(row, err)] })
    else .error { out with failure := some err }
  | .bad err =>
    let out := { out with total := out.total + 1 }
    if opts.skipErrors then .ok (batch, { out with errors := out.errors ++ [(row, err)] })
    else .error { out with failure := some err }
  | .data d =>
    let out := { out with total := out.total + 1 }
    if ((batch ++ [d]).length : Int) ≥ opts.size then
      match bulkCreate schema repo (batch ++ [d]) with
      | some made => .ok ([], { out with created := out.created ++ made })
      | none =>
        if opts.skipErrors then
          .ok ([], { out with errors := out.errors ++ [(row, "refused")] })
        else .error { out with failure := some "refused" }
    else .ok (batch ++ [d], out)

def lastFlush (label : String) (batch : List (Data F O)) (out : Imported F O) : Imported F O :=
  match bulkCreate schema repo batch with
  | some made => { out with created := out.created ++ made }
  | none => { out with failure := some ("ioport: " ++ label ++ ": final flush") }

/-- The loop over the rows that a reader returns, where it has ended after so many calls. -/
def importStream (next : σ → Option (Parsed F O × σ)) (label : String) :
    Nat → Nat → List (Data F O) → Imported F O → σ → Option (Imported F O)
  | 0, _, _, _, _ => none
  | fuel + 1, row, batch, out, source =>
    match next source with
    | none => some (lastFlush schema repo label batch out)
    | some (parsed, source) =>
      match importRow schema repo opts row batch out parsed with
      | .error result => some result
      | .ok (batch, out) => importStream next label fuel (row + 1) batch out source

variable {schema repo opts} {next : σ → Option (Parsed F O × σ)} {label : String}
  {batch : List (Data F O)} {out result : Imported F O} {source later : σ} {row : Nat}
  {rows : List (Parsed F O)} {parsed : Parsed F O}

theorem importLoop_nil :
    importLoop schema repo opts label row batch out [] = lastFlush schema repo label batch out :=
  rfl

theorem importLoop_cons : importLoop schema repo opts label row batch out (parsed :: rows) =
    match importRow schema repo opts row batch out parsed with
    | .error result => result
    | .ok (batch, out) => importLoop schema repo opts label (row + 1) batch out rows := by
  cases parsed with
  | unreadable err =>
    rw [importLoop, importRow]
    cases opts.skipErrors <;> rfl
  | bad err =>
    rw [importLoop, importRow]
    cases opts.skipErrors <;> rfl
  | data d =>
    rw [importLoop, importRow]
    dsimp only
    split
    · cases bulkCreate schema repo (batch ++ [d]) with
      | some made => rfl
      | none => cases opts.skipErrors <;> rfl
    · rfl

/-- With errors skipped, no row ends the loop. -/
theorem importRow_of_skip (skips : opts.skipErrors = true) (row : Nat) (batch : List (Data F O))
    (out : Imported F O) (parsed : Parsed F O) :
    ∃ after, importRow schema repo opts row batch out parsed = .ok after := by
  cases parsed with
  | unreadable err => exact ⟨_, by rw [importRow, if_pos skips]⟩
  | bad err => exact ⟨_, if_pos skips⟩
  | data d =>
    rw [importRow]
    dsimp only
    split
    · cases bulkCreate schema repo (batch ++ [d]) with
      | some made => exact ⟨_, rfl⟩
      | none => exact ⟨_, rfl⟩
    · exact ⟨_, rfl⟩

/-- Without skipping, a row with an error ends the loop. -/
theorem importRow_of_bad (aborts : opts.skipErrors = false) (row : Nat) (batch : List (Data F O))
    (out : Imported F O) (err : String) :
    importRow schema repo opts row batch out (.bad err) =
      .error { out with total := out.total + 1, failure := some err } := by
  rw [importRow, aborts]
  rfl

/-- A reader returns rows one after another. -/
inductive Yields (next : σ → Option (Parsed F O × σ)) : σ → List (Parsed F O) → σ → Prop
  | refl (source : σ) : Yields next source [] source
  | step {source middle later : σ} {parsed : Parsed F O} {rows : List (Parsed F O)}
      (returns : next source = some (parsed, middle)) (rest : Yields next middle rows later) :
      Yields next source (parsed :: rows) later

theorem importStream_of_yields (yields : Yields next source rows later)
    (ended : next later = none) :
    importStream schema repo opts next label (rows.length + 1) row batch out source =
      some (importLoop schema repo opts label row batch out rows) := by
  induction yields generalizing row batch out with
  | refl source => rw [importStream, ended, importLoop_nil]
  | step returns rest ih =>
    rw [List.length_cons, importStream, returns, importLoop_cons]
    dsimp only
    cases importRow schema repo opts row batch out _ with
    | error result => rfl
    | ok after => exact ih ended

theorem importStream_of_bad (aborts : opts.skipErrors = false)
    (yields : Yields next source rows later) {err : String} {behind : σ}
    (stuck : next later = some (.bad err, behind)) (more : List (Parsed F O)) :
    importStream schema repo opts next label (rows.length + 1) row batch out source =
      some (importLoop schema repo opts label row batch out (rows ++ .bad err :: more)) := by
  induction yields generalizing row batch out with
  | refl source =>
    rw [importStream, stuck, List.nil_append, importLoop_cons]
    dsimp only
    rw [importRow_of_bad aborts]
  | step returns rest ih =>
    rw [List.length_cons, importStream, returns, List.cons_append, importLoop_cons]
    dsimp only
    cases importRow schema repo opts row batch out _ with
    | error result => rfl
    | ok after => exact ih stuck

/-- With errors skipped, a reader that returns the same error forever is read forever. -/
theorem importStream_of_stuck (skips : opts.skipErrors = true)
    (yields : Yields next source rows later) {err : String}
    (stuck : next later = some (.bad err, later)) (fuel : Nat) :
    importStream schema repo opts next label fuel row batch out source = none := by
  induction fuel generalizing rows row batch out source with
  | zero => rfl
  | succ fuel ih =>
    cases yields with
    | refl =>
      obtain ⟨after, goesOn⟩ := importRow_of_skip skips row batch out (.bad err)
      rw [importStream, stuck]
      dsimp only
      rw [goesOn]
      exact ih (.refl _)
    | step returns rest =>
      obtain ⟨after, goesOn⟩ := importRow_of_skip skips row batch out _
      rw [importStream, returns]
      dsimp only
      rw [goesOn]
      exact ih rest

/-- More calls do not change what the loop has returned. -/
theorem importStream_mono {fuel more : Nat} (enough : fuel ≤ more)
    (ended : importStream schema repo opts next label fuel row batch out source = some result) :
    importStream schema repo opts next label more row batch out source = some result := by
  induction fuel generalizing more row batch out source with
  | zero => cases ended
  | succ fuel ih =>
    obtain ⟨more, rfl⟩ : ∃ rest, more = rest + 1 := ⟨more - 1, by omega⟩
    rw [importStream] at ended ⊢
    cases returns : next source with
    | none =>
      rw [returns] at ended
      exact ended
    | some after =>
      rw [returns] at ended
      dsimp only at ended ⊢
      cases goesOn : importRow schema repo opts row batch out after.1 with
      | error result =>
        rw [goesOn] at ended
        exact ended
      | ok middle =>
        rw [goesOn] at ended
        exact ih (by omega) ended

end Rows

section Accounts

variable (schema : EntitySchema) (repo : Repository F O)

/-- What the data of a row are. -/
def Parsed.data? : Parsed F O → Option (Data F O)
  | .data d => some d
  | _ => none

def Parsed.isUnreadable : Parsed F O → Bool
  | .unreadable _ => true
  | _ => false

def Parsed.isBad : Parsed F O → Bool
  | .bad _ => true
  | _ => false

/-- What a row is created as on its own, if it is valid. -/
def make (row : Parsed F O) : Option (Made F O) := row.data?.bind (create schema repo)

def refused (batch : List (Data F O)) : Bool := (bulkCreate schema repo batch).isNone

/-- What is created of a batch. -/
def kept (batch : List (Data F O)) : List (Made F O) := (bulkCreate schema repo batch).getD []

variable {schema repo} {opts : ImportOptions} {label : String} {batch : List (Data F O)}
  {out : Imported F O} {row : Nat} {rows : List (Parsed F O)} {made : List (Made F O)}

theorem kept_of_some (flushed : bulkCreate schema repo batch = some made) :
    kept schema repo batch = made ∧ refused schema repo batch = false := by
  rw [kept, refused, flushed]
  exact ⟨rfl, rfl⟩

theorem kept_of_none (flushed : bulkCreate schema repo batch = none) :
    kept schema repo batch = [] ∧ refused schema repo batch = true := by
  rw [kept, refused, flushed]
  exact ⟨rfl, rfl⟩

theorem filterMap_of_bulkCreate (flushed : bulkCreate schema repo batch = some made) :
    batch.filterMap (create schema repo) = made := by
  rw [bulkCreate, mapM_eq_some_iff] at flushed
  induction flushed with
  | nil => rfl
  | cons here _ ih => rw [List.filterMap_cons_some here, ih]

theorem kept_cases (batch : List (Data F O)) :
    (refused schema repo batch = false ∧
        kept schema repo batch = batch.filterMap (create schema repo) ∧
        (kept schema repo batch).length = batch.length) ∨
      (refused schema repo batch = true ∧ kept schema repo batch = []) := by
  cases flushed : bulkCreate schema repo batch with
  | none => exact .inr ⟨(kept_of_none flushed).2, (kept_of_none flushed).1⟩
  | some made =>
    obtain ⟨same, accepted⟩ := kept_of_some flushed
    refine .inl ⟨accepted, ?_, ?_⟩
    · rw [same, filterMap_of_bulkCreate flushed]
    · rw [bulkCreate, mapM_eq_some_iff] at flushed
      rw [same, flushed.length_eq]

structure Accounts (schema : EntitySchema) (repo : Repository F O) (size : Int)
    (batch : List (Data F O)) (rows : List (Parsed F O)) (out result : Imported F O) : Prop where
  total : result.total =
    out.total + rows.countP Parsed.isBad + (rows.filterMap Parsed.data?).length
  created : result.created =
    out.created ++ (batches size batch (rows.filterMap Parsed.data?)).flatMap (kept schema repo)
  errors : result.errors.length = out.errors.length + rows.countP Parsed.isUnreadable +
    rows.countP Parsed.isBad +
    (batches size batch (rows.filterMap Parsed.data?)).countP fun batch =>
      refused schema repo batch && decide ((batch.length : Int) ≥ size)

variable {size : Int}

/-- The final flush of a batch that is not full counts nothing. -/
theorem accounts_nil (short : (batch.length : Int) < size) :
    Accounts schema repo size batch [] out (lastFlush schema repo label batch out) := by
  have flushed : (lastFlush schema repo label batch out).total = out.total ∧
      (lastFlush schema repo label batch out).errors = out.errors ∧
      (lastFlush schema repo label batch out).created = out.created ++ kept schema repo batch := by
    rw [lastFlush]
    cases flushed : bulkCreate schema repo batch with
    | some made => exact ⟨rfl, rfl, by rw [(kept_of_some flushed).1]⟩
    | none => exact ⟨rfl, rfl, by rw [(kept_of_none flushed).1, List.append_nil]⟩
  obtain ⟨total, errors, created⟩ := flushed
  cases batch with
  | nil => exact ⟨total, created, by rw [errors]; rfl⟩
  | cons d pending =>
    refine ⟨total, ?_, ?_⟩
    · rw [created, List.filterMap_nil, batches_nil_right (List.cons_ne_nil _ _),
        List.flatMap_singleton]
    · rw [errors, List.filterMap_nil, batches_nil_right (List.cons_ne_nil _ _)]
      rw [List.countP_singleton, decide_eq_false (not_le.mpr short), Bool.and_false]
      rfl

theorem Accounts.unreadable {result : Imported F O} (err : String)
    (rest : Accounts schema repo size batch rows
      { out with errors := out.errors ++ [(row, err)] } result) :
    Accounts schema repo size batch (.unreadable err :: rows) out result := by
  obtain ⟨total, created, errors⟩ := rest
  refine ⟨total, created, errors.trans ?_⟩
  rw [List.length_append, List.length_singleton, List.countP_cons_of_pos rfl,
    List.countP_cons_of_neg Bool.false_ne_true, List.filterMap_cons_none rfl]
  omega

theorem Accounts.bad {result : Imported F O} (err : String)
    (rest : Accounts schema repo size batch rows
      { out with total := out.total + 1, errors := out.errors ++ [(row, err)] } result) :
    Accounts schema repo size batch (.bad err :: rows) out result := by
  obtain ⟨total, created, errors⟩ := rest
  refine ⟨total.trans ?_, created, errors.trans ?_⟩
  · rw [List.countP_cons_of_pos rfl, List.filterMap_cons_none rfl]
    dsimp only
    omega
  · rw [List.length_append, List.length_singleton, List.countP_cons_of_neg Bool.false_ne_true,
      List.countP_cons_of_pos rfl, List.filterMap_cons_none rfl]
    omega

theorem Accounts.data {pending : List (Data F O)} {parts : List (List (Data F O))}
    {before after : Imported F O} {d : Data F O} {result : Imported F O}
    (rest : Accounts schema repo size pending rows after result)
    (cut : batches size batch (d :: rows.filterMap Parsed.data?) =
      parts ++ batches size pending (rows.filterMap Parsed.data?))
    (total : after.total = before.total + 1)
    (created : after.created = before.created ++ parts.flatMap (kept schema repo))
    (errors : after.errors.length = before.errors.length + parts.countP fun batch =>
      refused schema repo batch && decide ((batch.length : Int) ≥ size)) :
    Accounts schema repo size batch (.data d :: rows) before result := by
  have rowData : (Parsed.data d :: rows).filterMap Parsed.data? =
    d :: rows.filterMap Parsed.data? := List.filterMap_cons_some rfl
  refine ⟨rest.total.trans ?_, rest.created.trans ?_, rest.errors.trans ?_⟩
  · rw [rowData, total, List.countP_cons_of_neg Bool.false_ne_true, List.length_cons]
    omega
  · rw [rowData, cut, created, List.flatMap_append, List.append_assoc]
  · rw [rowData, cut, errors, List.countP_append, List.countP_cons_of_neg Bool.false_ne_true,
      List.countP_cons_of_neg Bool.false_ne_true]
    omega

/-- With errors skipped, a refused batch is one error if it was full, and none at the end. -/
theorem importLoop_of_skip (skips : opts.skipErrors = true) (row : Nat)
    (batch : List (Data F O)) (out : Imported F O) (short : (batch.length : Int) < opts.size) :
    Accounts schema repo opts.size batch rows out
      (importLoop schema repo opts label row batch out rows) := by
  have positive : (([] : List (Data F O)).length : Int) < opts.size := by
    rw [ImportOptions.size, List.length_nil]
    split <;> omega
  induction rows generalizing row batch out with
  | nil => exact accounts_nil short
  | cons parsed rest ih =>
    rw [importLoop_cons]
    cases parsed with
    | unreadable err =>
      rw [importRow, if_pos skips]
      exact .unreadable err (ih (row + 1) batch _ short)
    | bad err =>
      rw [importRow]
      dsimp only
      rw [if_pos skips]
      exact .bad err (ih (row + 1) batch _ short)
    | data d =>
      rw [importRow]
      dsimp only
      by_cases full : ((batch ++ [d]).length : Int) ≥ opts.size
      · have cut : batches opts.size batch (d :: rest.filterMap Parsed.data?) =
            [batch ++ [d]] ++ batches opts.size [] (rest.filterMap Parsed.data?) := by
          rw [batches_cons, if_pos full]
          rfl
        rw [if_pos full]
        cases flushed : bulkCreate schema repo (batch ++ [d]) with
        | some made =>
          obtain ⟨same, accepted⟩ := kept_of_some flushed
          refine (ih (row + 1) [] _ positive).data cut rfl ?_ ?_
          · rw [List.flatMap_singleton, same]
          · rw [List.countP_singleton, accepted]
            rfl
        | none =>
          obtain ⟨same, rejected⟩ := kept_of_none flushed
          dsimp only
          rw [if_pos skips]
          refine (ih (row + 1) [] _ positive).data cut rfl ?_ ?_
          · rw [List.flatMap_singleton, same, List.append_nil]
          · rw [List.countP_singleton, rejected, decide_eq_true full, List.length_append]
            rfl
      · have held : batches opts.size batch (d :: rest.filterMap Parsed.data?) =
            [] ++ batches opts.size (batch ++ [d]) (rest.filterMap Parsed.data?) := by
          rw [batches_cons, if_neg full]
          rfl
        rw [if_neg full]
        exact (ih (row + 1) (batch ++ [d]) _ (not_le.mp full)).data held rfl
          (List.append_nil _).symm rfl

variable (schema repo) in
/-- In an array every batch is flushed in the loop, the last one at the last row. -/
theorem importJSONLoop_of_skip (skips : opts.skipErrors = true) (rows : List (Data F O)) (row : Nat)
    (batch : List (Data F O)) (out : Imported F O) (flushes : rows ≠ [] ∨ batch = []) :
    (importJSONLoop schema repo opts row batch out rows).total = out.total ∧
      (importJSONLoop schema repo opts row batch out rows).created =
        out.created ++ (batches opts.size batch rows).flatMap (kept schema repo) ∧
      (importJSONLoop schema repo opts row batch out rows).errors.length =
        out.errors.length + (batches opts.size batch rows).countP (refused schema repo) := by
  induction rows generalizing row batch out with
  | nil =>
    rw [flushes.resolve_left fun some => some rfl]
    exact ⟨rfl, (List.append_nil _).symm, rfl⟩
  | cons d rest ih =>
    rw [importJSONLoop]
    by_cases full : ((batch ++ [d]).length : Int) ≥ opts.size ∨ rest = []
    · have cut : batches opts.size batch (d :: rest) =
          (batch ++ [d]) :: batches opts.size [] rest := by
        rw [batches_cons]
        split
        · rfl
        · rw [full.resolve_left ‹_›]
          exact batches_nil_right (List.append_ne_nil_of_right_ne_nil _ (List.cons_ne_nil _ _))
      rw [if_pos full, cut, List.flatMap_cons]
      cases flushed : bulkCreate schema repo (batch ++ [d]) with
      | some made =>
        obtain ⟨same, accepted⟩ := kept_of_some flushed
        obtain ⟨total, created, errors⟩ := ih (row + 1) []
          { out with created := out.created ++ made } (.inr rfl)
        refine ⟨total, ?_, ?_⟩
        · rw [same, ← List.append_assoc]
          exact created
        · rw [List.countP_cons_of_neg (by rw [accepted]; exact Bool.false_ne_true)]
          exact errors
      | none =>
        obtain ⟨same, rejected⟩ := kept_of_none flushed
        obtain ⟨total, created, errors⟩ := ih (row + 1) []
          { out with errors := out.errors ++ [(row, "refused")] } (.inr rfl)
        dsimp only
        rw [if_pos skips]
        refine ⟨total, ?_, ?_⟩
        · rw [same, List.nil_append]
          exact created
        · rw [List.countP_cons_of_pos rejected, errors, List.length_append,
            List.length_singleton]
          omega
    · have held : batches opts.size batch (d :: rest) = batches opts.size (batch ++ [d]) rest := by
        rw [batches_cons, if_neg fun size => full (.inl size)]
      rw [if_neg full, held]
      exact ih (row + 1) (batch ++ [d]) out (.inl fun last => full (.inr last))

/-- The rows before the first one that is not created on its own. -/
def sound (schema : EntitySchema) (repo : Repository F O) (rows : List (Parsed F O)) :
    List (Parsed F O) := rows.takeWhile fun row => (make schema repo row).isSome

/-- The rows of a batch that is created are all created on their own. -/
theorem sound_append (flushed : bulkCreate schema repo batch = some made)
    (rest : List (Parsed F O)) :
    (sound schema repo (batch.map .data ++ rest)).filterMap (make schema repo) =
      made ++ (sound schema repo rest).filterMap (make schema repo) := by
  rw [bulkCreate, mapM_eq_some_iff] at flushed
  induction flushed with
  | nil => rfl
  | cons here _ ih =>
    have alone : make schema repo (.data _) = some _ := here
    rw [List.map_cons, List.cons_append, sound, List.takeWhile_cons_of_pos (by rw [alone]; rfl),
      List.filterMap_cons_some alone, List.cons_append, ← ih]
    rfl

/-- What was added begins what the rows before the first unsound one make. -/
def Begins (schema : EntitySchema) (repo : Repository F O) (rows : List (Parsed F O))
    (before after : List (Made F O)) : Prop :=
  ∃ made, after = before ++ made ∧ made <+: (sound schema repo rows).filterMap (make schema repo)

theorem Begins.nothing (rows : List (Parsed F O)) (created : List (Made F O)) :
    Begins schema repo rows created created :=
  ⟨[], (List.append_nil _).symm, List.nil_prefix⟩

theorem Begins.flush {rest : List (Parsed F O)} {before after : List (Made F O)}
    (flushed : bulkCreate schema repo batch = some made)
    (begins : Begins schema repo rest (before ++ made) after) :
    Begins schema repo (batch.map .data ++ rest) before after := by
  obtain ⟨more, rfl, first⟩ := begins
  refine ⟨made ++ more, List.append_assoc .., ?_⟩
  rw [sound_append flushed]
  exact (List.prefix_append_right_inj made).mpr first

variable (schema repo) in
/-- Without skipping, nothing is created of a row behind one that is not created on its own. -/
theorem importLoop_of_abort (aborts : opts.skipErrors = false) (label : String) (row : Nat)
    (batch : List (Data F O)) (out : Imported F O) :
    Begins schema repo (batch.map .data ++ rows) out.created
      (importLoop schema repo opts label row batch out rows).created := by
  induction rows generalizing row batch out with
  | nil =>
    rw [importLoop_nil, lastFlush]
    cases flushed : bulkCreate schema repo batch with
    | none => exact .nothing _ _
    | some made => exact .flush flushed (.nothing _ _)
  | cons parsed rest ih =>
    rw [importLoop_cons]
    cases parsed with
    | unreadable err =>
      rw [importRow, aborts]
      exact .nothing _ _
    | bad err =>
      rw [importRow_of_bad aborts]
      exact .nothing _ _
    | data d =>
      rw [importRow, ← map_data_concat]
      dsimp only
      by_cases full : ((batch ++ [d]).length : Int) ≥ opts.size
      · rw [if_pos full]
        cases flushed : bulkCreate schema repo (batch ++ [d]) with
        | none =>
          rw [aborts]
          exact .nothing _ _
        | some made => exact .flush flushed (ih (row + 1) [] _)
      · rw [if_neg full]
        exact ih (row + 1) (batch ++ [d]) { out with total := out.total + 1 }

variable (schema repo) in
theorem importJSONLoop_of_abort (aborts : opts.skipErrors = false) (rows : List (Data F O))
    (row : Nat) (batch : List (Data F O)) (out : Imported F O) :
    Begins schema repo (batch.map .data ++ rows.map .data) out.created
      (importJSONLoop schema repo opts row batch out rows).created := by
  induction rows generalizing row batch out with
  | nil => exact .nothing _ _
  | cons d rest ih =>
    rw [importJSONLoop, List.map_cons, ← map_data_concat]
    split
    · cases flushed : bulkCreate schema repo (batch ++ [d]) with
      | none =>
        rw [aborts]
        exact .nothing _ _
      | some made => exact .flush flushed (ih (row + 1) [] _)
    · exact ih (row + 1) (batch ++ [d]) out

end Accounts

section Streams

/-- What the decoder of a JSON stream comes to: an object or `null`, a value of another type, text
that is no JSON, or a bracket that closes nothing. -/
inductive Item (F O : Type) where
  | object (row : Row F O)
  | other (err : String)
  | malformed (err : String)
  | closing

/-- An input: the text of a CSV file, a JSON text, which has the elements of an array or an error,
or a JSON stream. -/
inductive Stream (F O : Type) where
  | csv (text : List Char)
  | json (array : Except String (List (Except String (Row F O))))
  | jsonl (items : List (Item F O))

variable (go : Language F O) (schema : EntitySchema) (repo : Repository F O) (opts : ImportOptions)

/-- A record of another number of fields than the header is an error. -/
def checkedCount (count : Nat) (record : Except Csv.ParseError (List Csv.Field)) :
    Except Csv.ParseError (List Csv.Field) :=
  record.bind fun fields => if fields.length = count then .ok fields else .error .fieldCount

/-- `Read` of a CSV reader behind the header; none at the end of the text. -/
def csvNext (headers : List Csv.Field) (text : List Char) : Option (Parsed F O × List Char) :=
  (Csv.readRecord text).map fun read =>
    (parsedRow go schema (headers.map String.ofList) (checkedCount headers.length read.1), read.2)

/-- `More` and `Decode`: malformed text is not left behind. -/
def jsonlNext : List (Item F O) → Option (Parsed F O × List (Item F O))
  | [] => none
  | .closing :: _ => none
  | .malformed err :: rest => some (.bad err, .malformed err :: rest)
  | .other err :: rest => some (.bad err, rest)
  | .object row :: rest => some (.data (normalizeJSONRow go schema row), rest)

/-- `Import`, where it has ended after so many calls of the reader. -/
def importWithin (fuel : Nat) : Stream F O → Option (Imported F O)
  | .csv text =>
    match Csv.readRecord (Csv.readLines text) with
    | none => some { failure := "ioport: csv: read header: EOF" }
    | some (.error _, _) => some { failure := "ioport: csv: read header" }
    | some (.ok headers, rest) =>
      importStream schema repo opts (csvNext go schema headers) "csv" fuel 2 [] {} rest
  | .json (.error err) => some { failure := some ("ioport: json: decode: " ++ err) }
  | .json (.ok elements) =>
    match elements.mapM id with
    | .error err => some { failure := some ("ioport: json: decode: " ++ err) }
    | .ok rows => some (importJSON go schema repo opts rows)
  | .jsonl items => importStream schema repo opts (jsonlNext go schema) "jsonl" fuel 1 [] {} items

/-- What is to be read of a stream: the rows up to where the import ends, those that it leaves
unread, and whether it is stuck between them. -/
structure Reading (F O : Type) where
  rows : List (Parsed F O) := []
  unread : List (Parsed F O) := []
  stuck : Bool := false

def elementRow : Except String (Row F O) → Parsed F O
  | .error err => .bad err
  | .ok row => .data (normalizeJSONRow go schema row)

def itemRow : Item F O → Option (Parsed F O)
  | .object row => some (.data (normalizeJSONRow go schema row))
  | .other err => some (.bad err)
  | .malformed err => some (.bad err)
  | .closing => none

def jsonlReading : List (Item F O) → Reading F O
  | [] => {}
  | .closing :: rest => { unread := rest.filterMap (itemRow go schema) }
  | .malformed err :: rest =>
    { unread := .bad err :: rest.filterMap (itemRow go schema), stuck := true }
  | .other err :: rest =>
    { jsonlReading rest with rows := .bad err :: (jsonlReading rest).rows }
  | .object row :: rest =>
    { jsonlReading rest with
      rows := .data (normalizeJSONRow go schema row) :: (jsonlReading rest).rows }

def Stream.reading : Stream F O → Reading F O
  | .csv text =>
    match Csv.readRecord (Csv.readLines text) with
    | some (.ok headers, rest) =>
      { rows := (Csv.readAll headers.length (rest.length + 1) rest).map
          (parsedRow go schema (headers.map String.ofList)) }
    | _ => {}
  | .json (.error _) => {}
  | .json (.ok elements) =>
    match elements.mapM id with
    | .error _ => { unread := elements.map (elementRow go schema) }
    | .ok rows => { rows := rows.map fun row => .data (normalizeJSONRow go schema row) }
  | .jsonl items => jsonlReading go schema items

def Stream.rows (stream : Stream F O) : List (Parsed F O) :=
  (stream.reading go schema).rows ++ (stream.reading go schema).unread

/-- A batch is flushed in the loop when it is full; an array flushes all of them there. -/
def Stream.flushes (size : Int) : Stream F O → List (Data F O) → Bool
  | .json _, _ => true
  | _, batch => (batch.length : Int) ≥ size

/-- The import ends.  With errors skipped, its total is that of the created and of the reported
rows, and the rows that are valid on their own are created, each once.  Without skipping, nothing
is created behind the first row that is not valid. -/
def Meets (stream : Stream F O) : Prop :=
  ∃ fuel out, importWithin go schema repo opts fuel stream = some out ∧
    (opts.skipErrors = true → out.total = out.created.length + out.errors.length ∧
      out.created = (stream.rows go schema).filterMap (make schema repo)) ∧
    (opts.skipErrors = false →
      out.created <+: (sound schema repo (stream.rows go schema)).filterMap (make schema repo))

def Stream.batches (stream : Stream F O) : List (List (Data F O)) :=
  Library.batches opts.size [] ((stream.reading go schema).rows.filterMap Parsed.data?)

/-- The stream has no malformed JSON, no valid row stands where none is read, and every batch that
is refused is one of invalid rows only.  The rows of the refused batches are as many as those
batches that are flushed in the loop and the rows that a CSV reader cannot read. -/
structure Balanced (stream : Stream F O) : Prop where
  clean : (stream.reading go schema).stuck = false
  unread : ∀ row ∈ (stream.reading go schema).unread, make schema repo row = none
  invalid : ∀ batch ∈ stream.batches go schema opts, refused schema repo batch = true →
    ∀ d ∈ batch, create schema repo d = none
  counted : (((stream.batches go schema opts).filter (refused schema repo)).flatten).length =
    (stream.reading go schema).rows.countP Parsed.isUnreadable +
      (stream.batches go schema opts).countP fun batch =>
        refused schema repo batch && stream.flushes opts.size batch

variable {go schema repo opts}

/-! ## Runs -/

variable (go schema) in
/-- The records of a CSV file are read up to its end. -/
theorem yields_csvNext (headers : List Csv.Field) (fuel : Nat) (text : List Char)
    (enough : text.length < fuel) :
    ∃ later, Yields (csvNext go schema headers) text
        ((Csv.readAll headers.length fuel text).map
          (parsedRow go schema (headers.map String.ofList))) later ∧
      csvNext go schema headers later = none := by
  induction fuel generalizing text with
  | zero => exact absurd enough (Nat.not_lt_zero _)
  | succ fuel ih =>
    rw [Csv.readAll]
    cases read : Csv.readRecord text with
    | none => exact ⟨text, .refl text, by rw [csvNext, read]; rfl⟩
    | some record =>
      obtain ⟨record, rest⟩ := record
      have shorter := Csv.readRecord_lt read
      obtain ⟨later, yields, ended⟩ := ih rest (by omega)
      cases record with
      | error err =>
        exact ⟨later, .step (by rw [csvNext, read]; rfl) yields, ended⟩
      | ok fields =>
        exact ⟨later, .step (by rw [csvNext, read]; rfl) yields, ended⟩

variable (go schema) in
/-- The items of a JSON stream are read up to its end or up to malformed text. -/
theorem yields_jsonlNext (items : List (Item F O)) :
    ∃ later, Yields (jsonlNext go schema) items (jsonlReading go schema items).rows later ∧
      (((jsonlReading go schema items).stuck = false ∧ jsonlNext go schema later = none) ∨
        ((jsonlReading go schema items).stuck = true ∧ ∃ err more,
          (jsonlReading go schema items).unread = .bad err :: more ∧
          jsonlNext go schema later = some (.bad err, later))) := by
  induction items with
  | nil => exact ⟨[], .refl [], .inl ⟨rfl, rfl⟩⟩
  | cons item rest ih =>
    obtain ⟨later, yields, ended⟩ := ih
    cases item with
    | closing => exact ⟨_, .refl _, .inl ⟨rfl, rfl⟩⟩
    | malformed err => exact ⟨_, .refl _, .inr ⟨rfl, err, _, rfl, rfl⟩⟩
    | other err => exact ⟨later, .step rfl yields, ended⟩
    | object row => exact ⟨later, .step rfl yields, ended⟩

structure Accounted (schema : EntitySchema) (repo : Repository F O) (rows : List (Parsed F O))
    (parts : List (List (Data F O))) (flushes : List (Data F O) → Bool) (out : Imported F O) :
    Prop where
  total : out.total = rows.countP Parsed.isBad + (rows.filterMap Parsed.data?).length
  created : out.created = parts.flatMap (kept schema repo)
  errors : out.errors.length = rows.countP Parsed.isUnreadable + rows.countP Parsed.isBad +
    parts.countP fun batch => refused schema repo batch && flushes batch

theorem Accounts.accounted {rows : List (Parsed F O)} {out : Imported F O}
    (accounts : Accounts schema repo opts.size [] rows {} out) :
    Accounted schema repo rows (Library.batches opts.size [] (rows.filterMap Parsed.data?))
      (fun batch => (batch.length : Int) ≥ opts.size) out := by
  obtain ⟨total, created, errors⟩ := accounts
  refine ⟨total.trans ?_, created, errors.trans ?_⟩
  · exact congrArg (· + _) (Nat.zero_add _)
  · exact congrArg (· + _ + _) (Nat.zero_add _)

theorem sound_before (rows more : List (Parsed F O)) :
    (sound schema repo rows).filterMap (make schema repo) <+:
      (sound schema repo (rows ++ more)).filterMap (make schema repo) := by
  refine List.IsPrefix.filterMap _ ?_
  rw [sound, sound, List.takeWhile_append]
  split
  · rename_i whole
    rw [(List.takeWhile_prefix _).eq_of_length whole]
    exact List.prefix_append _ _
  · exact List.prefix_refl _

structure Ran (go : Language F O) (schema : EntitySchema) (repo : Repository F O)
    (opts : ImportOptions) (stream : Stream F O) (out : Imported F O) : Prop where
  accounted : opts.skipErrors = true → (stream.reading go schema).stuck = false ∧
    Accounted schema repo (stream.reading go schema).rows (stream.batches go schema opts)
      (stream.flushes opts.size) out
  stopped : opts.skipErrors = false →
    out.created <+: (sound schema repo (stream.rows go schema)).filterMap (make schema repo)

/-- An import with no row that is read does nothing. -/
theorem ran_of_failure {stream : Stream F O} (failure : String)
    (none : (stream.reading go schema).rows = [])
    (clean : (stream.reading go schema).stuck = false) :
    Ran go schema repo opts stream { failure := failure } := by
  refine ⟨fun _ => ⟨clean, ?_⟩, fun _ => List.nil_prefix⟩
  rw [Stream.batches, none]
  exact ⟨rfl, rfl, rfl⟩

/-- A loop over the rows of a stream does what its accounts say. -/
theorem ran_importLoop {stream : Stream F O} {label : String} {row : Nat}
    (streams : stream.flushes opts.size =
      fun batch : List (Data F O) => (batch.length : Int) ≥ opts.size)
    (clean : (stream.reading go schema).stuck = false) :
    Ran go schema repo opts stream
      (importLoop schema repo opts label row [] {} (stream.reading go schema).rows) := by
  refine ⟨fun skips => ⟨clean, ?_⟩, fun aborts => ?_⟩
  · have short : (([] : List (Data F O)).length : Int) < opts.size := by
      rw [ImportOptions.size, List.length_nil]
      split <;> omega
    rw [streams]
    exact (importLoop_of_skip skips row [] {} short).accounted
  · obtain ⟨made, created, before⟩ := importLoop_of_abort schema repo aborts label row [] {}
    rw [created]
    exact before.trans (sound_before _ _)

variable (go schema repo opts) in
/-- The calls for a CSV file come to its end. -/
theorem importWithin_csv (text : List Char) :
    ∃ fuel, importWithin go schema repo opts fuel (.csv text) =
      some (importCSV go schema repo opts text) := by
  cases header : Csv.readRecord (Csv.readLines text) with
  | none => exact ⟨0, by rw [importWithin, importCSV, header]⟩
  | some read =>
    obtain ⟨record, rest⟩ := read
    cases record with
    | error err => exact ⟨0, by rw [importWithin, importCSV, header]⟩
    | ok headers =>
      obtain ⟨later, yields, ended⟩ :=
        yields_csvNext go schema headers _ rest (Nat.lt_succ_self _)
      have returns : importStream schema repo opts (csvNext go schema headers) "csv" _ 2 [] {}
          rest = some _ := importStream_of_yields yields ended
      have streams : ∀ fuel, importWithin go schema repo opts fuel (.csv text) =
          importStream schema repo opts (csvNext go schema headers) "csv" fuel 2 [] {} rest :=
        fun fuel => by rw [importWithin, header]
      refine ⟨_, (streams _).trans (returns.trans ?_)⟩
      rw [importCSV, header]

theorem runs_csv (text : List Char) :
    ∃ fuel out, importWithin go schema repo opts fuel (.csv text) = some out ∧
      Ran go schema repo opts (.csv text) out := by
  obtain ⟨fuel, ended⟩ := importWithin_csv go schema repo opts text
  refine ⟨fuel, _, ended, ?_⟩
  cases header : Csv.readRecord (Csv.readLines text) with
  | none =>
    rw [importCSV, header]
    refine ran_of_failure _ ?_ ?_
    · rw [Stream.reading, header]
    · rw [Stream.reading, header]
  | some read =>
    obtain ⟨record, rest⟩ := read
    cases record with
    | error err =>
      rw [importCSV, header]
      refine ran_of_failure _ ?_ ?_
      · rw [Stream.reading, header]
      · rw [Stream.reading, header]
    | ok headers =>
      have reading : (Stream.csv text : Stream F O).reading go schema =
          { rows := (Csv.readAll headers.length (rest.length + 1) rest).map
              (parsedRow go schema (headers.map String.ofList)) } := by
        rw [Stream.reading, header]
      have ran : Ran go schema repo opts (.csv text) (importLoop schema repo opts "csv" 2 [] {}
          ((Stream.csv text).reading go schema).rows) := ran_importLoop rfl (by rw [reading])
      rw [reading] at ran
      rw [importCSV, header]
      exact ran

theorem data_rows (data : List (Data F O)) :
    (data.map Parsed.data).filterMap Parsed.data? = data ∧
      (data.map Parsed.data).countP Parsed.isBad = 0 ∧
      (data.map Parsed.data).countP Parsed.isUnreadable = 0 := by
  induction data with
  | nil => exact ⟨rfl, rfl, rfl⟩
  | cons d rest ih =>
    obtain ⟨data, bad, unreadable⟩ := ih
    refine ⟨congrArg (d :: ·) data, ?_, ?_⟩
    · rw [List.map_cons, List.countP_cons_of_neg Bool.false_ne_true, bad]
    · rw [List.map_cons, List.countP_cons_of_neg Bool.false_ne_true, unreadable]

theorem runs_json (array : Except String (List (Except String (Row F O)))) :
    ∃ fuel out, importWithin go schema repo opts fuel (.json array) = some out ∧
      Ran go schema repo opts (.json array) out := by
  cases array with
  | error err => exact ⟨0, _, rfl, ran_of_failure _ rfl rfl⟩
  | ok elements =>
    cases decoded : elements.mapM id with
    | error err =>
      refine ⟨0, { failure := some _ }, by rw [importWithin, decoded], ran_of_failure _ ?_ ?_⟩
      · rw [Stream.reading, decoded]
      · rw [Stream.reading, decoded]
    | ok rows =>
      have reading : (Stream.json (.ok elements) : Stream F O).reading go schema =
          { rows := (rows.map (normalizeJSONRow go schema)).map .data } := by
        rw [Stream.reading, decoded, List.map_map]
        rfl
      obtain ⟨data, bad, unreadable⟩ := data_rows (rows.map (normalizeJSONRow go schema))
      refine ⟨0, _, by rw [importWithin, decoded], fun skips => ⟨by rw [reading], ?_⟩,
        fun aborts => ?_⟩
      · obtain ⟨total, created, errors⟩ := importJSONLoop_of_skip schema repo skips
          (rows.map (normalizeJSONRow go schema)) 1 [] { total := rows.length } (.inr rfl)
        rw [Stream.batches, reading]
        refine ⟨total.trans ?_, created.trans ?_, errors.trans ?_⟩
        · rw [data, bad, List.length_map, Nat.zero_add]
        · rw [data, List.nil_append]
        · rw [data, bad, unreadable]
          refine congrArg (0 + ·) (List.countP_congr fun batch _ => ?_)
          rw [Stream.flushes, Bool.and_true]
      · obtain ⟨made, created, before⟩ := importJSONLoop_of_abort schema repo aborts
          (rows.map (normalizeJSONRow go schema)) 1 [] { total := rows.length }
        rw [importJSON, created, Stream.rows, reading, List.append_nil]
        exact before

theorem runs_jsonl (items : List (Item F O)) :
    (∃ fuel out, importWithin go schema repo opts fuel (.jsonl items) = some out ∧
      Ran go schema repo opts (.jsonl items) out) ∨
    (opts.skipErrors = true ∧ (jsonlReading go schema items).stuck = true ∧
      ∀ fuel, importWithin go schema repo opts fuel (.jsonl items) = none) := by
  obtain ⟨later, yields, ⟨clean, ended⟩ | ⟨stuck, err, more, unread, again⟩⟩ :=
    yields_jsonlNext go schema items
  · have returns : importStream schema repo opts (jsonlNext go schema) "jsonl" _ 1 [] {} items =
        some _ := importStream_of_yields yields ended
    exact .inl
      ⟨(jsonlReading go schema items).rows.length + 1, _, returns, ran_importLoop rfl clean⟩
  · cases skips : opts.skipErrors with
    | true =>
      have goesOn : ∀ fuel, importWithin go schema repo opts fuel (.jsonl items) = none :=
        importStream_of_stuck skips yields again
      exact .inr ⟨rfl, stuck, goesOn⟩
    | false =>
      have returns : importStream schema repo opts (jsonlNext go schema) "jsonl" _ 1 [] {}
          items = some _ := importStream_of_bad skips yields again more
      refine .inl ⟨(jsonlReading go schema items).rows.length + 1, _, returns, fun skips' => ?_,
        fun _ => ?_⟩
      · rw [skips] at skips'
        cases skips'
      · obtain ⟨made, created, before⟩ := importLoop_of_abort schema repo skips "jsonl" 1 [] {}
        rw [created, Stream.rows, Stream.reading, unread]
        exact before

variable (schema repo) in
/-- Every row of a batch is created or in a refused batch. -/
theorem length_kept (parts : List (List (Data F O))) :
    parts.flatten.length = (parts.flatMap (kept schema repo)).length +
      ((parts.filter (refused schema repo)).flatten).length := by
  induction parts with
  | nil => rfl
  | cons batch rest ih =>
    rw [List.flatten_cons, List.flatMap_cons, List.length_append, List.length_append, ih]
    rcases kept_cases batch with ⟨accepted, -, length⟩ | ⟨rejected, nothing⟩
    · rw [List.filter_cons_of_neg (by rw [accepted]; exact Bool.false_ne_true), length]
      omega
    · rw [List.filter_cons_of_pos rejected, nothing, List.flatten_cons, List.length_append,
        List.length_nil]
      omega

variable (schema repo) in
/-- Only valid rows are created, in their order. -/
theorem flatMap_kept_sublist (parts : List (List (Data F O))) :
    (parts.flatMap (kept schema repo)).Sublist
      (parts.flatten.filterMap (create schema repo)) := by
  induction parts with
  | nil => exact .refl _
  | cons batch rest ih =>
    rw [List.flatMap_cons, List.flatten_cons, List.filterMap_append]
    refine List.Sublist.append ?_ ih
    rcases kept_cases batch with ⟨-, same, -⟩ | ⟨-, nothing⟩
    · rw [same]
    · rw [nothing]
      exact List.nil_sublist _

variable (schema repo) in
/-- All valid rows are created exactly when the rows of the refused batches are all invalid. -/
theorem flatMap_kept_iff (parts : List (List (Data F O))) :
    parts.flatMap (kept schema repo) = parts.flatten.filterMap (create schema repo) ↔
      ∀ batch ∈ parts, refused schema repo batch = true →
        ∀ d ∈ batch, create schema repo d = none := by
  have whole : parts.flatten.filterMap (create schema repo) =
      parts.flatMap fun batch => batch.filterMap (create schema repo) := by
    rw [List.filterMap_flatten, List.flatMap_def]
  rw [whole, flatMap_eq_flatMap_iff fun batch _ =>
    (kept_cases batch).imp (fun accepted => accepted.2.1) fun rejected => rejected.2]
  refine forall₂_congr fun batch _ => ?_
  rcases kept_cases batch with ⟨accepted, same, -⟩ | ⟨rejected, nothing⟩
  · refine iff_of_true same fun rejected => ?_
    rw [accepted] at rejected
    cases rejected
  · rw [nothing, eq_comm, List.filterMap_eq_nil_iff]
    exact ⟨fun all _ => all, fun all => all rejected⟩

/-- The accounts are right exactly when no valid row is left unread or refused with its batch, and
as many rows are refused as are reported or uncounted. -/
theorem accounted_iff {rows : List (Parsed F O)} {size : Int} {flushes : List (Data F O) → Bool}
    {out : Imported F O} (unread : List (Parsed F O))
    (accounted : Accounted schema repo rows
      (Library.batches size [] (rows.filterMap Parsed.data?)) flushes out) :
    (out.total = out.created.length + out.errors.length ∧
      out.created = (rows ++ unread).filterMap (make schema repo)) ↔
      (∀ row ∈ unread, make schema repo row = none) ∧
      (∀ batch ∈ Library.batches size [] (rows.filterMap Parsed.data?),
        refused schema repo batch = true → ∀ d ∈ batch, create schema repo d = none) ∧
      (((Library.batches size [] (rows.filterMap Parsed.data?)).filter
        (refused schema repo)).flatten).length = rows.countP Parsed.isUnreadable +
          (Library.batches size [] (rows.filterMap Parsed.data?)).countP fun batch =>
            refused schema repo batch && flushes batch := by
  obtain ⟨total, created, errors⟩ := accounted
  have flat := flatten_batches size [] (rows.filterMap Parsed.data?)
  rw [List.nil_append] at flat
  have valid : rows.filterMap (make schema repo) =
      (Library.batches size [] (rows.filterMap Parsed.data?)).flatten.filterMap
        (create schema repo) := by
    rw [flat, List.filterMap_filterMap]
    rfl
  have lengths := length_kept schema repo
    (Library.batches size [] (rows.filterMap Parsed.data?))
  have all := flatMap_kept_iff schema repo
    (Library.batches size [] (rows.filterMap Parsed.data?))
  have fewer := (flatMap_kept_sublist schema repo
    (Library.batches size [] (rows.filterMap Parsed.data?))).length_le
  rw [flat, ← created] at lengths
  rw [← created, ← valid] at all fewer
  rw [← all, ← List.filterMap_eq_nil_iff, List.filterMap_append]
  constructor
  · rintro ⟨counted, same⟩
    have sizes := congrArg List.length same
    rw [List.length_append] at sizes
    have none : unread.filterMap (make schema repo) = [] :=
      List.length_eq_zero_iff.mp (by omega)
    rw [none, List.append_nil] at same
    exact ⟨none, same, by omega⟩
  · rintro ⟨none, same, counted⟩
    rw [none, List.append_nil]
    exact ⟨by omega, same⟩

theorem importWithin_mono {stream : Stream F O} {out : Imported F O} {fuel more : Nat}
    (enough : fuel ≤ more) (ended : importWithin go schema repo opts fuel stream = some out) :
    importWithin go schema repo opts more stream = some out := by
  cases stream with
  | csv text =>
    rw [importWithin] at ended ⊢
    split at ended
    · exact ended
    · exact ended
    · exact importStream_mono enough ended
  | json array =>
    cases array with
    | error err => exact ended
    | ok elements => exact ended
  | jsonl items => exact importStream_mono enough ended

/-- What an import returns does not depend on the number of calls. -/
theorem importWithin_unique {stream : Stream F O} {out other : Imported F O} {fuel more : Nat}
    (first : importWithin go schema repo opts fuel stream = some out)
    (second : importWithin go schema repo opts more stream = some other) : out = other := by
  rcases Nat.le_total fuel more with le | le
  · exact Option.some.inj ((importWithin_mono le first).symm.trans second)
  · exact Option.some.inj (first.symm.trans (importWithin_mono le second))

variable (go schema repo opts) in
theorem runs (stream : Stream F O) :
    (∃ fuel out, importWithin go schema repo opts fuel stream = some out ∧
      Ran go schema repo opts stream out) ∨
    (opts.skipErrors = true ∧ (stream.reading go schema).stuck = true ∧
      ∀ fuel, importWithin go schema repo opts fuel stream = none) := by
  cases stream with
  | csv text => exact .inl (runs_csv text)
  | json array => exact .inl (runs_json array)
  | jsonl items => exact runs_jsonl items

theorem meets_of_ran {stream : Stream F O} {out : Imported F O} {fuel : Nat}
    (ended : importWithin go schema repo opts fuel stream = some out)
    (ran : Ran go schema repo opts stream out) :
    Meets go schema repo opts stream ↔
      (opts.skipErrors = true → Balanced go schema repo opts stream) := by
  have meets : Meets go schema repo opts stream ↔
      (opts.skipErrors = true → out.total = out.created.length + out.errors.length ∧
        out.created = (stream.rows go schema).filterMap (make schema repo)) := by
    constructor
    · rintro ⟨more, other, returned, skipping, -⟩
      rw [importWithin_unique ended returned]
      exact skipping
    · exact fun skipping => ⟨fuel, out, ended, skipping, ran.stopped⟩
  rw [meets]
  refine imp_congr_right fun skips => ?_
  obtain ⟨clean, accounted⟩ := ran.accounted skips
  rw [Stream.rows, accounted_iff _ accounted]
  exact ⟨fun ⟨unread, invalid, counted⟩ => ⟨clean, unread, invalid, counted⟩,
    fun balanced => ⟨balanced.unread, balanced.invalid, balanced.counted⟩⟩

theorem not_meets_of_stuck {stream : Stream F O} (skips : opts.skipErrors = true)
    (stuck : (stream.reading go schema).stuck = true) : ¬ Meets go schema repo opts stream := by
  rintro ⟨fuel, out, ended, -⟩
  rcases runs go schema repo opts stream with ⟨_, _, _, ran⟩ | ⟨-, -, never⟩
  · rw [(ran.accounted skips).1] at stuck
    cases stuck
  · rw [never fuel] at ended
    cases ended

/-- The import of a stream ends with right accounts and every valid row created exactly when, if it
skips errors, the stream is balanced. -/
theorem import_meets_iff (stream : Stream F O) : Meets go schema repo opts stream ↔
    (opts.skipErrors = true → Balanced go schema repo opts stream) := by
  rcases runs go schema repo opts stream with
    ⟨fuel, out, ended, ran⟩ | ⟨skips, stuck, -⟩
  · exact meets_of_ran ended ran
  · refine iff_of_false (not_meets_of_stuck skips stuck) fun balanced => ?_
    rw [(balanced skips).clean] at stuck
    cases stuck

/-- The stream of a document that an export has written. -/
def Document.stream : Document F O → Stream F O
  | .csv text => .csv text
  | .json rows => .json (.ok (rows.map .ok))
  | .jsonl rows => .jsonl (rows.map .object)

theorem jsonlReading_objects (rows : List (Row F O)) :
    jsonlReading go schema (rows.map .object) =
      { rows := rows.map fun row => .data (normalizeJSONRow go schema row) } := by
  induction rows with
  | nil => rfl
  | cons row rest ih => rw [List.map_cons, jsonlReading, ih, List.map_cons]

theorem importWithin_document (document : Document F O) :
    ∃ fuel, importWithin go schema repo opts fuel document.stream =
      some (importRecords go schema repo opts document) := by
  cases document with
  | csv text => exact importWithin_csv go schema repo opts text
  | json rows =>
    have decoded : (rows.map Except.ok).mapM id = (Except.ok rows : Except String _) := by
      rw [mapM_eq_ok_iff, List.forall₂_map_left_iff, List.forall₂_same]
      exact fun _ _ => rfl
    exact ⟨0, by rw [Document.stream, importWithin, decoded]; rfl⟩
  | jsonl rows =>
    obtain ⟨later, yields, ended⟩ := yields_jsonlNext go schema (rows.map .object)
    rw [jsonlReading_objects] at yields ended
    rcases ended with ⟨-, ended⟩ | ⟨stuck, -⟩
    · have returns : importStream schema repo opts (jsonlNext go schema) "jsonl" _ 1 [] {}
          (rows.map .object) = some _ := importStream_of_yields yields ended
      exact ⟨(rows.map _).length + 1, returns⟩
    · cases stuck

end Streams

def requiring : Repository { n : Int // IsInt64 n } Empty :=
  { permissive with absent := fun _ => none }

def twoCustomers : Stream { n : Int // IsInt64 n } Empty :=
  .csv "name,number\nAda,1\n,2\n".toList

/-- With errors skipped, a JSON stream of a broken line is read forever, and a customer is not
created since the next row has no name. -/
theorem skipped_errors :
    ¬ Meets integral customer permissive { skipErrors := true } (.jsonl [.malformed "EOF"]) ∧
      ¬ Meets integral customer requiring { skipErrors := true } twoCustomers := by
  refine ⟨not_meets_of_stuck rfl rfl, ?_⟩
  rintro ⟨fuel, out, ended, skipping, -⟩
  have returned : ∃ other,
      importWithin integral customer requiring { skipErrors := true } 3 twoCustomers = some other ∧
        other.created = [] := by
    refine Option.map_eq_some_iff.mp ?_
    decide +kernel
  obtain ⟨other, ended', nothing⟩ := returned
  have valid : (twoCustomers.rows integral customer).filterMap (make customer requiring) ≠ [] := by
    decide +kernel
  rw [importWithin_unique ended ended', nothing] at skipping
  exact valid (skipping rfl).2.symm

end ErpFinance.Ioport
