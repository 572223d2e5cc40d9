import ErpFinance.Library.Text

/-!
# Comma-separated values

The writer and the reader of `encoding/csv` on the characters of a text: fields
are quoted where that is needed, and a reader that trims leading space skips
blank lines and takes a carriage return before a line feed away, inside quotes
too.  What is written is read back, up to those carriage returns.
-/

namespace ErpFinance.Library.Csv

abbrev Field := List Char

/-! ## Writing -/

/-- The characters that a field is quoted for. -/
def isSpecial (c : Char) : Bool := c = '\n' || c = '\r' || c = '"' || c = ','

def fieldNeedsQuotes : Field → Bool
  | [] => false
  | first :: rest =>
    first :: rest = ['\\', '.'] || (first :: rest).any isSpecial || isSpace first

/-- A quote inside quotes is written twice. -/
def doubled (field : Field) : List Char :=
  field.flatMap fun c => if c = '"' then ['"', '"'] else [c]

def writeField (field : Field) : List Char :=
  if fieldNeedsQuotes field then '"' :: doubled field ++ ['"'] else field

def writeFields : List Field → List Char
  | [] => []
  | [field] => writeField field
  | field :: rest => writeField field ++ ',' :: writeFields rest

theorem writeFields_cons (field next : Field) (rest : List Field) :
    writeFields (field :: next :: rest) = writeField field ++ ',' :: writeFields (next :: rest) :=
  rfl

/-- `Writer.Write`. -/
def writeRecord (fields : List Field) : List Char := writeFields fields ++ ['\n']

/-! ## Reading -/

/-- The lines as the reader sees them: each without the carriage return before its line feed. -/
def unreturned : List Char → List Char
  | [] => []
  | c :: rest =>
    if c = '\r' ∧ rest.head? = some '\n' then unreturned rest else c :: unreturned rest

/-- A carriage return at the end of the text goes as well. -/
def readLines (text : List Char) : List Char :=
  unreturned (if text.getLast? = some '\r' then text.dropLast else text)

inductive ParseError where
  | bareQuote
  | quote
  | fieldCount

/-- Where the reader is in a field. -/
inductive Mode where
  | start
  | plain
  | quoted
  | closed

/-- What follows the line. -/
def skipLine : List Char → List Char
  | [] => []
  | c :: rest => if c = '\n' then rest else skipLine rest

/-- The fields of a record, and the text behind it; an error drops the rest of its line. -/
def readFields : Mode → Field → List Field → List Char → Except ParseError (List Field) × List Char
  | .start, _, fields, [] => (.ok (fields ++ [[]]), [])
  | .start, _, fields, c :: rest =>
    if c = '\n' then (.ok (fields ++ [[]]), rest)
    else if isSpace c then readFields .start [] fields rest
    else if c = '"' then readFields .quoted [] fields rest
    else if c = ',' then readFields .start [] (fields ++ [[]]) rest
    else readFields .plain [c] fields rest
  | .plain, field, fields, [] => (.ok (fields ++ [field]), [])
  | .plain, field, fields, c :: rest =>
    if c = '\n' then (.ok (fields ++ [field]), rest)
    else if c = ',' then readFields .start [] (fields ++ [field]) rest
    else if c = '"' then (.error .bareQuote, skipLine rest)
    else readFields .plain (field ++ [c]) fields rest
  | .quoted, _, _, [] => (.error .quote, [])
  | .quoted, field, fields, c :: rest =>
    if c = '"' then readFields .closed field fields rest
    else readFields .quoted (field ++ [c]) fields rest
  | .closed, field, fields, [] => (.ok (fields ++ [field]), [])
  | .closed, field, fields, c :: rest =>
    if c = '"' then readFields .quoted (field ++ ['"']) fields rest
    else if c = ',' then readFields .start [] (fields ++ [field]) rest
    else if c = '\n' then (.ok (fields ++ [field]), rest)
    else (.error .quote, skipLine rest)

/-- The next record, after blank lines; none at the end of the text. -/
def readRecord (text : List Char) : Option (Except ParseError (List Field) × List Char) :=
  match text.dropWhile (· = '\n') with
  | [] => none
  | c :: rest => some (readFields .start [] [] (c :: rest))

/-- The records that are left, of a reader that expects a number of fields. -/
def readAll (count : Nat) : Nat → List Char → List (Except ParseError (List Field))
  | 0, _ => []
  | fuel + 1, text =>
    match readRecord text with
    | none => []
    | some (.error err, rest) => .error err :: readAll count fuel rest
    | some (.ok fields, rest) =>
      (if fields.length = count then .ok fields else .error .fieldCount) ::
        readAll count fuel rest

/-! ## What is left of a text -/

theorem length_skipLine_le (text : List Char) : (skipLine text).length ≤ text.length := by
  induction text with
  | nil => exact Nat.le_refl _
  | cons c rest ih =>
    rw [skipLine]
    split
    · exact Nat.le_succ _
    · exact Nat.le_succ_of_le ih

/-- The first character of a text is always read. -/
theorem length_readFields_le (mode : Mode) (field : Field) (fields : List Field)
    (text : List Char) : (readFields mode field fields text).2.length ≤ text.length - 1 := by
  have skipped := length_skipLine_le
  fun_induction readFields mode field fields text with
  | _ => grind

theorem readRecord_lt {text rest : List Char} {record : Except ParseError (List Field)}
    (read : readRecord text = some (record, rest)) : rest.length < text.length := by
  have shorter := (text.dropWhile_sublist (· = '\n')).length_le
  rw [readRecord] at read
  split at read
  · cases read
  · rename_i c others left
    have behind := length_readFields_le .start [] [] (c :: others)
    rw [Option.some.inj read, ← left] at behind
    rw [left, List.length_cons] at shorter
    rw [left, List.length_cons] at behind
    have behind : rest.length ≤ others.length := behind
    omega

section Returns

variable {c : Char} {rest chars first second : List Char}

theorem unreturned_cons (other : c ≠ '\r' ∨ rest.head? ≠ some '\n') :
    unreturned (c :: rest) = c :: unreturned rest := by
  rw [unreturned, if_neg]
  rintro ⟨isReturn, before⟩
  exact other.elim (· isReturn) (· before)

theorem unreturned_eq_self (free : '\r' ∉ chars) : unreturned chars = chars := by
  induction chars with
  | nil => rfl
  | cons c rest ih =>
    rw [List.mem_cons, not_or] at free
    rw [unreturned_cons (.inl (Ne.symm free.1)), ih free.2]

theorem unreturned_eq_nil_iff : unreturned chars = [] ↔ chars = [] := by
  constructor
  · intro empty
    induction chars with
    | nil => rfl
    | cons c rest ih =>
      rw [unreturned] at empty
      split at empty
      · rename_i isReturn
        rw [ih empty] at isReturn
        cases isReturn.2
      · cases empty
  · rintro rfl
    rfl

/-- Lines are read piece by piece where no carriage return ends the first piece before a line
feed. -/
theorem unreturned_append
    (apart : first.getLast? ≠ some '\r' ∨ second.head? ≠ some '\n') :
    unreturned (first ++ second) = unreturned first ++ unreturned second := by
  induction first with
  | nil => rfl
  | cons c rest ih =>
    cases rest with
    | nil =>
      have alone : c ≠ '\r' ∨ second.head? ≠ some '\n' := by simpa using apart
      rw [List.singleton_append, unreturned_cons alone, unreturned_cons (.inr (by simp))]
      rfl
    | cons d more =>
      have later := ih (by simpa using apart)
      simp only [List.cons_append] at later ⊢
      rw [unreturned, later, unreturned.eq_2 c (d :: more), List.head?_cons, List.head?_cons]
      split
      · rfl
      · rfl

theorem unreturned_sublist : (unreturned chars).Sublist chars := by
  induction chars with
  | nil => exact List.Sublist.slnil
  | cons c rest ih =>
    rw [unreturned]
    split
    · exact ih.cons c
    · exact ih.cons_cons c

/-- A text keeps its length exactly when there is no carriage return before a line feed. -/
theorem unreturned_eq_self_iff : unreturned chars = chars ↔ ¬ ['\r', '\n'] <:+: chars := by
  induction chars with
  | nil => simp [unreturned]
  | cons c rest ih =>
    by_cases dropped : c = '\r' ∧ rest.head? = some '\n'
    · have shorter : (unreturned rest).length ≤ rest.length := unreturned_sublist.length_le
      obtain ⟨more, rfl⟩ : ∃ more, rest = '\n' :: more := List.head?_eq_some_iff.mp dropped.2
      refine iff_of_false (fun same => ?_) (not_not.mpr ⟨[], more, by rw [dropped.1]; rfl⟩)
      rw [unreturned, if_pos dropped] at same
      have lengths := congrArg List.length same
      rw [List.length_cons] at lengths
      omega
    · rw [unreturned, if_neg dropped, List.cons.injEq, and_iff_right rfl, ih,
        List.infix_cons_iff, not_or, iff_and_self]
      rintro - ⟨tail, same⟩
      cases same
      exact dropped ⟨rfl, rfl⟩

theorem head?_doubled (field : Field) : (doubled field).head? = field.head? := by
  cases field with
  | nil => rfl
  | cons c rest =>
    simp only [doubled, List.flatMap_cons]
    split
    · next quote => rw [quote]; rfl
    · rfl

/-- Doubling quotes makes no line end. -/
theorem unreturned_doubled (field : Field) :
    unreturned (doubled field) = doubled (unreturned field) := by
  induction field with
  | nil => rfl
  | cons c rest ih =>
    have unfolded : ∀ cs : Field, doubled (c :: cs) =
        (if c = '"' then ['"', '"'] else [c]) ++ doubled cs := fun _ => rfl
    by_cases dropped : c = '\r' ∧ rest.head? = some '\n'
    · have plain : c ≠ '"' := by rw [dropped.1]; decide
      rw [unfolded, if_neg plain, List.singleton_append, unreturned, head?_doubled,
        if_pos dropped, ih, unreturned, if_pos dropped]
    · rw [unreturned, if_neg dropped, unfolded, unfolded]
      by_cases quote : c = '"'
      · rw [if_pos quote, List.cons_append, List.singleton_append,
          unreturned_cons (.inl (by decide)), unreturned_cons (.inl (by decide)), ih]
        rfl
      · rw [if_neg quote, List.singleton_append, unreturned, head?_doubled, if_neg dropped, ih]
        rfl

end Returns

/-! ## Lines of written text -/

theorem mem_unreturned {c : Char} {chars : List Char} (other : c ≠ '\r') :
    c ∈ unreturned chars ↔ c ∈ chars := by
  induction chars with
  | nil => rfl
  | cons d rest ih =>
    rw [unreturned]
    split
    · next dropped => rw [ih, List.mem_cons, dropped.1, or_iff_right other]
    · rw [List.mem_cons, List.mem_cons, ih]

/-- A field that is written as it is has no special character in it. -/
theorem notMem_of_plain {field : Field} (plain : fieldNeedsQuotes field = false) :
    ∀ c ∈ field, isSpecial c = false := by
  cases field with
  | nil => simp
  | cons first rest =>
    simp only [fieldNeedsQuotes, Bool.or_eq_false_iff] at plain
    intro c inField
    simpa using List.any_eq_false.mp plain.1.2 c inField

theorem noReturn_of_plain {field : Field} (plain : fieldNeedsQuotes field = false) :
    '\r' ∉ field := by
  intro inField
  have special := notMem_of_plain plain '\r' inField
  exact absurd special (by decide)

/-- Whether a field is quoted does not depend on carriage returns before line feeds. -/
theorem fieldNeedsQuotes_unreturned (field : Field) :
    fieldNeedsQuotes (unreturned field) = fieldNeedsQuotes field := by
  cases quotes : fieldNeedsQuotes field with
  | false => rw [unreturned_eq_self (noReturn_of_plain quotes), quotes]
  | true =>
    by_cases same : unreturned field = field
    · rw [same, quotes]
    · obtain ⟨before, after, split⟩ := not_not.mp (mt unreturned_eq_self_iff.mpr same)
      have feed : '\n' ∈ unreturned field := by
        rw [mem_unreturned (by decide), ← split]
        simp
      cases left : unreturned field with
      | nil => simp [left] at feed
      | cons first rest =>
        have special : (first :: rest).any isSpecial = true :=
          List.any_eq_true.mpr ⟨'\n', left ▸ feed, by decide⟩
        simp only [fieldNeedsQuotes, special, Bool.or_true, Bool.true_or]

/-- A written field does not end in a carriage return. -/
theorem getLast?_writeField (field : Field) : (writeField field).getLast? ≠ some '\r' := by
  rw [writeField]
  split
  · rw [List.getLast?_append, List.getLast?_singleton]
    exact fun last => absurd (Option.some.inj last) (by decide)
  · next plain =>
      intro last
      exact noReturn_of_plain (by simpa using plain) (List.mem_of_getLast? last)

theorem unreturned_writeField (field : Field) :
    unreturned (writeField field) = writeField (unreturned field) := by
  rw [writeField, writeField, fieldNeedsQuotes_unreturned]
  split
  · rw [List.cons_append, unreturned_cons (.inl (by decide)),
      unreturned_append (.inr (by decide)), unreturned_doubled]
    rfl
  · rfl

/-- The lines of a field before a comma or a line feed. -/
theorem unreturned_writeField_append (field : Field) (rest : List Char) :
    unreturned (writeField field ++ rest) = writeField (unreturned field) ++ unreturned rest := by
  rw [unreturned_append (.inl (getLast?_writeField field)), unreturned_writeField]

theorem unreturned_writeFields_append (fields : List Field) (rest : List Char) :
    unreturned (writeFields fields ++ rest) =
      writeFields (fields.map unreturned) ++ unreturned rest := by
  induction fields with
  | nil => rfl
  | cons field others ih =>
    cases others with
    | nil => exact unreturned_writeField_append field rest
    | cons next more =>
      simp only [writeFields, List.append_assoc, List.cons_append, List.map_cons] at ih ⊢
      rw [unreturned_writeField_append, unreturned_cons (.inl (by decide)), ih]

theorem unreturned_writeRecord_append (fields : List Field) (rest : List Char) :
    unreturned (writeRecord fields ++ rest) =
      writeRecord (fields.map unreturned) ++ unreturned rest := by
  rw [writeRecord, List.append_assoc, unreturned_writeFields_append, List.singleton_append,
    unreturned_cons (.inl (by decide)), writeRecord, List.append_assoc, List.singleton_append]

theorem unreturned_records (records : List (List Field)) :
    unreturned (records.flatMap writeRecord) =
      (records.map (List.map unreturned)).flatMap writeRecord := by
  induction records with
  | nil => rfl
  | cons record rest ih =>
    rw [List.flatMap_cons, unreturned_writeRecord_append, ih, List.map_cons, List.flatMap_cons]

theorem readLines_records (records : List (List Field)) :
    readLines (records.flatMap writeRecord) =
      (records.map (List.map unreturned)).flatMap writeRecord := by
  have last : (records.flatMap writeRecord).getLast? ≠ some '\r' := by
    rcases List.eq_nil_or_concat records with rfl | ⟨before, record, rfl⟩
    · simp
    · simp [writeRecord]
  rw [readLines, if_neg last, unreturned_records]

/-! ## Reading what was written -/

def ended (fields : List Field) (field : Field) (c : Char) (rest : List Char) :
    Except ParseError (List Field) × List Char :=
  if c = ',' then readFields .start [] (fields ++ [field]) rest
  else (.ok (fields ++ [field]), rest)

section Fields

variable {fields : List Field} {field : Field} {c : Char} {rest : List Char}

theorem readFields_bare (bare : ∀ d ∈ field, d ≠ ',' ∧ d ≠ '"' ∧ d ≠ '\n') (read : Field) :
    readFields .plain read fields (field ++ rest) =
      readFields .plain (read ++ field) fields rest := by
  induction field generalizing read with
  | nil => simp
  | cons d more ih =>
    rw [List.forall_mem_cons] at bare
    obtain ⟨comma, quote, feed⟩ := bare.1
    rw [List.cons_append, readFields, if_neg feed, if_neg comma, if_neg quote, ih bare.2,
      List.append_assoc, List.singleton_append]

theorem readFields_plain (plain : ∀ d ∈ field, isSpecial d = false) (read : Field) :
    readFields .plain read fields (field ++ rest) =
      readFields .plain (read ++ field) fields rest := by
  refine readFields_bare (fun d inField => ?_) read
  have special := plain d inField
  simp only [isSpecial, Bool.or_eq_false_iff, decide_eq_false_iff_not] at special
  exact ⟨special.2, special.1.2, special.1.1.1⟩

theorem readFields_quoted (read : Field) :
    readFields .quoted read fields (doubled field ++ '"' :: rest) =
      readFields .closed (read ++ field) fields rest := by
  induction field generalizing read with
  | nil => simp [doubled, readFields]
  | cons d more ih =>
    have unfolded : doubled (d :: more) ++ '"' :: rest =
        (if d = '"' then ['"', '"'] else [d]) ++ (doubled more ++ '"' :: rest) := by
      simp [doubled]
    rw [unfolded]
    by_cases quote : d = '"'
    · rw [if_pos quote, List.cons_append, List.singleton_append, readFields, if_pos rfl,
        readFields, if_pos rfl, ih, quote, List.append_assoc, List.singleton_append]
    · rw [if_neg quote, List.singleton_append, readFields, if_neg quote, ih, List.append_assoc,
        List.singleton_append]

theorem readFields_plain_end (separator : c = ',' ∨ c = '\n') :
    readFields .plain field fields (c :: rest) = ended fields field c rest := by
  rcases separator with rfl | rfl <;> rfl

theorem readFields_closed_end (separator : c = ',' ∨ c = '\n') :
    readFields .closed field fields (c :: rest) = ended fields field c rest := by
  rcases separator with rfl | rfl <;> rfl

theorem readFields_writeField (separator : c = ',' ∨ c = '\n') :
    readFields .start [] fields (writeField field ++ c :: rest) = ended fields field c rest := by
  rw [writeField]
  cases quotes : fieldNeedsQuotes field with
  | true =>
    have shown : '"' :: doubled field ++ ['"'] ++ c :: rest =
        '"' :: (doubled field ++ '"' :: c :: rest) := by simp
    have opened : readFields .start [] fields ('"' :: (doubled field ++ '"' :: c :: rest)) =
        readFields .quoted [] fields (doubled field ++ '"' :: c :: rest) := rfl
    rw [if_pos rfl, shown, opened, readFields_quoted, List.nil_append,
      readFields_closed_end separator]
  | false =>
    rw [if_neg Bool.false_ne_true]
    cases field with
    | nil => rcases separator with rfl | rfl <;> rfl
    | cons first more =>
      have plain := notMem_of_plain quotes
      have space : isSpace first = false := by
        simp only [fieldNeedsQuotes, Bool.or_eq_false_iff] at quotes
        exact quotes.2
      have special := plain first List.mem_cons_self
      simp only [isSpecial, Bool.or_eq_false_iff, decide_eq_false_iff_not] at special
      obtain ⟨⟨⟨feed, -⟩, quote⟩, comma⟩ := special
      rw [List.cons_append, readFields, if_neg feed, space, if_neg Bool.false_ne_true,
        if_neg quote, if_neg comma,
        readFields_plain (fun d inMore => plain d (List.mem_cons_of_mem _ inMore)),
        List.singleton_append, readFields_plain_end separator]

theorem readFields_writeFields {written : List Field} (some : written ≠ []) :
    readFields .start [] fields (writeFields written ++ '\n' :: rest) =
      (.ok (fields ++ written), rest) := by
  induction written generalizing fields with
  | nil => exact absurd rfl some
  | cons field others ih =>
    cases others with
    | nil => rw [writeFields, readFields_writeField (.inr rfl)]; rfl
    | cons next more =>
      rw [writeFields_cons, List.append_assoc, List.cons_append,
        readFields_writeField (.inl rfl), ended, if_pos rfl, ih (List.cons_ne_nil _ _),
        List.append_assoc, List.singleton_append]

end Fields

/-- A record of one empty field is written as a blank line. -/
def isBlank (record : List Field) : Bool := record = [] || record = [[]]

theorem isBlank_map_unreturned (record : List Field) :
    isBlank (record.map unreturned) = isBlank record := by
  match record with
  | [] => rfl
  | [field] => simp [isBlank, unreturned_eq_nil_iff]
  | first :: second :: rest => simp [isBlank]

variable {record : List Field}

theorem writeRecord_blank (blank : isBlank record = true) :
    writeRecord record = ['\n'] := by
  simp only [isBlank, Bool.or_eq_true, decide_eq_true_eq] at blank
  rcases blank with rfl | rfl <;> rfl

/-- A written field is not empty and does not begin a line. -/
theorem head?_writeField {field : Field} (some : field ≠ []) :
    ∃ c rest, writeField field = c :: rest ∧ c ≠ '\n' := by
  rw [writeField]
  cases quotes : fieldNeedsQuotes field with
  | true => exact ⟨'"', _, rfl, by decide⟩
  | false =>
    obtain ⟨c, rest, rfl⟩ := List.exists_cons_of_ne_nil some
    refine ⟨c, rest, rfl, ?_⟩
    rintro rfl
    have special := notMem_of_plain quotes '\n' List.mem_cons_self
    exact absurd special (by decide)

theorem head?_writeRecord (full : isBlank record = false) :
    ∃ c rest, writeRecord record = c :: rest ∧ c ≠ '\n' := by
  simp only [isBlank, Bool.or_eq_false_iff, decide_eq_false_iff_not] at full
  match record, full with
  | [], full => exact absurd rfl full.1
  | [field], full =>
    have nonempty : field ≠ [] := fun empty => full.2 (by rw [empty])
    obtain ⟨c, rest, written, other⟩ := head?_writeField nonempty
    exact ⟨c, rest ++ ['\n'], by rw [writeRecord, writeFields, written]; rfl, other⟩
  | [] :: next :: more, _ => exact ⟨',', _, rfl, by decide⟩
  | (d :: field) :: next :: more, _ =>
    obtain ⟨c, rest, written, other⟩ := head?_writeField (List.cons_ne_nil d field)
    exact ⟨c, rest ++ ',' :: writeFields (next :: more) ++ ['\n'],
      by rw [writeRecord, writeFields_cons, written]; simp, other⟩

theorem readRecord_blank (blank : isBlank record = true) (rest : List Char) :
    readRecord (writeRecord record ++ rest) = readRecord rest := by
  rw [writeRecord_blank blank]
  rfl

theorem readRecord_writeRecord (full : isBlank record = false) (rest : List Char) :
    readRecord (writeRecord record ++ rest) = some (.ok record, rest) := by
  obtain ⟨c, more, written, other⟩ := head?_writeRecord full
  have nonempty : record ≠ [] := by
    rintro rfl
    exact absurd full (by decide)
  have shown : writeRecord record ++ rest = c :: (more ++ rest) := by rw [written]; rfl
  rw [readRecord, shown, List.dropWhile_cons_of_neg (by simpa using other)]
  simp only [← shown]
  rw [writeRecord, List.append_assoc, List.singleton_append, readFields_writeFields nonempty,
    List.nil_append]

/-- The records of a written text are read back, but for those that are blank. -/
theorem readAll_records {count fuel : Nat} {records : List (List Field)}
    (counts : ∀ record ∈ records, record.length = count) (enough : records.length < fuel) :
    readAll count fuel (records.flatMap writeRecord) =
      (records.filter fun record => !isBlank record).map .ok := by
  induction records generalizing fuel with
  | nil =>
    obtain ⟨fuel, rfl⟩ := Nat.exists_eq_succ_of_ne_zero (Nat.ne_of_gt enough)
    rfl
  | cons record rest ih =>
    rw [List.forall_mem_cons] at counts
    rw [List.length_cons] at enough
    obtain ⟨fuel, rfl⟩ :=
      Nat.exists_eq_succ_of_ne_zero (Nat.ne_of_gt (Nat.zero_lt_of_lt enough))
    cases blank : isBlank record with
    | true =>
      have again := ih counts.2 (Nat.lt_of_succ_lt enough)
      rw [List.filter_cons_of_neg (by simp [blank]), ← again]
      rw [List.flatMap_cons, readAll, readAll, readRecord_blank blank]
    | false =>
      rw [List.filter_cons_of_pos (by simp [blank]), List.map_cons, List.flatMap_cons, readAll,
        readRecord_writeRecord blank]
      simp only [counts.1, if_true]
      rw [ih counts.2 (Nat.lt_of_succ_lt_succ enough)]

end ErpFinance.Library.Csv
