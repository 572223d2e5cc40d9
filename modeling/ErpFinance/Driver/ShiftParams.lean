import ErpFinance.Driver.SqlBuild
import ErpFinance.Library.Placeholders

/-!
# Shifted parameters

`BulkUpdate` builds the clause of its filter before it knows how many values it
sets, and renumbers the parameters in the finished text.  The scan does not know
names from parameters: it gives the clause that would have been built at the
right offset exactly when no name in it has a dollar sign before a digit.
-/

namespace ErpFinance.Driver

open Compiler Library Library.Placeholders ErpFinance.Runtime

/-! ## The source -/

/-- `fmt.Sscanf` of `%d`: a number out of range is an error, which leaves the variable at zero. -/
def scanInt (digits : List Char) : Nat :=
  let n := Nat.ofDigitChars 10 digits 0
  if n < 2 ^ 63 then n else 0

/-- The number of a parameter plus the offset, in 64 bits. -/
def shiftDigits (offset : Nat) (digits : List Char) : List Char :=
  (toString ((scanInt digits + offset : Int).bmod (2 ^ 64))).toList

def shiftParams (clause : String) (offset : Nat) : String :=
  if clause = "" ∨ offset = 0 then clause
  else String.ofList (rescan (shiftDigits offset) 0 clause.toList)

section BulkUpdate

variable (es : EntitySchema)

/-- The loop over the values to set: the texts of the assignments and their arguments. -/
def setParts : List (String × Value) → List String → List Value → List String × List Value
  | [], sets, args => (sets, args)
  | (field, val) :: rest, sets, args =>
    let args := args ++ [val]
    setParts rest (sets ++ ["\"" ++ field ++ "\" = $" ++ toString args.length]) args

/-- The statement that `BulkUpdate` sends, given the clause at an offset and the values in the
order in which the map is ranged over; none where the patch cannot be marshalled. -/
def bulkUpdateText (clauseAt : Nat → Option Clause) (now : Value) (set : List (String × Value))
    (patchJSON : Option Value) : Option (String × List Value) :=
  if es.isSystem then
    let parts := setParts set ["\"updated_at\" = $1"] [now]
    (clauseAt parts.2.length).map fun clause =>
      ("UPDATE \"" ++ es.tableName ++ "\" SET " ++ ", ".intercalate parts.1 ++ whereText clause.1,
        parts.2 ++ clause.2)
  else
    patchJSON.bind fun patch => (clauseAt 2).map fun clause =>
      ("UPDATE \"" ++ es.tableName ++ "\" SET \"data\" = \"data\" || $1, \"updated_at\" = $2" ++
          whereText clause.1,
        [patch, now] ++ clause.2)

def shiftedClause (sprint : Value → String) (f : Option Filter) (offset : Nat) : Option Clause :=
  (build sprint 0 f).map fun clause => (shiftParams clause.1 offset, clause.2)

end BulkUpdate

/-! ## Names in a clause -/

/-- The leaf predicates that are written with their column or key. -/
def Test.named : Test → Bool
  | .isIn vs => !vs.isEmpty
  | .notIn vs => !vs.isEmpty
  | _ => true

/-- The tests that there are on a key of the `data` column. -/
def Test.onKey : Test → Bool
  | .eq _ | .gt _ | .lt _ | .isIn _ | .isNull | .isNotNull => true
  | _ => false

namespace Filter

mutual

/-- The columns and keys that the clause of a filter names. -/
def names : Filter → List String
  | .leaf field test => if test.named then [field] else []
  | .custom field test => if test.named then [field] else []
  | .and subs => namesOf subs
  | .or subs => namesOf subs
  | .not sub => names sub

def namesOf : List Filter → List String
  | [] => []
  | first :: rest => names first ++ namesOf rest

end

mutual

def supported : Filter → Bool
  | .leaf _ _ => true
  | .custom _ test => test.onKey
  | .and subs => allSupported subs
  | .or subs => allSupported subs
  | .not sub => supported sub

def allSupported : List Filter → Bool
  | [] => true
  | first :: rest => supported first && allSupported rest

end

/-- No name in the clause of the filter has a dollar sign before a digit. -/
def Plain (f : Filter) : Prop := ∀ name ∈ f.names, PlainText name.toList

end Filter

/-! ## Clauses at every offset -/

/-- At every offset the clause is one text with places for the same arguments. -/
structure Shape (clause : Nat → Clause) (args : List Value) (plain : Prop) : Prop where
  args_eq : ∀ offset, (clause offset).2 = (clause 0).2
  grows : args.length ≤ (clause 0).2.length
  templated : Templated (fun offset => (clause offset).1) (clause 0).2.length plain

theorem Shape.congr {clause : Nat → Clause} {args : List Value} {plain other : Prop}
    (shape : Shape clause args plain) (iff : other ↔ plain) : Shape clause args other :=
  ⟨shape.args_eq, shape.grows, shape.templated.congr le_rfl (fun _ => rfl) iff⟩

structure Names (text name : String) : Prop where
  opens : ∀ d ∈ text.toList.head?, d.isDigit = false
  some : text.toList ≠ []
  ends : ∀ a ∈ text.toList.getLast?, a ≠ '$'
  plain : PlainText text.toList ↔ PlainText name.toList

namespace Names

variable {text name : String}

theorem suffix (names : Names text name) (more : String) (some : more.toList ≠ [])
    (ends : ∀ a ∈ more.toList.getLast?, a ≠ '$') (plain : PlainText more.toList) :
    Names (text ++ more) name := by
  obtain ⟨opens, nonempty, stops, iff⟩ := names
  constructor
  · rwa [String.toList_append, List.head?_append_of_ne_nil _ nonempty]
  · simp [nonempty]
  · rwa [String.toList_append, List.getLast?_append_of_ne_nil _ some]
  · rw [String.toList_append,
      plainText_append fun a last dollar => absurd dollar (stops a last), iff, and_iff_left plain]

theorem parenthesised (names : Names text name) : Names ("(" ++ text) name := by
  obtain ⟨opens, nonempty, stops, iff⟩ := names
  constructor
  · simp
  · simp
  · rwa [String.toList_append, List.getLast?_append_of_ne_nil _ nonempty]
  · rw [String.toList_append, plainText_append fun a last dollar b first => opens b first, iff]
    exact and_iff_right (by decide)

theorem quoteIdent (name : String) : Names (quoteIdent name) name := by
  have spelt : (Driver.quoteIdent name).toList = ['"'] ++
      ((name.toList.flatMap fun c => if c = '"' then ['"', '"'] else [c]) ++ ['"']) := by
    simp [Driver.quoteIdent, replaceAll]
  constructor
  · simp [spelt]
  · simp [spelt]
  · rw [spelt, ← List.append_assoc, List.getLast?_concat]
    simp
  · rw [spelt, plainText_append (by simp), plainText_append (by simp), plainText_double (by decide)]
    simp [PlainText]

theorem key (name : String) : Names ("data->>'" ++ escapeSingleQuote name ++ "'") name := by
  have spelt : ("data->>'" ++ escapeSingleQuote name ++ "'").toList = "data->>'".toList ++
      ((name.toList.flatMap fun c => if c = '\'' then ['\'', '\''] else [c]) ++ ['\'']) := by
    simp [escapeSingleQuote, replaceAll]
  constructor
  · simp [spelt]
  · simp [spelt]
  · rw [spelt, ← List.append_assoc, List.getLast?_concat]
    simp
  · rw [spelt, plainText_append (by simp), plainText_append (by simp), plainText_double (by decide)]
    simp [PlainText]

end Names

section Leaves

variable {args : List Value}

/-- A text without places, and the arguments so far. -/
theorem Shape.fixed {text : String} (opens : ∀ d ∈ text.toList.head?, d.isDigit = false) :
    Shape (fun _ => (text, args)) args (PlainText text.toList) :=
  ⟨fun _ => rfl, le_rfl, .literal opens⟩

/-- A text and one parameter. -/
theorem Shape.bound {text : String} (opens : ∀ d ∈ text.toList.head?, d.isDigit = false)
    (v : Value) :
    Shape (fun offset => bound offset text v args) args (PlainText text.toList) := by
  refine ⟨fun _ => rfl, by simp [Driver.bound, nextParam], ?_⟩
  have place : Templated (fun offset => "$" ++ toString (offset + (args.length + 1)))
      (args ++ [v]).length True := .place (by simp)
  exact (Templated.append (.literal opens) place).congr le_rfl (fun _ => rfl) (by simp)

theorem nextParams_spec (offset : Nat) (vs args : List Value) :
    nextParams offset vs args =
      ((List.range vs.length).map fun i => "$" ++ toString (offset + (args.length + 1 + i)),
        args ++ vs) := by
  induction vs generalizing args with
  | nil => simp [nextParams]
  | cons v rest ih =>
    rw [nextParams, nextParam, ih]
    simp only [List.length_append, List.length_cons, List.length_nil, List.range_succ_eq_map,
      List.map_cons, List.map_map, List.append_assoc, List.singleton_append,
      Nat.add_zero, Prod.mk.injEq, and_true, List.cons.injEq, true_and]
    refine List.map_congr_left fun i _ => ?_
    rw [Function.comp_apply,
      show args.length + (0 + 1) + 1 + i = args.length + 1 + i.succ by omega]

/-- A text and an array of parameters, of which there is at least one. -/
theorem Shape.boundArray {empty text : String}
    (emptyOpens : ∀ d ∈ empty.toList.head?, d.isDigit = false)
    (emptyPlain : PlainText empty.toList) (opens : ∀ d ∈ text.toList.head?, d.isDigit = false)
    (ends : ∀ a ∈ text.toList.getLast?, a ≠ '$') (vs : List Value) :
    Shape (fun offset => boundArray offset empty text vs args) args
      (vs.isEmpty = false → PlainText text.toList) := by
  cases vs with
  | nil =>
    refine ⟨fun _ => rfl, le_rfl, (Templated.literal emptyOpens).congr le_rfl (fun _ => rfl) ?_⟩
    simpa using emptyPlain
  | cons v rest =>
    have written : ∀ offset, Driver.boundArray offset empty text (v :: rest) args =
        (text ++ "(ARRAY[" ++ ",".intercalate ((List.range (v :: rest).length).map fun i =>
          "$" ++ toString (offset + (args.length + 1 + i))) ++ "])", args ++ v :: rest) := by
      intro offset
      rw [Driver.boundArray, if_neg (by simp), nextParams_spec]
    refine ⟨fun offset => by rw [written, written], by simp [written], ?_⟩
    simp only [written]
    have array : Templated (fun _ => text ++ "(ARRAY[") (args ++ v :: rest).length
        (PlainText (text ++ "(ARRAY[").toList) := by
      refine .literal ?_
      rw [String.toList_append]
      cases front : text.toList with
      | nil => simp
      | cons c more => simpa [front] using opens
    have places : Templated (fun offset => ",".intercalate
        (((List.range (v :: rest).length).map fun i => ((fun offset : Nat =>
          "$" ++ toString (offset + (args.length + 1 + i))), True)).map
            fun part : (Nat → String) × Prop => part.1 offset)) (args ++ v :: rest).length
        (∀ part ∈ (List.range (v :: rest).length).map fun i => ((fun offset : Nat =>
          "$" ++ toString (offset + (args.length + 1 + i))), True), part.2) := by
      refine .intercalate (by simp) (by decide) fun part member => ?_
      obtain ⟨i, inside, rfl⟩ := List.mem_map.mp member
      refine .place ?_
      have small := List.mem_range.mp inside
      simp only [List.length_append]
      omega
    have closing : Templated (fun _ => "])") (args ++ v :: rest).length
        (PlainText "])".toList) := .literal (by simp)
    refine ((array.append places).append closing).congr le_rfl (fun offset => ?_) ?_
    · simp [List.map_map, Function.comp_def]
    · have plainClosing : PlainText "])".toList := by decide
      have plainOpening : PlainText "(ARRAY[".toList := by decide
      rw [String.toList_append, plainText_append fun a last dollar => absurd dollar (ends a last)]
      refine ⟨fun plain => ⟨⟨⟨plain rfl, plainOpening⟩, ?_⟩, plainClosing⟩,
        fun all _ => all.1.1.1⟩
      simp

/-- Two parameters after a name. -/
theorem Shape.between {column name : String} (names : Names column name) (low high : Value) :
    Shape (fun offset => leafExpr offset column (.between low high) args) args
      (PlainText name.toList) := by
  have size : (args ++ [low] ++ [high]).length = args.length + 2 := by simp
  refine ⟨fun _ => rfl, by simp [leafExpr, nextParam], ?_⟩
  have opening := names.suffix " BETWEEN " (by simp) (by simp) (by decide)
  have lo : Templated (fun offset => "$" ++ toString (offset + (args.length + 1)))
      (args ++ [low] ++ [high]).length True := .place (by omega)
  have middle : Templated (fun _ => " AND ") (args ++ [low] ++ [high]).length
      (PlainText " AND ".toList) := .literal (by simp)
  have hi : Templated (fun offset => "$" ++ toString (offset + ((args ++ [low]).length + 1)))
      (args ++ [low] ++ [high]).length True := .place (by simp)
  refine ((((Templated.literal opening.opens).append lo).append middle).append hi).congr le_rfl
    (fun _ => rfl) ?_
  have plain : PlainText " AND ".toList := by decide
  rw [opening.plain]
  tauto

end Leaves

/-- The clause of a leaf predicate. -/
theorem leafExpr_shape (field : String) (test : Test) (args : List Value) :
    Shape (fun offset => leafExpr offset (quoteIdent field) test args) args
      (Filter.leaf field test).Plain := by
  have column := Names.quoteIdent field
  have named : test.named = true → ((Filter.leaf field test).Plain ↔ PlainText field.toList) := by
    intro some
    simp [Filter.Plain, Filter.names, some]
  have isNull := column.suffix " IS NULL" (by simp) (by simp) (by decide)
  have isNotNull := column.suffix " IS NOT NULL" (by simp) (by simp) (by decide)
  have like := column.suffix " ILIKE " (by simp) (by simp) (by decide)
  cases test with
  | eq v =>
    rw [named rfl]
    unfold leafExpr
    by_cases null : v.isNull = true
    · simp only [if_pos null]
      exact (Shape.fixed isNull.opens).congr isNull.plain.symm
    · simp only [if_neg null]
      have text := column.suffix " = " (by simp) (by simp) (by decide)
      exact (Shape.bound text.opens v).congr text.plain.symm
  | neq v =>
    rw [named rfl]
    unfold leafExpr
    by_cases null : v.isNull = true
    · simp only [if_pos null]
      exact (Shape.fixed isNotNull.opens).congr isNotNull.plain.symm
    · simp only [if_neg null]
      have text := column.suffix " != " (by simp) (by simp) (by decide)
      exact (Shape.bound text.opens v).congr text.plain.symm
  | gt v =>
    have text := column.suffix " > " (by simp) (by simp) (by decide)
    exact (Shape.bound text.opens v).congr ((named rfl).trans text.plain.symm)
  | gte v =>
    have text := column.suffix " >= " (by simp) (by simp) (by decide)
    exact (Shape.bound text.opens v).congr ((named rfl).trans text.plain.symm)
  | lt v =>
    have text := column.suffix " < " (by simp) (by simp) (by decide)
    exact (Shape.bound text.opens v).congr ((named rfl).trans text.plain.symm)
  | lte v =>
    have text := column.suffix " <= " (by simp) (by simp) (by decide)
    exact (Shape.bound text.opens v).congr ((named rfl).trans text.plain.symm)
  | isIn vs =>
    have text := column.suffix " = ANY" (by simp) (by simp) (by decide)
    refine (Shape.boundArray (by simp) (by decide) text.opens text.ends vs).congr ?_
    rw [text.plain]
    cases vs <;> simp [Filter.Plain, Filter.names, Test.named]
  | notIn vs =>
    have text := column.suffix " != ALL" (by simp) (by simp) (by decide)
    refine (Shape.boundArray (by simp) (by decide) text.opens text.ends vs).congr ?_
    rw [text.plain]
    cases vs <;> simp [Filter.Plain, Filter.names, Test.named]
  | isNull => exact (Shape.fixed isNull.opens).congr ((named rfl).trans isNull.plain.symm)
  | isNotNull => exact (Shape.fixed isNotNull.opens).congr ((named rfl).trans isNotNull.plain.symm)
  | contains text => exact (Shape.bound like.opens _).congr ((named rfl).trans like.plain.symm)
  | startsWith text => exact (Shape.bound like.opens _).congr ((named rfl).trans like.plain.symm)
  | endsWith text => exact (Shape.bound like.opens _).congr ((named rfl).trans like.plain.symm)
  | between low high => exact (Shape.between column low high).congr (named rfl)

theorem customExpr_shape (sprint : Value → String) (field : String) (test : Test)
    (args : List Value) (onKey : test.onKey = true) :
    ∃ clause, (∀ offset, customExpr sprint offset field test args = some (clause offset)) ∧
      Shape clause args (Filter.custom field test).Plain := by
  have key := Names.key field
  have named : test.named = true →
      ((Filter.custom field test).Plain ↔ PlainText field.toList) := by
    intro some
    simp [Filter.Plain, Filter.names, some]
  cases test with
  | eq v =>
    have text := key.suffix " = " (by simp) (by simp) (by decide)
    exact ⟨_, fun _ => rfl, (Shape.bound text.opens _).congr ((named rfl).trans text.plain.symm)⟩
  | gt v =>
    have text := key.parenthesised.suffix ")::numeric > " (by simp) (by simp) (by decide)
    refine ⟨fun offset => bound offset ("(" ++ ("data->>'" ++ escapeSingleQuote field ++ "'") ++
      ")::numeric > ") v args, fun _ => rfl, ?_⟩
    exact (Shape.bound text.opens v).congr ((named rfl).trans text.plain.symm)
  | lt v =>
    have text := key.parenthesised.suffix ")::numeric < " (by simp) (by simp) (by decide)
    refine ⟨fun offset => bound offset ("(" ++ ("data->>'" ++ escapeSingleQuote field ++ "'") ++
      ")::numeric < ") v args, fun _ => rfl, ?_⟩
    exact (Shape.bound text.opens v).congr ((named rfl).trans text.plain.symm)
  | isIn vs =>
    have text := key.suffix " = ANY" (by simp) (by simp) (by decide)
    refine ⟨_, fun _ => rfl,
      (Shape.boundArray (by simp) (by decide) text.opens text.ends _).congr ?_⟩
    rw [text.plain]
    cases vs <;> simp [Filter.Plain, Filter.names, Test.named]
  | isNull =>
    have text := key.suffix " IS NULL" (by simp) (by simp) (by decide)
    exact ⟨_, fun _ => rfl, (Shape.fixed text.opens).congr ((named rfl).trans text.plain.symm)⟩
  | isNotNull =>
    have text := key.suffix " IS NOT NULL" (by simp) (by simp) (by decide)
    exact ⟨_, fun _ => rfl, (Shape.fixed text.opens).congr ((named rfl).trans text.plain.symm)⟩
  | neq _ | gte _ | lte _ | notIn _ | contains _ | startsWith _ | endsWith _ | between _ _ =>
    cases onKey

/-! ## Trees -/

/-- The parts of a conjunction or disjunction at every offset, with the same arguments. -/
structure Shapes (parts : List ((Nat → String) × Prop)) (args all : List Value) (plain : Prop) :
    Prop where
  grows : args.length ≤ all.length
  templated : ∀ part ∈ parts, Templated part.1 all.length part.2
  plain : (∀ part ∈ parts, part.2) ↔ plain

theorem combineLogical_shape {parts : List ((Nat → String) × Prop)} {args all : List Value}
    {plain : Prop} (shapes : Shapes parts args all plain) {op empty : String}
    (opens : ∀ d ∈ empty.toList.head?, d.isDigit = false) (emptyPlain : PlainText empty.toList)
    (opPlain : PlainText (" " ++ op ++ " ").toList) :
    Shape (fun offset => (combineLogical op empty (parts.map fun part => part.1 offset), all)) args
      plain := by
  obtain ⟨grows, templated, iff⟩ := shapes
  refine ⟨fun _ => rfl, grows, ?_⟩
  cases parts with
  | nil =>
    refine (Templated.literal opens).congr le_rfl (fun _ => rfl) ?_
    rw [← iff]
    simpa using emptyPlain
  | cons part rest =>
    let wrap (part : (Nat → String) × Prop) : (Nat → String) × Prop :=
      (fun offset => "(" ++ part.1 offset ++ ")", part.2)
    have wrapped : ∀ other ∈ (part :: rest).map wrap, Templated other.1 all.length other.2 := by
      intro other member
      obtain ⟨inner, inside, rfl⟩ := List.mem_map.mp member
      have opening : Templated (fun _ => "(") all.length (PlainText "(".toList) :=
        .literal (by simp)
      have closing : Templated (fun _ => ")") all.length (PlainText ")".toList) :=
        .literal (by simp)
      refine ((opening.append (templated inner inside)).append closing).congr le_rfl
        (fun _ => rfl) ?_
      have openingPlain : PlainText "(".toList := by decide
      have closingPlain : PlainText ")".toList := by decide
      exact ⟨fun own => ⟨⟨openingPlain, own⟩, closingPlain⟩, fun all => all.1.2⟩
    have separator : ∀ d ∈ (" " ++ op ++ " ").toList.head?, d.isDigit = false := by simp
    refine (Templated.intercalate separator opPlain wrapped).congr le_rfl (fun offset => ?_) ?_
    · simp [combineLogical, wrap, Function.comp_def]
    · rw [← iff, List.forall_mem_map]

mutual

theorem expr_shape (sprint : Value → String) : ∀ (f : Filter) (args : List Value),
    f.supported = true → ∃ clause, (∀ offset, expr sprint offset f args = some (clause offset)) ∧
      Shape clause args f.Plain
  | .leaf field test, args, _ => ⟨_, fun _ => by rw [expr], leafExpr_shape field test args⟩
  | .custom field test, args, supported => by
      rw [Filter.supported] at supported
      obtain ⟨clause, written, shape⟩ := customExpr_shape sprint field test args supported
      exact ⟨clause, fun offset => by rw [expr, written], shape⟩
  | .and subs, args, supported => by
      rw [Filter.supported] at supported
      obtain ⟨parts, all, written, shapes⟩ := exprs_shape sprint subs args supported
      refine ⟨_, fun offset => by rw [expr, written]; rfl,
        (combineLogical_shape shapes (by simp) (by decide) (by decide)).congr ?_⟩
      rw [Filter.Plain, Filter.names]
  | .or subs, args, supported => by
      rw [Filter.supported] at supported
      obtain ⟨parts, all, written, shapes⟩ := exprs_shape sprint subs args supported
      refine ⟨_, fun offset => by rw [expr, written]; rfl,
        (combineLogical_shape shapes (by simp) (by decide) (by decide)).congr ?_⟩
      rw [Filter.Plain, Filter.names]
  | .not sub, args, supported => by
      rw [Filter.supported] at supported
      obtain ⟨clause, written, shape⟩ := expr_shape sprint sub args supported
      refine ⟨fun offset => ("NOT (" ++ (clause offset).1 ++ ")", (clause offset).2),
        fun offset => by rw [expr, written]; rfl, shape.args_eq, shape.grows, ?_⟩
      have opening : Templated (fun _ => "NOT (") (clause 0).2.length
          (PlainText "NOT (".toList) := .literal (by simp)
      have closing : Templated (fun _ => ")") (clause 0).2.length (PlainText ")".toList) :=
        .literal (by simp)
      refine ((opening.append shape.templated).append closing).congr le_rfl (fun _ => rfl) ?_
      have openingPlain : PlainText "NOT (".toList := by decide
      have closingPlain : PlainText ")".toList := by decide
      rw [Filter.Plain, Filter.names, ← Filter.Plain]
      exact ⟨fun own => ⟨⟨openingPlain, own⟩, closingPlain⟩, fun all => all.1.2⟩

theorem exprs_shape (sprint : Value → String) : ∀ (subs : List Filter) (args : List Value),
    Filter.allSupported subs = true → ∃ parts all,
      (∀ offset, exprs sprint offset subs args =
        some (parts.map fun part => part.1 offset, all)) ∧
      Shapes parts args all (∀ name ∈ Filter.namesOf subs, PlainText name.toList)
  | [], args, _ =>
    ⟨[], args, fun _ => by rw [exprs]; rfl, le_rfl, by simp, by simp [Filter.namesOf]⟩
  | first :: rest, args, supported => by
      rw [Filter.allSupported, Bool.and_eq_true] at supported
      obtain ⟨clause, written, shape⟩ := expr_shape sprint first args supported.1
      obtain ⟨parts, all, others, shapes⟩ := exprs_shape sprint rest (clause 0).2 supported.2
      refine ⟨(fun offset => (clause offset).1, first.Plain) :: parts, all, fun offset => ?_,
        shape.grows.trans shapes.grows, ?_, ?_⟩
      · rw [exprs, written, Option.bind_some, shape.args_eq, others]
        rfl
      · rw [List.forall_mem_cons]
        exact ⟨shape.templated.mono shapes.grows, shapes.templated⟩
      · rw [List.forall_mem_cons, shapes.plain, Filter.namesOf, List.forall_mem_append,
          Filter.Plain]

end

mutual

/-- A filter with an unsupported kind has no clause. -/
theorem expr_eq_none (sprint : Value → String) (offset : Nat) : ∀ (f : Filter) (args : List Value),
    f.supported = false → expr sprint offset f args = none
  | .leaf _ _, _, unsupported => by
      rw [Filter.supported] at unsupported
      cases unsupported
  | .custom _ test, _, unsupported => by
      rw [Filter.supported] at unsupported
      rw [expr]
      cases test with
      | eq _ | gt _ | lt _ | isIn _ | isNull | isNotNull => cases unsupported
      | neq _ | gte _ | lte _ | notIn _ | contains _ | startsWith _ | endsWith _ | between _ _ =>
        rfl
  | .and subs, args, unsupported => by
      rw [Filter.supported] at unsupported
      rw [expr, exprs_eq_none sprint offset subs args unsupported]
      rfl
  | .or subs, args, unsupported => by
      rw [Filter.supported] at unsupported
      rw [expr, exprs_eq_none sprint offset subs args unsupported]
      rfl
  | .not sub, args, unsupported => by
      rw [Filter.supported] at unsupported
      rw [expr, expr_eq_none sprint offset sub args unsupported]
      rfl

theorem exprs_eq_none (sprint : Value → String) (offset : Nat) :
    ∀ (subs : List Filter) (args : List Value), Filter.allSupported subs = false →
      exprs sprint offset subs args = none
  | [], _, unsupported => by
      rw [Filter.allSupported] at unsupported
      cases unsupported
  | first :: rest, args, unsupported => by
      rw [Filter.allSupported, Bool.and_eq_false_iff] at unsupported
      rw [exprs]
      rcases unsupported with first_ | rest_
      · rw [expr_eq_none sprint offset first args first_]
        rfl
      · cases expr sprint offset first args with
        | none => rfl
        | some part =>
          rw [Option.bind_some, exprs_eq_none sprint offset rest part.2 rest_]
          rfl

end

section Shift

variable {offset : Nat}

theorem scanInt_lt (digits : List Char) : scanInt digits < 2 ^ 63 := by
  unfold scanInt
  simp only
  split
  · assumption
  · decide

/-- A sum that is still an `int` is printed as it is. -/
theorem shiftDigits_of_lt {digits : List Char} (small : scanInt digits + offset < 2 ^ 63) :
    shiftDigits offset digits = Nat.toDigits 10 (scanInt digits + offset) := by
  have same : ((scanInt digits + offset : Int)).bmod (2 ^ 64) =
      ((scanInt digits + offset : Nat) : Int) := by
    rw [Int.bmod_eq_of_le] <;> omega
  rw [shiftDigits, same]
  exact Nat.toList_repr

/-- A greater sum is printed as a negative number. -/
theorem shiftDigits_of_le {digits : List Char} (fits : offset < 2 ^ 63)
    (large : 2 ^ 63 ≤ scanInt digits + offset) :
    ∃ rest, shiftDigits offset digits = '-' :: rest := by
  have bound := scanInt_lt digits
  obtain ⟨m, negative⟩ : ∃ m, ((scanInt digits + offset : Int)).bmod (2 ^ 64) = Int.negSucc m := by
    refine ⟨2 ^ 64 - 1 - (scanInt digits + offset), ?_⟩
    rw [Int.bmod_def]
    omega
  refine ⟨(m + 1).repr.toList, ?_⟩
  rw [shiftDigits, negative]
  show ("-" ++ (m + 1).repr).toList = _
  rw [String.toList_append]
  rfl

theorem shiftDigits_moves (positive : offset ≠ 0) (fits : offset < 2 ^ 63) (digits : List Char)
    (some : digits ≠ []) : (shiftDigits offset digits).takeWhile Char.isDigit ≠ digits := by
  intro same
  rcases Nat.lt_or_ge (scanInt digits + offset) (2 ^ 63) with small | large
  · rw [shiftDigits_of_lt small, List.takeWhile_eq_self_iff.mpr fun d member =>
      Nat.isDigit_of_mem_toDigits (by decide) (by decide) member] at same
    -- the digits would be those of a greater number
    have value : Nat.ofDigitChars 10 digits 0 = scanInt digits + offset := by
      have read := congrArg (Nat.ofDigitChars 10 · 0) same
      rwa [Nat.ofDigitChars_ten_toDigits, eq_comm] at read
    have scanned : scanInt digits = scanInt digits + offset := by
      conv_lhs => rw [scanInt, value]
      exact if_pos small
    omega
  · obtain ⟨rest, written⟩ := shiftDigits_of_le fits large
    rw [written, List.takeWhile_cons_of_neg (by decide)] at same
    exact some same.symm

theorem shiftDigits_toDigits {n : Nat} (fits : offset + n < 2 ^ 63) :
    shiftDigits offset (Nat.toDigits 10 n) = Nat.toDigits 10 (offset + n) := by
  have scanned : scanInt (Nat.toDigits 10 n) = n := by
    rw [scanInt, Nat.ofDigitChars_ten_toDigits]
    exact if_pos (by omega)
  rw [shiftDigits_of_lt (by rw [scanned]; omega), scanned, Nat.add_comm]

theorem shiftParams_of_ne_zero (positive : offset ≠ 0) (clause : String) :
    shiftParams clause offset =
      String.ofList (rescan (shiftDigits offset) 0 clause.toList) := by
  by_cases empty : clause = ""
  · subst empty
    rfl
  · rw [shiftParams, if_neg (not_or.mpr ⟨empty, positive⟩)]

/-- The clause of the filter has no dollar sign before a digit other than those of its
parameters, if there is a clause. -/
def Clear (f : Option Filter) : Prop := ∀ filter ∈ f, filter.supported = true → filter.Plain

/-- What is shifted is what would have been built, without an offset or where the names are
clear. -/
theorem shiftedClause_eq_iff (sprint : Value → String) (f : Option Filter)
    (fits : ∀ clause ∈ build sprint 0 f, offset + clause.2.length < 2 ^ 63) :
    shiftedClause sprint f offset = build sprint offset f ↔ offset = 0 ∨ Clear f := by
  by_cases zero : offset = 0
  · subst zero
    refine ⟨fun _ => .inl rfl, fun _ => ?_⟩
    have kept : ∀ clause : Clause, (shiftParams clause.1 0, clause.2) = clause := by
      intro clause
      rw [shiftParams, if_pos (.inr rfl)]
    simp only [shiftedClause, kept, Option.map_id']
  rw [or_iff_right zero]
  cases f with
  | none =>
    refine ⟨fun _ => by simp [Clear], fun _ => ?_⟩
    simp [shiftedClause, build, shiftParams]
  | some filter =>
    simp only [Clear, Option.mem_some_iff, forall_eq']
    cases supported : filter.supported with
    | false =>
      simp [shiftedClause, build, expr_eq_none sprint _ filter [] supported]
    | true =>
      obtain ⟨clause, written, shape⟩ := expr_shape sprint filter [] supported
      have room := fits (clause 0) (by rw [build, written]; rfl)
      rw [shiftedClause, build, build, written, written, Option.map_some, Option.some.injEq,
        eq_self_iff_true, true_imp_iff, Prod.ext_iff, shape.args_eq offset, and_iff_left rfl,
        shiftParams_of_ne_zero zero, ← String.toList_inj, String.toList_ofList]
      apply shape.templated.rescan_iff
      · exact fun digits some _ => shiftDigits_moves zero (by omega) digits some
      · exact fun n small => shiftDigits_toDigits (by omega)

end Shift

/-! ## Bulk updates -/

theorem whereText_injective {clause other : String} (same : whereText clause = whereText other) :
    clause = other := by
  have some : ∀ text : String, "" ≠ " WHERE " ++ text := by
    intro text none
    have lengths := congrArg String.length none
    rw [String.length_append, show " WHERE ".length = 7 from rfl, show "".length = 0 from rfl]
      at lengths
    omega
  unfold whereText at same
  by_cases empty : clause = ""
  · by_cases otherEmpty : other = ""
    · rw [empty, otherEmpty]
    · rw [if_pos empty, if_neg otherEmpty] at same
      exact absurd same (some other)
  · by_cases otherEmpty : other = ""
    · rw [if_neg empty, if_pos otherEmpty] at same
      exact absurd same.symm (some clause)
    · rw [if_neg empty, if_neg otherEmpty] at same
      exact (String.append_right_inj _).mp same

/-- Behind the same text and arguments, statements agree exactly when their clauses do. -/
theorem map_statement_eq_iff (front : String) (args : List Value) (first second : Option Clause) :
    (first.map fun clause => (front ++ whereText clause.1, args ++ clause.2)) =
        (second.map fun clause => (front ++ whereText clause.1, args ++ clause.2)) ↔
      first = second := by
  constructor
  · intro same
    refine Option.map_injective ?_ same
    rintro ⟨clause, bound⟩ ⟨other, otherBound⟩ both
    obtain ⟨texts, values⟩ := Prod.mk.inj both
    have sameClause : clause = other := whereText_injective ((String.append_right_inj _).mp texts)
    have sameBound : bound = otherBound := List.append_cancel_left values
    rw [sameClause, sameBound]
  · rintro rfl
    rfl

theorem setParts_length (set : List (String × Value)) (sets : List String) (args : List Value) :
    (setParts set sets args).2.length = args.length + set.length := by
  induction set generalizing sets args with
  | nil => rfl
  | cons first rest ih =>
    rw [setParts, ih]
    simp only [List.length_append, List.length_cons, List.length_nil]
    omega

/--
The shifted clause is the one built at the offset, with the same arguments,
exactly when the offset is zero or the names of the filter are clear; and
`BulkUpdate` sends the statement with the clause built behind its own arguments
exactly when a statement it can send has clear names.
-/
theorem shiftParams_meets_iff (sprint : Value → String) (f : Option Filter) (offset : Nat)
    (set : List (String × Value))
    (fits : ∀ clause ∈ build sprint 0 f,
      offset + (set.length + 2) + clause.2.length < 2 ^ 63) :
    (shiftedClause sprint f offset = build sprint offset f ↔ offset = 0 ∨ Clear f) ∧
    ∀ (es : EntitySchema) (now : Value) (patchJSON : Option Value),
      bulkUpdateText es (shiftedClause sprint f) now set patchJSON =
          bulkUpdateText es (fun count => build sprint count f) now set patchJSON ↔
        (es.isSystem = true ∨ patchJSON.isSome = true → Clear f) := by
  constructor
  · apply shiftedClause_eq_iff
    intro clause built
    have room := fits clause built
    omega
  · intro es now patchJSON
    have behind : ∀ count, count ≠ 0 → count ≤ set.length + 2 →
        (shiftedClause sprint f count = build sprint count f ↔ Clear f) := by
      intro count positive small
      rw [shiftedClause_eq_iff, or_iff_right positive]
      intro clause built
      have room := fits clause built
      omega
    unfold bulkUpdateText
    cases es.isSystem with
    | true =>
      simp only [if_true, map_statement_eq_iff, true_or, true_imp_iff]
      rw [setParts_length]
      apply behind <;> simp only [List.length_cons, List.length_nil] <;> omega
    | false =>
      cases patchJSON with
      | none => simp
      | some patch =>
        simp only [Bool.false_eq_true, if_false, Option.bind_some, map_statement_eq_iff,
          Option.isSome_some, or_true, true_imp_iff]
        exact behind 2 (by decide) (by omega)

/-! ## A key with a dollar sign -/

/-- A filter on the custom field `a$1`. -/
def onPrice : Filter := .custom "a$1" (.eq (.string "x"))

theorem build_onPrice (offset : Nat) : build (fun _ => "x") offset (some onPrice) =
    some ("data->>'" ++ escapeSingleQuote "a$1" ++ "'" ++ " = " ++
      ("$" ++ toString (offset + 1)), [.string "x"]) := rfl

/-- The key is renumbered with the parameter. -/
theorem onPrice_key_renumbered :
    build (fun _ => "x") 2 (some onPrice) = some ("data->>'a$1' = $3", [.string "x"]) ∧
      shiftedClause (fun _ => "x") (some onPrice) 2 =
        some ("data->>'a$3' = $3", [.string "x"]) ∧
      shiftedClause (fun _ => "x") (some onPrice) 2 ≠ build (fun _ => "x") 2 (some onPrice) := by
  have text : "data->>'" ++ escapeSingleQuote "a$1" ++ "'" ++ " = " ++
      ("$" ++ toString (2 + 1)) = "data->>'a$1' = $3" := by decide +kernel
  have renumbered : shiftParams ("data->>'" ++ escapeSingleQuote "a$1" ++ "'" ++ " = " ++
      ("$" ++ toString (0 + 1))) 2 = "data->>'a$3' = $3" := by decide +kernel
  have apart : "data->>'a$3' = $3" ≠ "data->>'a$1' = $3" := by decide
  rw [shiftedClause, build_onPrice, build_onPrice, Option.map_some, renumbered, text]
  refine ⟨rfl, rfl, fun same => ?_⟩
  exact apart (Prod.mk.inj (Option.some.inj same)).1

/-- An update of drafts. -/
def onStatus : Filter := .leaf "status" (.eq (.string "draft"))

/-- The value to set and the value to look for are bound to parameters of their own. -/
theorem onStatus_bound :
    bulkUpdateText (buildEntitySchema { name := "invoice", module := "finance" })
        (shiftedClause (fun _ => "") (some onStatus)) .null [("status", .string "posted")] none =
      bulkUpdateText (buildEntitySchema { name := "invoice", module := "finance" })
        (fun count => build (fun _ => "") count (some onStatus)) .null
        [("status", .string "posted")] none := by
  refine ((shiftParams_meets_iff (fun _ => "") (some onStatus) 1 _ ?_).2 _ _ _).mpr fun _ => ?_
  · intro clause built
    obtain rfl := Option.some.inj built
    decide
  · rintro filter ⟨⟩ - name member
    obtain rfl := List.mem_singleton.mp member
    decide

end ErpFinance.Driver
