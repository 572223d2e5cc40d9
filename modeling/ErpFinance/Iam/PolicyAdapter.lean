import ErpFinance.Library.CsvJoined
import ErpFinance.Library.Except

/-!
# The policy adapter

The enforcer's rules are stored in six columns.  Loading trims the trailing
empty ones, joins the rest with commas and hands the line to a reader of
comma-separated values, so that a rule comes back as it was only where its
values say nothing to that reader.
-/

namespace ErpFinance.Iam.PolicyAdapter

open Library

/-! ## Rules -/

/-- The two kinds of rules of the enforcer's model. -/
inductive PType
  | p
  | g
deriving DecidableEq

def PType.letter : PType → Char
  | .p => 'p'
  | .g => 'g'

def PType.name (ptype : PType) : String := String.ofList [ptype.letter]

/-- A row of `casbin_rule`. -/
structure CasbinRule where
  ptype : PType
  /-- `v0` to `v5`. -/
  values : List String
deriving DecidableEq

def ruleToValues (rule : List String) : List String := (rule ++ List.replicate 6 "").take 6

def filterEmpty (values : List String) : List String := values.rdropWhile (· = "")

def joinRule : List String → String
  | [] => ""
  | [value] => value
  | value :: rest => value ++ ", " ++ joinRule rest

/-! ## Loading -/

/-- The line that `LoadPolicy` makes of a row. -/
def policyLine (row : CasbinRule) : String :=
  row.ptype.name ++ ", " ++ joinRule (filterEmpty row.values)

/-- `LoadPolicyLine`: the kind and the rule that are added to the model, unless the line cannot be
read. -/
def loadPolicyLine (line : String) : Option (String × List String) :=
  if line.toList = [] ∨ line.toList.head? = some '#' then none
  else match Csv.readRecord (Csv.readLines line.toList) with
    | some (.ok (key :: rule), _) => some (String.ofList key, rule.map String.ofList)
    | _ => none

/-- `LoadPolicy` into an empty model; a line that cannot be read is skipped. -/
def loadPolicy (rows : List CasbinRule) : List (String × List String) :=
  rows.filterMap fun row => loadPolicyLine (policyLine row)

/-! ## Statements -/

/-- A parameter of a statement. -/
def sendable (value : String) : Bool := '\x00' ∉ value.toList

/-- What a column of type `VARCHAR(256)` keeps of a value: a longer one is refused, unless only
blanks are too much. -/
def stored (value : String) : Option String :=
  if !sendable value then none
  else if value.length ≤ 256 then some value
  else if (value.toList.drop 256).all (· = ' ') then some (String.ofList (value.toList.take 256))
  else none

/-- `INSERT ... ON CONFLICT DO NOTHING`. -/
def insertRule (ptype : PType) (rows : List CasbinRule) (rule : List String) :
    Option (List CasbinRule) :=
  ((ruleToValues rule).mapM stored).map fun values =>
    if ⟨ptype, values⟩ ∈ rows then rows else rows ++ [⟨ptype, values⟩]

/-- `DELETE` of one rule. -/
def deleteRule (ptype : PType) (rows : List CasbinRule) (rule : List String) :
    Option (List CasbinRule) :=
  if (ruleToValues rule).all sendable then
    some (rows.filter (· ≠ ⟨ptype, ruleToValues rule⟩))
  else none

/-- The given values that are not empty, with their columns. -/
def given (fieldIndex : Nat) (fieldValues : List String) : List (String × Nat) :=
  (fieldValues.zipIdx fieldIndex).filter (·.1 ≠ "")

/-- Whether each given value is in its place. -/
def matchesGiven (conditions : List (String × Nat)) (rule : List String) : Bool :=
  conditions.all fun condition => rule[condition.2]? = some condition.1

/-- `DELETE` by some columns; there is no column with a number from six on. -/
def deleteFiltered (ptype : PType) (conditions : List (String × Nat)) (rows : List CasbinRule) :
    Option (List CasbinRule) :=
  if conditions.all fun condition => condition.2 < 6 && sendable condition.1 then
    some (rows.filter fun row => !(row.ptype = ptype && matchesGiven conditions row.values))
  else none

inductive Call
  | addPolicy (ptype : PType) (rule : List String)
  | addPolicies (ptype : PType) (rules : List (List String))
  | removePolicy (ptype : PType) (rule : List String)
  | removePolicies (ptype : PType) (rules : List (List String))
  | removeFilteredPolicy (ptype : PType) (fieldIndex : Nat) (fieldValues : List String)
  | savePolicy (policies groupings : List (List String))

/-- The rows after a call that succeeds; one that fails leaves them as they are. -/
def Call.run (rows : List CasbinRule) : Call → Option (List CasbinRule)
  | .addPolicy ptype rule => insertRule ptype rows rule
  | .addPolicies ptype rules => rules.foldlM (insertRule ptype) rows
  | .removePolicy ptype rule => deleteRule ptype rows rule
  | .removePolicies ptype rules => rules.foldlM (deleteRule ptype) rows
  | .removeFilteredPolicy ptype fieldIndex fieldValues =>
    deleteFiltered ptype (given fieldIndex fieldValues) rows
  | .savePolicy policies groupings => do
      let saved ← policies.foldlM (insertRule .p) []
      groupings.foldlM (insertRule .g) saved

/-! ## The rules in memory -/

/-- Rules up to trailing empty fields. -/
abbrev RuleSet := List (PType × List String)

def RuleSet.add (ptype : PType) (rules : RuleSet) (rule : List String) : RuleSet :=
  if (ptype, filterEmpty rule) ∈ rules then rules else rules ++ [(ptype, filterEmpty rule)]

def RuleSet.remove (ptype : PType) (rules : RuleSet) (rule : List String) : RuleSet :=
  rules.filter (· ≠ (ptype, filterEmpty rule))

def RuleSet.removeFiltered (ptype : PType) (conditions : List (String × Nat)) (rules : RuleSet) :
    RuleSet :=
  rules.filter fun rule => !(rule.1 = ptype && matchesGiven conditions rule.2)

def Call.remember (rules : RuleSet) : Call → RuleSet
  | .addPolicy ptype rule => rules.add ptype rule
  | .addPolicies ptype added => added.foldl (RuleSet.add ptype) rules
  | .removePolicy ptype rule => rules.remove ptype rule
  | .removePolicies ptype removed => removed.foldl (RuleSet.remove ptype) rules
  | .removeFilteredPolicy ptype fieldIndex fieldValues =>
    rules.removeFiltered ptype (given fieldIndex fieldValues)
  | .savePolicy policies groupings =>
    groupings.foldl (RuleSet.add .g) (policies.foldl (RuleSet.add .p) [])

structure Policies where
  rows : List CasbinRule := []
  rules : RuleSet := []

/-- A call that succeeds is made in memory too. -/
def step (state : Policies) (call : Call) : Policies :=
  match call.run state.rows with
  | none => state
  | some rows => { rows := rows, rules := call.remember state.rules }

/-! ## The rule and the condition -/

/-- Loading yields exactly the rules in memory, up to trailing empty fields. -/
def Restores (state : Policies) : Prop :=
  ∀ rule, rule ∈ (loadPolicy state.rows).map (fun loaded => (loaded.1, filterEmpty loaded.2)) ↔
    rule ∈ state.rules.map fun kept => (kept.1.name, kept.2)

/-- The values have no comma, quote or line feed in them and do not begin with a space, and the
last one does not end in a carriage return. -/
def Loadable (rule : List String) : Prop := Csv.Joinable (rule.map String.toList)

instance (rule : List String) : Decidable (Loadable rule) :=
  inferInstanceAs (Decidable (Csv.Joinable _))

/-- The rule has at most six values, and none that would be stored in part. -/
def Fits (rule : List String) : Prop :=
  rule.length ≤ 6 ∧ ∀ value ∈ rule, ∀ kept, stored value = some kept → kept = value

/-- The rules that a call adds fit, and those that it removes have at most six values. -/
def Call.Fits : Call → Prop
  | .addPolicy _ rule => PolicyAdapter.Fits rule
  | .addPolicies _ rules => ∀ rule ∈ rules, PolicyAdapter.Fits rule
  | .removePolicy _ rule => rule.length ≤ 6
  | .removePolicies _ rules => ∀ rule ∈ rules, rule.length ≤ 6
  | .removeFilteredPolicy _ _ _ => True
  | .savePolicy policies groupings =>
    (∀ rule ∈ policies, PolicyAdapter.Fits rule) ∧ ∀ rule ∈ groupings, PolicyAdapter.Fits rule

section Padding

variable {rule values others : List String}

theorem fits_of_short (few : rule.length ≤ 6) (short : ∀ value ∈ rule, value.length ≤ 256) :
    Fits rule := by
  refine ⟨few, fun value member kept keeps => ?_⟩
  rw [stored] at keeps
  split at keeps
  · cases keeps
  · rw [if_pos (short value member)] at keeps
    exact (Option.some.inj keeps).symm

theorem filterEmpty_snoc_empty (values : List String) :
    filterEmpty (values ++ [""]) = filterEmpty values :=
  List.rdropWhile_concat_pos _ _ _ (by simp)

theorem filterEmpty_snoc {last : String} (some : last ≠ "") (values : List String) :
    filterEmpty (values ++ [last]) = values ++ [last] :=
  List.rdropWhile_concat_neg _ _ _ (by simpa using some)

theorem filterEmpty_append (values : List String) (n : Nat) :
    filterEmpty (values ++ List.replicate n "") = filterEmpty values := by
  induction n with
  | zero => rw [List.replicate_zero, List.append_nil]
  | succ n ih =>
    rw [List.replicate_succ', ← List.append_assoc, filterEmpty_snoc_empty, ih]

/-- A list is what is left of it with empty texts behind. -/
theorem exists_eq_append (values : List String) :
    ∃ n, values = filterEmpty values ++ List.replicate n "" := by
  induction values using List.reverseRecOn with
  | nil => exact ⟨0, rfl⟩
  | append_singleton values last ih =>
    by_cases empty : last = ""
    · subst empty
      obtain ⟨n, split⟩ := ih
      refine ⟨n + 1, ?_⟩
      rw [filterEmpty_snoc_empty, List.replicate_succ', ← List.append_assoc]
      exact congrArg (· ++ [""]) split
    · refine ⟨0, ?_⟩
      rw [filterEmpty_snoc empty, List.replicate_zero, List.append_nil]

theorem filterEmpty_filterEmpty (values : List String) :
    filterEmpty (filterEmpty values) = filterEmpty values :=
  List.rdropWhile_idempotent _ values

theorem eq_of_filterEmpty_eq (length : values.length = others.length)
    (same : filterEmpty values = filterEmpty others) : values = others := by
  obtain ⟨n, first⟩ := exists_eq_append values
  obtain ⟨m, second⟩ := exists_eq_append others
  rw [first, second, same, List.length_append, List.length_append, List.length_replicate,
    List.length_replicate] at length
  have sameCount : n = m := Nat.add_left_cancel length
  rw [first, second, same, sameCount]

theorem ruleToValues_eq (short : rule.length ≤ 6) :
    ruleToValues rule = rule ++ List.replicate (6 - rule.length) "" := by
  rw [ruleToValues, List.take_append, List.take_of_length_le short, List.take_replicate]
  congr 2
  omega

theorem length_ruleToValues (short : rule.length ≤ 6) : (ruleToValues rule).length = 6 := by
  rw [ruleToValues_eq short, List.length_append, List.length_replicate]
  omega

theorem filterEmpty_ruleToValues (short : rule.length ≤ 6) :
    filterEmpty (ruleToValues rule) = filterEmpty rule := by
  rw [ruleToValues_eq short, filterEmpty_append]

/-- Trimming takes no value away that is not empty. -/
theorem getElem?_filterEmpty {value : String} (some : value ≠ "") (k : Nat) :
    (filterEmpty values)[k]? = .some value ↔ values[k]? = .some value := by
  obtain ⟨n, split⟩ := exists_eq_append values
  by_cases inside : k < (filterEmpty values).length
  · conv_rhs => rw [split, List.getElem?_append_left inside]
  · have beyond := Nat.not_lt.mp inside
    have absent : (filterEmpty values)[k]? = none := List.getElem?_eq_none beyond
    conv_rhs => rw [split, List.getElem?_append_right beyond, List.getElem?_replicate]
    rw [absent]
    refine iff_of_false nofun ?_
    split
    · exact fun same => some (Option.some.inj same).symm
    · exact nofun

theorem matchesGiven_filterEmpty {fieldIndex : Nat} {fieldValues : List String} :
    matchesGiven (given fieldIndex fieldValues) (filterEmpty values) =
      matchesGiven (given fieldIndex fieldValues) values := by
  rw [matchesGiven, matchesGiven, Bool.eq_iff_iff, List.all_eq_true, List.all_eq_true]
  refine forall₂_congr fun condition member => ?_
  have some : condition.1 ≠ "" := by simpa using (List.mem_filter.mp member).2
  rw [decide_eq_true_eq, decide_eq_true_eq, getElem?_filterEmpty some]

theorem mapM_stored_ruleToValues (fits : Fits rule)
    (kept : (ruleToValues rule).mapM stored = some values) : values = ruleToValues rule := by
  have whole : ∀ value ∈ ruleToValues rule, ∀ k, stored value = some k → k = value := by
    intro value member k keeps
    rw [ruleToValues_eq fits.1, List.mem_append] at member
    rcases member with own | padding
    · exact fits.2 value own k keeps
    · rw [List.eq_of_mem_replicate padding] at keeps ⊢
      have empty : stored "" = some "" := by decide
      exact (Option.some.inj (empty.symm.trans keeps)).symm
  rw [mapM_eq_some_iff] at kept
  generalize ruleToValues rule = padded at whole kept
  induction kept with
  | nil => rfl
  | @cons value found padded values keeps _ ih =>
    rw [List.forall_mem_cons] at whole
    rw [whole.1 found keeps, ih whole.2]

end Padding

/-! ## Rows and rules in memory -/

def CasbinRule.rule (row : CasbinRule) : PType × List String := (row.ptype, filterEmpty row.values)

/-- The rules in memory are those of the rows. -/
structure Shown (rows : List CasbinRule) (rules : RuleSet) : Prop where
  rules : rules = rows.map CasbinRule.rule
  columns : ∀ row ∈ rows, row.values.length = 6

section Shown

variable {rows result : List CasbinRule} {rules : RuleSet} {ptype : PType} {rule : List String}

theorem Shown.eq_iff (shown : Shown rows rules) {row : CasbinRule} (member : row ∈ rows)
    (short : rule.length ≤ 6) :
    row = ⟨ptype, ruleToValues rule⟩ ↔ row.rule = (ptype, filterEmpty rule) := by
  constructor
  · rintro rfl
    rw [CasbinRule.rule, filterEmpty_ruleToValues short]
  · intro same
    obtain ⟨kind, values⟩ := row
    obtain ⟨rfl, trimmed⟩ := Prod.mk.inj same
    have length : values.length = (ruleToValues rule).length :=
      (shown.columns _ member).trans (length_ruleToValues short).symm
    rw [eq_of_filterEmpty_eq length (trimmed.trans (filterEmpty_ruleToValues short).symm)]

theorem Shown.mem_iff (shown : Shown rows rules) (short : rule.length ≤ 6) :
    (ptype, filterEmpty rule) ∈ rules ↔ ⟨ptype, ruleToValues rule⟩ ∈ rows := by
  rw [shown.rules, List.mem_map]
  constructor
  · rintro ⟨row, member, same⟩
    exact (shown.eq_iff member short).mpr same ▸ member
  · intro member
    exact ⟨_, member, (shown.eq_iff member short).mp rfl⟩

theorem Shown.insertRule (shown : Shown rows rules) (fits : Fits rule)
    (done : insertRule ptype rows rule = some result) : Shown result (rules.add ptype rule) := by
  obtain ⟨values, kept, rfl⟩ := Option.map_eq_some_iff.mp done
  obtain rfl := mapM_stored_ruleToValues fits kept
  rw [RuleSet.add]
  by_cases member : ⟨ptype, ruleToValues rule⟩ ∈ rows
  · rw [if_pos member, if_pos ((shown.mem_iff fits.1).mpr member)]
    exact shown
  · rw [if_neg member, if_neg (mt (shown.mem_iff fits.1).mp member)]
    refine ⟨?_, ?_⟩
    · rw [List.map_append, List.map_singleton, CasbinRule.rule,
        filterEmpty_ruleToValues fits.1, shown.rules]
    · intro row among
      rcases List.mem_append.mp among with old | new
      · exact shown.columns row old
      · rw [List.mem_singleton.mp new]
        exact length_ruleToValues fits.1

/-- Deleting the rows that hold some rules. -/
theorem Shown.filter (shown : Shown rows rules) {keep : CasbinRule → Bool}
    {keepRule : PType × List String → Bool} (same : ∀ row ∈ rows, keep row = keepRule row.rule) :
    Shown (rows.filter keep) (rules.filter keepRule) := by
  refine ⟨?_, fun row member => shown.columns row (List.mem_filter.mp member).1⟩
  rw [shown.rules, List.filter_map, List.filter_congr same]
  rfl

theorem Shown.deleteRule (shown : Shown rows rules) (short : rule.length ≤ 6)
    (done : deleteRule ptype rows rule = some result) : Shown result (rules.remove ptype rule) := by
  rw [PolicyAdapter.deleteRule, Option.ite_none_right_eq_some] at done
  obtain rfl := Option.some.inj done.2
  refine shown.filter fun row member => ?_
  rw [decide_eq_decide, not_iff_not]
  exact shown.eq_iff member short

theorem Shown.deleteFiltered (shown : Shown rows rules) {fieldIndex : Nat}
    {fieldValues : List String}
    (done : deleteFiltered ptype (given fieldIndex fieldValues) rows = some result) :
    Shown result (rules.removeFiltered ptype (given fieldIndex fieldValues)) := by
  rw [PolicyAdapter.deleteFiltered, Option.ite_none_right_eq_some] at done
  obtain rfl := Option.some.inj done.2
  refine shown.filter fun row member => ?_
  rw [CasbinRule.rule, matchesGiven_filterEmpty]

/-- What each change keeps, a list of changes keeps. -/
theorem Shown.foldlM {change : List CasbinRule → List String → Option (List CasbinRule)}
    {remember : RuleSet → List String → RuleSet} {items : List (List String)}
    (each : ∀ item ∈ items, ∀ {rows rules result}, Shown rows rules →
      change rows item = some result → Shown result (remember rules item))
    (shown : Shown rows rules) (done : items.foldlM change rows = some result) :
    Shown result (items.foldl remember rules) := by
  induction items generalizing rows rules with
  | nil =>
    obtain rfl := Option.some.inj done
    exact shown
  | cons item items ih =>
    rw [List.forall_mem_cons] at each
    obtain ⟨between, first, others⟩ := Option.bind_eq_some_iff.mp done
    exact ih each.2 (each.1 shown first) others

theorem Shown.run (shown : Shown rows rules) {call : Call} (fits : call.Fits)
    (done : call.run rows = some result) : Shown result (call.remember rules) := by
  cases call with
  | addPolicy ptype rule => exact shown.insertRule fits done
  | addPolicies ptype added =>
    exact shown.foldlM (fun rule member _ _ _ before => before.insertRule (fits rule member)) done
  | removePolicy ptype rule => exact shown.deleteRule fits done
  | removePolicies ptype removed =>
    exact shown.foldlM (fun rule member _ _ _ before => before.deleteRule (fits rule member)) done
  | removeFilteredPolicy ptype fieldIndex fieldValues => exact shown.deleteFiltered done
  | savePolicy policies groupings =>
    obtain ⟨saved, first, second⟩ := Option.bind_eq_some_iff.mp done
    have empty : Shown [] [] := ⟨rfl, nofun⟩
    have half : Shown saved (policies.foldl (RuleSet.add .p) []) :=
      empty.foldlM (fun rule member _ _ _ before => before.insertRule (fits.1 rule member)) first
    exact half.foldlM
      (fun rule member _ _ _ before => before.insertRule (fits.2 rule member)) second

theorem shown_calls {calls : List Call} (fits : ∀ call ∈ calls, call.Fits) {state : Policies}
    (shown : Shown state.rows state.rules) :
    Shown (calls.foldl step state).rows (calls.foldl step state).rules := by
  induction calls generalizing state with
  | nil => exact shown
  | cons call calls ih =>
    rw [List.forall_mem_cons] at fits
    refine ih fits.2 ?_
    rw [step]
    cases done : call.run state.rows with
    | none => exact shown
    | some rows => exact shown.run fits.1 done

end Shown

/-! ## One line -/

def reloaded (entry : String × List String) : Option (String × List String) :=
  (loadPolicyLine (entry.1 ++ ", " ++ joinRule entry.2)).map fun loaded =>
    (loaded.1, filterEmpty loaded.2)

/-- The fields that are joined to a line; a rule without values makes one. -/
def columns (rule : List String) : List Csv.Field :=
  if rule = [] then [[]] else rule.map String.toList

section Line

variable {ptype : PType} {rule result : List String}

theorem columns_ne_nil (rule : List String) : columns rule ≠ [] := by
  rw [columns]
  split
  · exact List.cons_ne_nil _ _
  · rename_i some
    exact mt List.map_eq_nil_iff.mp some

theorem toList_joinRule (rule : List String) :
    ',' :: ' ' :: (joinRule rule).toList = Csv.appended (columns rule) := by
  fun_induction joinRule rule with
  | case1 => rfl
  | case2 value =>
    rw [columns, if_neg (List.cons_ne_nil _ _), List.map_singleton, Csv.appended_cons,
      Csv.appended, List.flatMap_nil, List.append_nil]
  | case3 value rest more ih =>
    have some : rest ≠ [] := by
      rintro rfl
      exact more rfl
    rw [columns, if_neg some] at ih
    rw [columns, if_neg (List.cons_ne_nil _ _), List.map_cons, Csv.appended_cons, ← ih,
      String.toList_append, String.toList_append, List.append_assoc]
    rfl

theorem toList_line (rule : List String) :
    (ptype.name ++ ", " ++ joinRule rule).toList = ptype.letter :: Csv.appended (columns rule) := by
  rw [← toList_joinRule, String.toList_append, String.toList_append, PType.name,
    String.toList_ofList]
  rfl

theorem bare_letter (ptype : PType) : Csv.Bare [ptype.letter] := by
  cases ptype
  · decide
  · decide

theorem loadPolicyLine_line (rule : List String) :
    loadPolicyLine (ptype.name ++ ", " ++ joinRule rule) =
      match Csv.readRecord (Csv.readLines (ptype.letter :: Csv.appended (columns rule))) with
      | some (.ok (key :: read), _) => some (String.ofList key, read.map String.ofList)
      | _ => none := by
  rw [loadPolicyLine, toList_line, if_neg]
  rw [List.head?_cons, not_or]
  refine ⟨List.cons_ne_nil _ _, ?_⟩
  cases ptype
  · decide
  · decide

theorem joinable_columns (loadable : Loadable rule) : Csv.Joinable (columns rule) := by
  rw [columns]
  split
  · decide
  · exact loadable

theorem loadable_of_joinable (joinable : Csv.Joinable (columns rule)) : Loadable rule := by
  rw [columns] at joinable
  split at joinable
  · rename_i none
    subst none
    decide
  · exact joinable

theorem map_ofList_columns (rule : List String) :
    filterEmpty ((columns rule).map String.ofList) = filterEmpty rule := by
  rw [columns]
  split
  · rename_i none
    subst none
    rfl
  · rw [List.map_map]
    congr 1
    exact (List.map_congr_left fun value _ => String.ofList_toList).trans (List.map_id rule)

/-- A rule that can be loaded comes back. -/
theorem reloaded_of_loadable (loadable : Loadable rule) (trimmed : filterEmpty rule = rule) :
    reloaded (ptype.name, rule) = some (ptype.name, rule) := by
  rw [reloaded, loadPolicyLine_line,
    Csv.readRecord_appended (bare_letter ptype) (columns_ne_nil rule) (joinable_columns loadable)]
  change some (String.ofList [ptype.letter], _) = _
  rw [map_ofList_columns, trimmed]
  rfl

theorem size_filterEmpty_le (values : List String) :
    Csv.size ((filterEmpty values).map String.toList) ≤ Csv.size (values.map String.toList) := by
  induction values using List.reverseRecOn with
  | nil => exact le_refl _
  | append_singleton values last ih =>
    by_cases empty : last = ""
    · subst empty
      rw [filterEmpty_snoc_empty]
      refine ih.trans (Prod.Lex.toLex_le_toLex.mpr (.inr ⟨?_, ?_⟩))
      · rw [List.map_append, List.map_singleton, Csv.quotes_snoc]
        rfl
      · rw [List.map_append, List.map_singleton, Csv.weight_snoc]
        exact Nat.le_add_right _ _
    · rw [filterEmpty_snoc empty]

theorem size_lt_of_not_loadable {entry : String × List String} (lost : ¬Loadable rule)
    (read : reloaded (ptype.name, rule) = some entry) :
    Csv.size (entry.2.map String.toList) < Csv.size (rule.map String.toList) := by
  obtain ⟨loaded, line, rfl⟩ := Option.map_eq_some_iff.mp read
  have some : rule ≠ [] := by
    rintro rfl
    exact lost (by decide)
  have fields : columns rule = rule.map String.toList := if_neg some
  rw [loadPolicyLine_line] at line
  split at line
  · rename_i key fieldsRead rest record
    obtain ⟨others, same, smaller⟩ := Csv.size_lt_of_not_joinable (bare_letter ptype)
      (columns_ne_nil rule) (mt loadable_of_joinable lost) record
    obtain ⟨-, rfl⟩ := List.cons.inj same
    obtain rfl := Option.some.inj line
    rw [fields] at smaller
    refine ((size_filterEmpty_le _).trans_eq ?_).trans_lt smaller
    congr 1
    rw [List.map_map]
    exact (List.map_congr_left fun field _ => String.toList_ofList).trans (List.map_id _)
  · cases line

end Line

/-! ## All rules -/

section Restored

variable {rows : List CasbinRule} {rules : RuleSet}

/-- What loading yields is what it makes of each rule in memory. -/
theorem Shown.loadPolicy (shown : Shown rows rules) :
    (loadPolicy rows).map (fun loaded => (loaded.1, filterEmpty loaded.2)) =
      (rules.map fun kept => (kept.1.name, kept.2)).filterMap reloaded := by
  rw [shown.rules, List.map_map, List.filterMap_map, PolicyAdapter.loadPolicy, List.map_filterMap]
  rfl

theorem Shown.trimmed (shown : Shown rows rules) {rule : PType × List String}
    (member : rule ∈ rules) : filterEmpty rule.2 = rule.2 := by
  rw [shown.rules] at member
  obtain ⟨row, -, rfl⟩ := List.mem_map.mp member
  exact filterEmpty_filterEmpty row.values

theorem restores_iff_of_shown {state : Policies} (shown : Shown state.rows state.rules) :
    Restores state ↔ ∀ rule ∈ state.rules, Loadable rule.2 := by
  rw [Restores, shown.loadPolicy]
  constructor
  · intro restores rule member
    have onto : ∀ entry ∈ state.rules.map fun kept => (kept.1.name, kept.2),
        ∃ other ∈ state.rules.map fun kept => (kept.1.name, kept.2),
          reloaded other = some entry := fun entry among =>
      List.mem_filterMap.mp ((restores entry).mpr among)
    have shrinks : ∀ entry ∈ state.rules.map fun kept => (kept.1.name, kept.2), ∀ read,
        reloaded entry = some read → read = entry ∨
          Csv.size (read.2.map String.toList) < Csv.size (entry.2.map String.toList) := by
      intro entry among read reads
      obtain ⟨kept, held, rfl⟩ := List.mem_map.mp among
      by_cases loadable : Loadable kept.2
      · rw [reloaded_of_loadable loadable (shown.trimmed held)] at reads
        exact .inl (Option.some.inj reads).symm
      · exact .inr (size_lt_of_not_loadable loadable reads)
    have fixed : reloaded (rule.1.name, rule.2) = some (rule.1.name, rule.2) :=
      Csv.fixed_of_onto onto shrinks _ (List.mem_map_of_mem member)
    by_contra lost
    have smaller : Csv.size (rule.2.map String.toList) < Csv.size (rule.2.map String.toList) :=
      size_lt_of_not_loadable lost fixed
    exact lt_irrefl _ smaller
  · intro loadable
    have fixed : ∀ entry ∈ state.rules.map fun kept => (kept.1.name, kept.2),
        reloaded entry = some entry := by
      intro entry among
      obtain ⟨kept, held, rfl⟩ := List.mem_map.mp among
      exact reloaded_of_loadable (loadable kept held) (shown.trimmed held)
    intro entry
    rw [List.mem_filterMap]
    constructor
    · rintro ⟨other, among, reads⟩
      rw [fixed other among] at reads
      exact Option.some.inj reads ▸ among
    · exact fun among => ⟨entry, among, fixed entry among⟩

/-- After calls, loading yields the rules in memory if each of them can be loaded, and only
then. -/
theorem restores_iff_loadable (calls : List Call) (fits : ∀ call ∈ calls, call.Fits) :
    Restores (calls.foldl step {}) ↔ ∀ rule ∈ (calls.foldl step {}).rules, Loadable rule.2 :=
  restores_iff_of_shown (shown_calls fits ⟨rfl, nofun⟩)

/-- Calls that add two rules, of which one is removed again. -/
def plainCalls : List Call :=
  [.addPolicies .p [["role:clerk", "t-1", "invoice", "read"], ["role:clerk", "t-1", "*", ""]],
    .addPolicy .g ["user:7", "role:clerk", "t-1"], .removeFilteredPolicy .p 2 ["*"]]

theorem plain_rules_restored :
    (∀ call ∈ plainCalls, call.Fits) ∧ Restores (plainCalls.foldl step {}) := by
  have fits : ∀ call ∈ plainCalls, call.Fits := by
    intro call member
    rcases List.mem_cons.mp member with rfl | member
    · intro rule among
      rcases List.mem_pair.mp among with rfl | rfl
      · exact fits_of_short (by decide) (by decide)
      · exact fits_of_short (by decide) (by decide)
    rcases List.mem_pair.mp member with rfl | rfl
    · exact fits_of_short (by decide) (by decide)
    · exact trivial
  exact ⟨fits, (restores_iff_loadable plainCalls fits).mpr (by decide)⟩

/-- A role with a comma in its name comes back as two values. -/
theorem comma_splits_value :
    ∃ calls : List Call, (∀ call ∈ calls, call.Fits) ∧ ¬Restores (calls.foldl step {}) ∧
      (calls.foldl step {}).rules = [(.p, ["role:a,b", "t-1", "invoice", "read"])] ∧
      loadPolicy (calls.foldl step {}).rows =
        [("p", ["role:a", "b", "t-1", "invoice", "read"])] := by
  refine ⟨[.addPolicy .p ["role:a,b", "t-1", "invoice", "read"]], ?_, ?_, by decide, by decide⟩
  · intro call member
    rw [List.mem_singleton.mp member]
    exact fits_of_short (by decide) (by decide)
  · intro restores
    have kept := (restores ("p", ["role:a,b", "t-1", "invoice", "read"])).mpr (by decide)
    exact absurd kept (by decide)

end Restored

end ErpFinance.Iam.PolicyAdapter
