import ErpFinance.Api.Crud
import ErpFinance.Driver.SqlBuild
import ErpFinance.Tenant.Lifecycle

/-!
# The texts of list requests

The columns that a list request names reach the text of its query without being
looked up in the allowlist of the entity, and the one to sort by also without
being escaped.  The texts are over the columns of the entity exactly where the
request names no others and its page begins within 64 bits.
-/

namespace ErpFinance.Api.Crud

open Compiler Domain Driver Library ErpFinance.Runtime Tenant

/-! ## What a request names -/

namespace ListParams

variable (params : ListParams)

/-- The columns that a request names in its filters and to sort by. -/
def named : List String :=
  params.filters.filterMap (fun param => (filterKey param.1).map Prod.fst) ++
    if params.orderBy = "" then [] else [params.orderBy]

/-- The first page, or one that begins at an integer of 64 bits. -/
def InRange : Prop :=
  params.page ≤ 1 ∨
    (params.page - 1) * (resolveOptions params.options).pageSize % 2 ^ 64 < 2 ^ 63

/-- The query that a request sends. -/
def query (es : EntitySchema) : Select :=
  pageQuery es (fromQuery params.filters) (resolveOptions params.options)

end ListParams

/-- A predicate on a field. -/
def IsLeaf (field : String) (f : Filter) : Prop := ∃ test, f = .leaf field test

theorem isLeaf_ite {field : String} {f : Filter} {rest : Option Filter} {c : Prop} [Decidable c]
    (first : IsLeaf field f) (others : ∀ g ∈ rest, IsLeaf field g) :
    ∀ g ∈ if c then some f else rest, IsLeaf field g := by
  split_ifs
  · intro g same
    rw [← Option.some.inj same]
    exact first
  · exact others

/-- Every operator tests the field. -/
theorem isLeaf_buildFilter (field op value : String) :
    ∀ f ∈ buildFilter field op value, IsLeaf field f := by
  unfold buildFilter
  iterate 13 refine isLeaf_ite ⟨_, rfl⟩ ?_
  split_ifs
  · split
    · exact nofun
    · intro f same
      exact ⟨_, (Option.some.inj same).symm⟩
  · exact nofun

/-- What the filter parameters are made of: predicates on fields that the request names. -/
theorem mem_predicates {filters : List (String × String)} {f : Filter}
    (member : f ∈ filters.filterMap fun param =>
      (filterKey param.1).bind fun (field, op) => buildFilter field op param.2) :
    ∃ field ∈ filters.filterMap fun param => (filterKey param.1).map Prod.fst,
      IsLeaf field f := by
  obtain ⟨param, inFilters, built⟩ := List.mem_filterMap.mp member
  obtain ⟨⟨field, op⟩, key, builds⟩ := Option.bind_eq_some_iff.mp built
  refine ⟨field, List.mem_filterMap.mpr ⟨param, inFilters, ?_⟩, isLeaf_buildFilter _ _ _ f builds⟩
  rw [key, Option.map_some]

/-- A property of filters that conjunctions take over from their parts. -/
theorem conjoin_induction {holds : Filter → Prop}
    (and : ∀ subs, (∀ sub ∈ subs, holds sub) → holds (.and subs)) {parts : List Filter}
    (each : ∀ part ∈ parts, holds part) : ∀ f ∈ Filter.conjoin parts, holds f := by
  unfold Filter.conjoin
  split
  · exact nofun
  · intro f same
    rw [← Option.some.inj same]
    exact each _ List.mem_cons_self
  · intro f same
    rw [← Option.some.inj same]
    exact and _ each

theorem mem_columnsOf {name : String} {subs : List Filter} :
    name ∈ Filter.columnsOf subs ↔ ∃ sub ∈ subs, name ∈ sub.columns := by
  induction subs with
  | nil => simp [Filter.columnsOf]
  | cons first rest ih => simp [Filter.columnsOf, ih]

theorem columns_fromQuery {params : ListParams} :
    ∀ f ∈ fromQuery params.filters, ∀ name ∈ f.columns, name ∈ params.named := by
  refine conjoin_induction (fun subs each name member => ?_) fun part member name inPart => ?_
  · rw [Filter.columns] at member
    obtain ⟨sub, inSubs, named⟩ := mem_columnsOf.mp member
    exact each sub inSubs name named
  · obtain ⟨field, named, test, rfl⟩ := mem_predicates member
    rw [Filter.columns, List.mem_singleton] at inPart
    rw [inPart]
    exact List.mem_append_left _ named

section Texts

variable {sprint : Value → String}

theorem isSome_exprs {offset : Nat} {subs : List Filter}
    (each : ∀ sub ∈ subs, ∀ args, (expr sprint offset sub args).isSome) (args : List Value) :
    (exprs sprint offset subs args).isSome := by
  induction subs generalizing args with
  | nil => rfl
  | cons first rest ih =>
    obtain ⟨own, others⟩ := List.forall_mem_cons.mp each
    obtain ⟨part, built⟩ := Option.isSome_iff_exists.mp (own args)
    obtain ⟨parts, all⟩ := Option.isSome_iff_exists.mp (ih others part.2)
    rw [exprs, built, Option.bind_some, all]
    rfl

theorem isSome_build (sprint : Value → String) (offset : Nat)
    (filters : List (String × String)) :
    (build sprint offset (fromQuery filters)).isSome := by
  have texts : ∀ f ∈ fromQuery filters, ∀ args, (expr sprint offset f args).isSome := by
    refine conjoin_induction (fun subs each args => ?_) fun part member args => ?_
    · rw [expr, Option.isSome_map]
      exact isSome_exprs each args
    · obtain ⟨field, -, test, rfl⟩ := mem_predicates member
      rfl
  cases read : fromQuery filters with
  | none => rfl
  | some f => exact texts f read []

/-! ## Texts over the columns of an entity -/

def Over (al : Allowlist) (f : Option Filter) : Prop :=
  ∀ filter ∈ f, ∀ name ∈ filter.columns, al.allow name = true

/-- The texts that filters and sort fields over the columns of an entity have. -/
inductive Obtainable (sprint : Value → String) (es : EntitySchema) : String → Prop
  | page {f : Option Filter} {order : Option (String × Bool)} {text : String}
      (limit offset : Nat) (args : List Value) (columns : Over (newAllowlist es) f)
      (sorts : ∀ column ∈ order, (newAllowlist es).allow column.1 = true)
      (sent : queryText sprint
        { table := es.tableName, columns := scannedColumns es, condition := f, order := order
          limit := some limit, offset := offset } = some (text, args)) : Obtainable sprint es text
  | count {f : Option Filter} {text : String} (args : List Value)
      (columns : Over (newAllowlist es) f)
      (sent : countText sprint es.tableName f = some (text, args)) : Obtainable sprint es text

/-- What a list request is to send: texts over the columns of the entity with limits and offsets
that are not negative, and nothing when it names another column. -/
structure Meets (sprint : Value → String) (es : EntitySchema) (params : ListParams)
    (sent : List Statement) : Prop where
  texts : ∀ statement ∈ sent, ∃ text args, statement.text sprint = some (text, args) ∧
    Obtainable sprint es text
  rejects : (∃ name ∈ params.named, (newAllowlist es).allow name = false) → sent = []
  bounds : ∀ query, .select query ∈ sent → query.limit.isSome ∧ 0 ≤ query.offset

end Texts

section Sent

variable {e : Engine} {es : EntitySchema} {ctx : Context} {f : Option Filter} {store : Store}

theorem sent_send (operation : String) (statement : Statement) :
    (send e.database es ctx operation statement store).2.sent = statement :: store.sent := by
  cases runs : e.execute store.tables statement with
  | error error =>
    rw [send_of_error runs]
    rfl
  | ok answered =>
    rw [send_of_ok runs]
    rfl

theorem sent_count :
    (count e.database es ctx f store).2.sent = .count es.tableName f :: store.sent := by
  rw [count, ← sent_send "Count" (.count es.tableName f)]
  rcases runs : send e.database es ctx "Count" (.count es.tableName f) store with
    ⟨error | result, after⟩
  · rw [Stateful.bind_error runs]
  · rw [Stateful.bind_ok runs]
    rfl

theorem sent_query (o : QueryOptions) :
    ∃ more, (query e.database es ctx f o store).2.sent =
        more ++ .select (pageQuery es f (resolveOptions o)) :: store.sent ∧
      ∀ statement ∈ more, statement = .count es.tableName f := by
  rw [query, ← sent_send "Query" (.select (pageQuery es f (resolveOptions o)))]
  dsimp only
  rcases runs : send e.database es ctx "Query" (.select (pageQuery es f (resolveOptions o))) store
    with ⟨error | result, after⟩
  · rw [Stateful.bind_error runs]
    exact ⟨[], rfl, List.forall_mem_nil _⟩
  · rw [Stateful.bind_ok runs]
    split_ifs
    · exact ⟨[], rfl, List.forall_mem_nil _⟩
    · rw [Stateful.bind_ok (Stateful.outcome_apply _ _)]
      refine ⟨[.count es.tableName f], ?_, by simp⟩
      rw [List.singleton_append, ← sent_count]
      cases (count e.database es ctx f after).1 with
      | ok total => rfl
      | error error => rfl

theorem sent_list (e : Engine) (s : EntityService) (ctx : Context) (params : ListParams)
    (store : Store) :
    ∃ more, (list e.database s ctx params store).2.sent =
        more ++ .select (params.query s.schema) :: store.sent ∧
      ∀ statement ∈ more, statement = .count s.schema.tableName (fromQuery params.filters) :=
  sent_query params.options

end Sent

section Meets

variable {sprint : Value → String} {es : EntitySchema} {params : ListParams}

theorem offset_nonneg_iff : 0 ≤ (params.query es).offset ↔ params.InRange := by
  have offset : (params.query es).offset =
      if 1 < params.page then
        int64 ((params.page - 1) * (resolveOptions params.options).pageSize) else 0 := rfl
  rw [offset, ListParams.InRange]
  generalize (params.page - 1) * (resolveOptions params.options).pageSize = start
  by_cases later : 1 < params.page
  · rw [if_pos later, int64]
    omega
  · rw [if_neg later]
    exact ⟨fun _ => .inl (Int.not_lt.mp later), fun _ => le_refl 0⟩

theorem over_fromQuery (allowed : ∀ name ∈ params.named, (newAllowlist es).allow name = true) :
    Over (newAllowlist es) (fromQuery params.filters) :=
  fun f built name member => allowed name (columns_fromQuery f built name member)

theorem sorts_query (allowed : ∀ name ∈ params.named, (newAllowlist es).allow name = true) :
    ∀ column ∈ (params.query es).order, (newAllowlist es).allow column.1 = true := by
  have order : (params.query es).order = if params.orderBy = "" then none
      else some (params.orderBy, (resolveOptions params.options).sortAsc) := rfl
  intro column member
  rw [order] at member
  split_ifs at member with unsorted
  · cases member
  · rw [← Option.some.inj member]
    refine allowed params.orderBy (List.mem_append_right _ ?_)
    rw [if_neg unsorted]
    exact List.mem_singleton_self _

/-- The text of the query of a request over allowed columns. -/
theorem obtainable_query
    (allowed : ∀ name ∈ params.named, (newAllowlist es).allow name = true)
    (inRange : params.InRange) :
    ∃ text args, (Statement.select (params.query es)).text sprint = some (text, args) ∧
      Obtainable sprint es text := by
  obtain ⟨clause, built⟩ := Option.isSome_iff_exists.mp
    (isSome_build sprint 0 params.filters)
  obtain ⟨⟨text, args⟩, sent⟩ : ∃ sent, queryText sprint (params.query es) = some sent :=
    ⟨_, congrArg (Option.map _) built⟩
  refine ⟨text, args, sent, .page ((resolveOptions params.options).pageSize.toNat + 1)
    (params.query es).offset.toNat args (over_fromQuery allowed) (sorts_query allowed) ?_⟩
  rw [Int.toNat_of_nonneg (offset_nonneg_iff.mpr inRange)]
  exact sent

theorem obtainable_count
    (allowed : ∀ name ∈ params.named, (newAllowlist es).allow name = true) :
    ∃ text args, (Statement.count es.tableName (fromQuery params.filters)).text sprint =
        some (text, args) ∧ Obtainable sprint es text := by
  obtain ⟨clause, built⟩ := Option.isSome_iff_exists.mp
    (isSome_build sprint 0 params.filters)
  obtain ⟨⟨text, args⟩, sent⟩ : ∃ sent,
      countText sprint es.tableName (fromQuery params.filters) = some sent :=
    ⟨_, congrArg (Option.map _) built⟩
  exact ⟨text, args, sent, .count args (over_fromQuery allowed) sent⟩

end Meets

/-- A list request meets this exactly when it names allowed columns only and its page begins at
an integer of 64 bits. -/
theorem list_meets_iff (e : Engine) (s : EntityService) (ctx : Context) (params : ListParams)
    (store : Store) (sprint : Value → String) :
    (∃ sent, (list e.database s ctx params store).2.sent = sent ++ store.sent ∧
        Meets sprint s.schema params sent) ↔
      (∀ name ∈ params.named, (newAllowlist s.schema).allow name = true) ∧ params.InRange := by
  obtain ⟨more, sends, counts⟩ := sent_list e s ctx params store
  have all : (list e.database s ctx params store).2.sent =
      (more ++ [.select (params.query s.schema)]) ++ store.sent := by
    rw [sends, List.append_assoc, List.singleton_append]
  constructor
  · rintro ⟨sent, same, meets⟩
    obtain rfl : sent = more ++ [.select (params.query s.schema)] :=
      List.append_cancel_right (same.symm.trans all)
    have page := meets.bounds (params.query s.schema)
      (List.mem_append_right more (List.mem_singleton_self _))
    refine ⟨fun name member => ?_, offset_nonneg_iff.mp page.2⟩
    by_contra denied
    exact List.concat_ne_nil _ _ (meets.rejects ⟨name, member, Bool.eq_false_iff.mpr denied⟩)
  · rintro ⟨allowed, inRange⟩
    refine ⟨_, all, ⟨fun statement member => ?_, ?_, fun query member => ?_⟩⟩
    · rcases List.mem_append.mp member with counted | selected
      · rw [counts statement counted]
        exact obtainable_count allowed
      · rw [List.mem_singleton.mp selected]
        exact obtainable_query allowed inRange
    · rintro ⟨name, member, denied⟩
      rw [allowed name member] at denied
      cases denied
    · rcases List.mem_append.mp member with counted | selected
      · cases counts _ counted
      · obtain rfl := Statement.select.inj (List.mem_singleton.mp selected)
        exact ⟨rfl, offset_nonneg_iff.mpr inRange⟩

/-- A column to sort by that ends its quotes. -/
def sleeping : ListParams where
  orderBy := "id\" ASC, pg_sleep(10) --"

/-- The text of the request stands outside the quotes, and nothing refuses it. -/
theorem order_leaves_quotes :
    orderText (sleeping.query tenants).order = " ORDER BY \"id\" ASC, pg_sleep(10) --\" ASC" ∧
      ¬ ∃ sent, (list (untyped (fun _ => scannedColumns tenants) fun _ => true).database
          (tenantService tenantsAlone) {} sleeping { tables := fun _ => [] }).2.sent = sent ++ [] ∧
        Meets (fun _ => "") tenants sleeping sent := by
  refine ⟨by decide +kernel, ?_⟩
  rintro ⟨sent, same, meets⟩
  obtain ⟨more, sends, -⟩ := sent_list (untyped (fun _ => scannedColumns tenants) fun _ => true)
    (tenantService tenantsAlone) {} sleeping { tables := fun _ => [] }
  obtain rfl : sent = [] := meets.rejects
    ⟨sleeping.orderBy, by decide +kernel, by decide +kernel⟩
  rw [sends] at same
  simp at same

end ErpFinance.Api.Crud
