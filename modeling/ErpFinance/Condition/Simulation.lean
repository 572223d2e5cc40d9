import ErpFinance.Condition.Evaluator

/-!
# Simulating an evaluation

Two evaluations whose shared-state operations simulate each other, on trees
that read alike, simulate each other.  The evaluator's functions are taken one
by one, from the operators up to whole nodes.
-/

namespace ErpFinance.Condition

open Library (Stateful)
open Library.Stateful (Agree Keeps Relating Simulates)

variable {G : GoTypes} {σ τ : Type} {go : GoLibrary G} {scope : Scope G}

/-! ## Evaluations that stay within a bound -/

/-- The operations end within the bound only where they have started within it. -/
structure Effects.Keep (within : τ → Prop) (fx : Effects G τ) : Prop where
  visit : Keeps within fx.visit
  formula : ∀ formula, Keeps within (fx.evaluateFormula formula)
  pattern : ∀ pattern text, Keeps within (fx.matchString pattern text)

section Keep

variable {within : τ → Prop} {fx : Effects G τ}

theorem Effects.Keep.of_true : fx.Keep (fun _ => True) :=
  ⟨.of_true _, fun _ => .of_true _, fun _ _ => .of_true _⟩

theorem applyTo_keeps (keep : fx.Keep within) (op : OperatorType) (left : Value G)
    (right : List (Value G)) : Keeps within (applyTo go fx op left right) := by
  cases op
  case matchRegexp =>
    unfold applyTo matchRegexp
    dsimp only
    split
    · exact .pure _
    · split
      · exact .fail _
      · exact keep.pattern _ _
  case isEmpty | isNotEmpty | other => exact .fail _
  all_goals exact .pure _

theorem evaluateRule_keeps (keep : fx.Keep within) (r : ConditionRule G) :
    Keeps within (evaluateRule go fx scope r) := by
  unfold evaluateRule
  split
  · exact .bind (.mapError (keep.formula _) _) fun _ => .lift _
  · refine .bind (.lift _) fun _ => ?_
    split
    · exact .lift _
    · exact .bind (.lift _) fun _ => .bind (.lift _) fun _ => applyTo_keeps keep _ _ _

theorem checkRule_keeps (keep : fx.Keep within) (id : String) (r : ConditionRule G) :
    Keeps within (checkRule go fx scope id r) :=
  .mapError (.bind (.lift _) fun _ => evaluateRule_keeps keep r) _

theorem evaluateChildren_keeps {evaluate : Value G → Stateful τ EvalError Bool}
    (each : ∀ node, Keeps within (evaluate node)) (g : ConditionGroup G) :
    Keeps within (evaluateChildren evaluate g) := by
  unfold evaluateChildren
  dsimp only
  split
  · exact .allM fun entry _ => .mapError (each entry.1) _
  · exact .anyM fun entry _ => .mapError (each entry.1) _

theorem evaluateContent_keeps (keep : fx.Keep within)
    {evaluate : Value G → Stateful τ EvalError Bool} (each : ∀ node, Keeps within (evaluate node))
    (g : ConditionGroup G) : Keeps within (evaluateContent go fx evaluate g) := by
  unfold evaluateContent
  split
  · exact .bind (.mapError (keep.formula _) _) fun _ => .lift _
  · exact evaluateChildren_keeps each g

theorem checkGroup_keeps (keep : fx.Keep within) {evaluate : Value G → Stateful τ EvalError Bool}
    (each : ∀ node, Keeps within (evaluate node)) (id : String) (g : ConditionGroup G) :
    Keeps within (checkGroup go fx evaluate id g) :=
  .mapError (.bind (.lift _) fun _ => .bind (evaluateContent_keeps keep each g) fun _ => .pure _) _

theorem evaluateMapNode_keeps (keep : fx.Keep within)
    {evaluate : Value G → Stateful τ EvalError Bool} (each : ∀ node, Keeps within (evaluate node))
    (entries : List (String × Value G)) :
    Keeps within (evaluateMapNode go fx scope evaluate entries) := by
  unfold evaluateMapNode
  dsimp only
  split
  · split
    · exact .fail _
    · exact checkGroup_keeps keep each _ _
  · split
    · exact .fail _
    · exact checkRule_keeps keep _ _

theorem evaluateNode_keeps (keep : fx.Keep within)
    {evaluate : Value G → Stateful τ EvalError Bool} (each : ∀ node, Keeps within (evaluate node))
    (node : Value G) : Keeps within (evaluateNode go fx scope evaluate node) := by
  cases node with
  | group g => exact checkGroup_keeps keep each _ _
  | rule r => exact checkRule_keeps keep _ _
  | object entries => exact evaluateMapNode_keeps keep each _
  | _ => exact .fail _

theorem evaluateWithDepth_keeps (keep : fx.Keep within) (maxDepth : Int) (room : Nat)
    (node : Value G) : Keeps within (evaluateWithDepth go fx scope maxDepth room node) := by
  induction room generalizing node with
  | zero => exact .fail _
  | succ room ih => exact .bind keep.visit fun _ => evaluateNode_keeps keep ih node

end Keep

/-! ## Evaluations that simulate each other -/

/-- The operations simulate each other, and so does wrapping an error. -/
structure Effects.Simulated (rel : Relating σ τ EvalError EvalError) (fx : Effects G σ)
    (fx' : Effects G τ) : Prop where
  visit : Simulates rel Eq fx.visit fx'.visit
  formula : ∀ formula, Simulates rel Eq (fx.evaluateFormula formula) (fx'.evaluateFormula formula)
  pattern : ∀ pattern text,
    Simulates rel Eq (fx.matchString pattern text) (fx'.matchString pattern text)
  keep : fx'.Keep rel.within
  refl : ∀ error, rel.errors error error
  wrap : ∀ label label' error other, rel.errors error other →
    label = label' → rel.errors (error.wrap label) (other.wrap label')

/-- Two rules whose operands have values that read alike. -/
structure RuleAlike (go : GoLibrary G) (scope : Scope G)
    (errors : EvalError → EvalError → Prop) (r r' : ConditionRule G) : Prop where
  validate : Agree errors Eq r.validate r'.validate
  formula : r.formula = r'.formula
  op : r.op = r'.op
  left : r.formula = "" → Agree errors (ReadAlike go)
    (evaluateExpression go scope r.left) (evaluateExpression go scope r'.left)
  right : r.formula = "" → r.op.isUnary = false → Agree errors (List.Forall₂ (ReadAlike go))
    (evaluateRightExpression go scope r.right) (evaluateRightExpression go scope r'.right)

structure GroupAlike (errors : EvalError → EvalError → Prop) (g g' : ConditionGroup G) : Prop where
  validate : Agree errors Eq g.validate g'.validate
  formula : g.formula = g'.formula
  conjunction : g.conjunction = g'.conjunction
  not : g.not = g'.not

section Alike

variable {rel : Relating σ τ EvalError EvalError} {fx : Effects G σ} {fx' : Effects G τ}

theorem RuleAlike.refl {errors : EvalError → EvalError → Prop}
    (reflexive : ∀ error, errors error error) (r : ConditionRule G) :
    RuleAlike go scope errors r r where
  validate := .refl reflexive _
  formula := rfl
  op := rfl
  left _ := by
    cases evaluateExpression go scope r.left with
    | ok value => exact .ok (.refl value)
    | error error => exact .error (reflexive error)
  right _ _ := by
    cases evaluateRightExpression go scope r.right with
    | ok values => exact .ok (List.forall₂_same.mpr fun value _ => .refl value)
    | error error => exact .error (reflexive error)

theorem GroupAlike.refl {errors : EvalError → EvalError → Prop}
    (reflexive : ∀ error, errors error error) (g : ConditionGroup G) : GroupAlike errors g g :=
  ⟨.refl reflexive _, rfl, rfl, rfl⟩

theorem applyUnaryOperator_eq (op : OperatorType) {left left' : Value G}
    (alike : ReadAlike go left left') :
    applyUnaryOperator go op left = applyUnaryOperator go op left' := by
  cases op <;> simp only [applyUnaryOperator, alike.empty]

variable (simulated : Effects.Simulated rel fx fx')
include simulated

theorem lift_simulates {α : Type} (outcome : Except EvalError α) :
    Simulates rel Eq (Stateful.lift outcome : Stateful σ EvalError α) (Stateful.lift outcome) :=
  .lift (.refl simulated.refl outcome)

theorem requireBool_simulates (what : String) (value : Value G) :
    Simulates rel Eq (Stateful.lift (requireBool go what value) : Stateful σ EvalError Bool)
      (Stateful.lift (requireBool go what value)) :=
  lift_simulates simulated _

theorem formula_simulates (label what formula : String) :
    Simulates rel Eq
      (do let result ← (fx.evaluateFormula formula).mapError (EvalError.wrap label)
          Stateful.lift (requireBool go what result))
      (do let result ← (fx'.evaluateFormula formula).mapError (EvalError.wrap label)
          Stateful.lift (requireBool go what result)) := by
  refine .bind (.mapError (simulated.formula formula) fun error other related => ?_)
    (fun _ => .lift _) ?_
  · exact simulated.wrap _ _ error other related rfl
  · rintro value _ rfl
    exact requireBool_simulates simulated what value

theorem matchRegexp_simulates {str str' pattern pattern' : Value G}
    (text : ReadAlike go str str') (regexp : ReadAlike go pattern pattern') :
    Simulates rel Eq (matchRegexp go fx str pattern) (matchRegexp go fx' str' pattern') := by
  unfold matchRegexp
  rw [text.null, regexp.null, text.text, regexp.text]
  split
  · exact .pure rfl
  · split
    · exact .fail (simulated.refl _)
    · exact simulated.pattern _ _

/-- Operands that read alike give an operator the same result. -/
theorem applyTo_simulates (op : OperatorType) {left left' : Value G}
    {right right' : List (Value G)} (first : ReadAlike go left left')
    (others : List.Forall₂ (ReadAlike go) right right') :
    Simulates rel Eq (applyTo go fx op left right) (applyTo go fx' op left' right') := by
  have operand (i : Nat) : ReadAlike go (right.getD i .nil) (right'.getD i .nil) := by
    rw [List.getD_eq_getElem?_getD, List.getD_eq_getElem?_getD]
    by_cases inside : i < right.length
    · have inside' : i < right'.length := others.length_eq ▸ inside
      rw [List.getElem?_eq_getElem inside, List.getElem?_eq_getElem inside']
      exact others.get inside inside'
    · have outside' : ¬i < right'.length := others.length_eq ▸ inside
      rw [List.getElem?_eq_none (not_lt.mp inside), List.getElem?_eq_none (not_lt.mp outside')]
      exact .refl .nil
  have low := operand 0
  have high := operand 1
  cases op
  case matchRegexp => exact matchRegexp_simulates simulated first low
  case isEmpty | isNotEmpty | other => exact .fail (simulated.refl _)
  case contains | notContains =>
    refine .pure ?_
    rw [first.containsValue_eq low]
  case startsWith =>
    refine .pure ?_
    rw [first.startsWith_eq low]
  case endsWith =>
    refine .pure ?_
    rw [first.endsWith_eq low]
  case «in» | notIn =>
    refine .pure ?_
    rw [first.inValues_eq others]
  case between | notBetween =>
    refine .pure ?_
    rw [first.compare_eq low, first.compare_eq high]
  all_goals
    refine .pure ?_
    rw [first.compare_eq low]

theorem evaluateRule_simulates {r r' : ConditionRule G}
    (alike : RuleAlike go scope rel.errors r r') :
    Simulates rel Eq (evaluateRule go fx scope r) (evaluateRule go fx' scope r') := by
  have wrapped {α β : Type} {values : α → β → Prop} {one : Except EvalError α}
      {two : Except EvalError β} (label : String) (agree : Agree rel.errors values one two) :
      Simulates rel values (Stateful.lift (one.mapError (EvalError.wrap label)))
        (Stateful.lift (two.mapError (EvalError.wrap label))) :=
    .lift (agree.mapError fun error other related => simulated.wrap _ _ error other related rfl)
  unfold evaluateRule
  rw [← alike.formula, ← alike.op]
  split
  · exact formula_simulates simulated _ _ _
  · rename_i plain
    have plain : r.formula = "" := not_not.mp plain
    refine .bind (wrapped _ (alike.left plain)) (fun left' => ?_) fun left left' leftAlike => ?_
    · split
      · exact .lift _
      · exact .bind (.lift _) fun _ => .bind (.lift _) fun _ => applyTo_keeps simulated.keep _ _ _
    · split
      · rw [applyUnaryOperator_eq r.op leftAlike]
        exact lift_simulates simulated _
      · rename_i binary
        refine .bind (wrapped _ (alike.right plain (Bool.eq_false_iff.mpr binary)))
          (fun _ => .bind (.lift _) fun _ => applyTo_keeps simulated.keep _ _ _)
          fun right right' rightAlike => ?_
        unfold applyOperator
        rw [rightAlike.length_eq]
        exact .bind (lift_simulates simulated _) (fun _ => applyTo_keeps simulated.keep _ _ _)
          fun _ _ _ => applyTo_simulates simulated _ leftAlike rightAlike

theorem checkRule_simulates {r r' : ConditionRule G} {id id' : String}
    (alike : RuleAlike go scope rel.errors r r')
    (labels : ∀ error other, rel.errors error other →
      rel.errors (error.wrap ("rule " ++ id)) (other.wrap ("rule " ++ id'))) :
    Simulates rel Eq (checkRule go fx scope id r) (checkRule go fx' scope id' r') :=
  .mapError (.bind (.lift alike.validate) (fun _ => evaluateRule_keeps simulated.keep r')
    fun _ _ _ => evaluateRule_simulates simulated alike) labels

section Groups

variable {evaluate : Value G → Stateful σ EvalError Bool}
  {evaluate' : Value G → Stateful τ EvalError Bool} {g g' : ConditionGroup G}

theorem evaluateChildren_simulates (keeps : ∀ node, Keeps rel.within (evaluate' node))
    (alike : GroupAlike rel.errors g g')
    (each : List.Forall₂ (fun child child' => Simulates rel Eq (evaluate child) (evaluate' child'))
      g.children g'.children) :
    Simulates rel Eq (evaluateChildren evaluate g) (evaluateChildren evaluate' g') := by
  have indexed : List.Forall₂ (fun (entry entry' : Value G × Nat) =>
      Simulates rel Eq ((evaluate entry.1).mapError (EvalError.wrap ("child " ++ toString entry.2)))
        ((evaluate' entry'.1).mapError (EvalError.wrap ("child " ++ toString entry'.2))))
      g.children.zipIdx g'.children.zipIdx := by
    refine (Simulates.forall₂_zipIdx each 0).imp fun entry entry' related => ?_
    rw [related.2]
    exact .mapError related.1 fun error other same => simulated.wrap _ _ error other same rfl
  unfold evaluateChildren
  rw [alike.conjunction]
  dsimp only
  split
  · exact .allM (fun entry _ => .mapError (keeps entry.1) _) indexed
  · exact .anyM (fun entry _ => .mapError (keeps entry.1) _) indexed

theorem checkGroup_simulates (keeps : ∀ node, Keeps rel.within (evaluate' node))
    (alike : GroupAlike rel.errors g g') {id id' : String}
    (labels : ∀ error other, rel.errors error other →
      rel.errors (error.wrap ("group " ++ id)) (other.wrap ("group " ++ id')))
    (each : g.formula = "" → List.Forall₂
      (fun child child' => Simulates rel Eq (evaluate child) (evaluate' child'))
      g.children g'.children) :
    Simulates rel Eq (checkGroup go fx evaluate id g) (checkGroup go fx' evaluate' id' g') := by
  have content : Simulates rel Eq (evaluateContent go fx evaluate g)
      (evaluateContent go fx' evaluate' g') := by
    unfold evaluateContent
    rw [← alike.formula]
    split
    · exact formula_simulates simulated _ _ _
    · rename_i plain
      exact evaluateChildren_simulates simulated keeps alike (each (not_not.mp plain))
  refine .mapError (.bind (.lift alike.validate)
    (fun _ => .bind (evaluateContent_keeps simulated.keep keeps g') fun _ => .pure _)
    fun _ _ _ => .bind content (fun _ => .pure _) ?_) labels
  rintro result _ rfl
  rw [alike.not]
  exact .pure rfl

end Groups

/-- The same node gives the same result where its children do. -/
theorem evaluateNode_simulates {evaluate : Value G → Stateful σ EvalError Bool}
    {evaluate' : Value G → Stateful τ EvalError Bool}
    (keeps : ∀ node, Keeps rel.within (evaluate' node))
    (each : ∀ node, Simulates rel Eq (evaluate node) (evaluate' node)) (node : Value G) :
    Simulates rel Eq (evaluateNode go fx scope evaluate node)
      (evaluateNode go fx' scope evaluate' node) := by
  have wrap (label : String) (error other : EvalError) (related : rel.errors error other) :
      rel.errors (error.wrap label) (other.wrap label) :=
    simulated.wrap label label error other related rfl
  have group (id : String) (g : ConditionGroup G) : Simulates rel Eq
      (checkGroup go fx evaluate id g) (checkGroup go fx' evaluate' id g) :=
    checkGroup_simulates simulated keeps (.refl simulated.refl g) (wrap ("group " ++ id))
      fun _ => List.forall₂_same.mpr fun child _ => each child
  have rule (id : String) (r : ConditionRule G) : Simulates rel Eq
      (checkRule go fx scope id r) (checkRule go fx' scope id r) :=
    checkRule_simulates simulated (.refl simulated.refl r) (wrap ("rule " ++ id))
  cases node with
  | group g => exact group g.id g
  | rule r => exact rule r.id r
  | object entries =>
    unfold evaluateNode evaluateMapNode
    dsimp only
    split
    · split
      · exact .fail (simulated.refl _)
      · exact group _ _
    · split
      · exact .fail (simulated.refl _)
      · exact rule _ _
  | _ => exact .fail (simulated.refl _)

/-- The same tree gives the same result. -/
theorem evaluateWithDepth_simulates (maxDepth : Int) (room : Nat) (node : Value G) :
    Simulates rel Eq (evaluateWithDepth go fx scope maxDepth room node)
      (evaluateWithDepth go fx' scope maxDepth room node) := by
  induction room generalizing node with
  | zero => exact .fail (simulated.refl _)
  | succ room ih =>
    have keeps (node : Value G) :
        Keeps rel.within (evaluateWithDepth go fx' scope maxDepth room node) :=
      evaluateWithDepth_keeps simulated.keep maxDepth room node
    exact .bind simulated.visit (fun _ => evaluateNode_keeps simulated.keep keeps node)
      fun _ _ _ => evaluateNode_simulates simulated keeps ih node

theorem evaluate_simulates (maxDepth : Int) (root : Value G) :
    Simulates rel Eq (evaluate go fx scope maxDepth root)
      (evaluate go fx' scope maxDepth root) := by
  unfold evaluate
  split
  · exact .fail (simulated.refl _)
  · exact evaluateWithDepth_simulates simulated maxDepth _ root

end Alike

end ErpFinance.Condition
