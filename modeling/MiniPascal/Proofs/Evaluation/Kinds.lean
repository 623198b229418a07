import MiniPascal.Proofs.Evaluation.DefiniteAssignment

set_option autoImplicit false

namespace MiniPascal

inductive NumberKind where
  | integer
  | real
deriving DecidableEq

def Number.kind : Number → NumberKind
  | .integer _ => .integer
  | .real _ => .real

-- Quotients are real, and a real operand makes any other result real.
def BinaryOp.kind : BinaryOp → NumberKind → NumberKind → NumberKind
  | .realDiv, _, _ => .real
  | _, .integer, .integer => .integer
  | _, _, _ => .real

abbrev Kinds := String → Option NumberKind

-- Without a kind for every name in it, an expression has none either.
def Expr.kind (kinds : Kinds) : Expr → Option NumberKind
  | .binary left op right => do return op.kind (← left.kind kinds) (← right.kind kinds)
  | .unary _ operand => operand.kind kinds
  | .number value => some value.kind
  | .var name => kinds name

namespace Kinds

def assign (kinds : Kinds) (step : String × Expr) : Kinds :=
  fun name => if name = step.1 then step.2.kind kinds else kinds name

def assignAll (kinds : Kinds) (steps : List (String × Expr)) : Kinds :=
  steps.foldl assign kinds

def after (steps : List (String × Expr)) : Kinds :=
  assignAll (fun _ => none) steps

def Describes (kinds : Kinds) (scope : Scope) : Prop :=
  ∀ name, kinds name = (scope.lookup name).map Number.kind

theorem assignAll_of_notMem {steps : List (String × Expr)} {name : String} (kinds : Kinds)
    (other : name ∉ steps.map Prod.fst) : kinds.assignAll steps name = kinds name := by
  induction steps generalizing kinds with
  | nil => rfl
  | cons step rest ih =>
    rw [List.map_cons, List.mem_cons, not_or] at other
    rw [assignAll, List.foldl_cons, ← assignAll, ih _ other.2, assign, if_neg other.1]

theorem after_last {before rest : List (String × Expr)} {name : String} {value : Expr}
    (last : name ∉ rest.map Prod.fst) :
    after (before ++ (name, value) :: rest) name = value.kind (after before) := by
  have behind : after (before ++ (name, value) :: rest) =
      ((after before).assign (name, value)).assignAll rest := by
    simp [after, assignAll]
  rw [behind, assignAll_of_notMem _ last, assign, if_pos rfl]

end Kinds

def BinaryOp.operation? : BinaryOp → Option Operation
  | .plus => some .addition
  | .minus => some .subtraction
  | .times => some .multiplication
  | .integerDiv => some .division
  | .realDiv => none

def UnaryOp.operation? : UnaryOp → Option Operation
  | .plus => none
  | .minus => some .negation

def BinaryOp.Foretold (op : BinaryOp) (l r : NumberKind) : Except ArithmeticError Number → Prop
  | .ok v => op.kind l r = v.kind
  | .error (.overflow operation) => op.operation? = some operation ∧ l = .integer ∧ r = .integer
  | .error .divisionByZero => True

def UnaryOp.Foretold (op : UnaryOp) (n : NumberKind) : Except ArithmeticError Number → Prop
  | .ok v => n = v.kind
  | .error (.overflow operation) => op.operation? = some operation ∧ n = .integer
  | .error .divisionByZero => True

theorem Number.combine_foretold {op : BinaryOp} {operation : Operation}
    (isOperation : op.operation? = some operation) (onIntegers : Int64 → Int64 → Option Int64)
    (onReals : Float → Float → Float) (l r : Number) :
    op.Foretold l.kind r.kind (combine operation onIntegers onReals l r) := by
  have realLeft (k : NumberKind) : op.kind .real k = .real := by cases op <;> rfl
  have realRight (k : NumberKind) : op.kind k .real = .real := by cases op <;> cases k <;> rfl
  cases l with
  | real => exact realLeft _
  | integer i =>
    cases r with
    | real => exact realRight _
    | integer j =>
      change op.Foretold .integer .integer (fitted operation (onIntegers i j))
      cases onIntegers i j with
      | none => exact ⟨isOperation, rfl, rfl⟩
      | some v =>
        cases op with
        | realDiv => cases isOperation
        | _ => rfl

theorem BinaryOp.apply_foretold (op : BinaryOp) (l r : Number) :
    op.Foretold l.kind r.kind (op.apply l r) := by
  cases op with
  | plus => exact Number.combine_foretold rfl _ _ l r
  | minus => exact Number.combine_foretold rfl _ _ l r
  | times => exact Number.combine_foretold rfl _ _ l r
  | integerDiv =>
    rw [apply, Number.integerDiv]
    split
    next => trivial
    next => exact Number.combine_foretold rfl _ _ l r
  | realDiv =>
    rw [apply, Number.realDiv]
    split
    next => trivial
    next => rfl

theorem UnaryOp.apply_foretold (op : UnaryOp) (n : Number) : op.Foretold n.kind (op.apply n) := by
  cases op with
  | plus => rfl
  | minus =>
    cases n with
    | real => rfl
    | integer i =>
      change UnaryOp.Foretold .minus .integer (Number.fitted .negation (Number.narrow? (-i.toInt)))
      cases Number.narrow? (-i.toInt) with
      | none => exact ⟨rfl, rfl⟩
      | some v => rfl

namespace Expr

/-- Evaluation gets as far as an operation inside the expression, which fails although its operands have
values. -/
inductive FailsAt (scope : Scope) (error : ArithmeticError) : Expr → Expr → Prop where
  | binary {left right : Expr} {op : BinaryOp} {l r : Number} (leftValue : left.eval scope = .ok l)
      (rightValue : right.eval scope = .ok r) (fails : op.apply l r = .error error) :
      FailsAt scope error (.binary left op right) (.binary left op right)
  | unary {operand : Expr} {op : UnaryOp} {n : Number} (value : operand.eval scope = .ok n)
      (fails : op.apply n = .error error) : FailsAt scope error (.unary op operand) (.unary op operand)
  | inLeft {left right place : Expr} {op : BinaryOp} (inside : FailsAt scope error left place) :
      FailsAt scope error (.binary left op right) place
  | inRight {left right place : Expr} {op : BinaryOp} {l : Number} (leftValue : left.eval scope = .ok l)
      (inside : FailsAt scope error right place) : FailsAt scope error (.binary left op right) place
  | inOperand {operand place : Expr} {op : UnaryOp} (inside : FailsAt scope error operand place) :
      FailsAt scope error (.unary op operand) place

def OnIntegers (kinds : Kinds) (operation : Operation) : Expr → Prop
  | .binary left op right =>
    op.operation? = some operation ∧ left.kind kinds = some .integer ∧ right.kind kinds = some .integer
  | .unary op operand => op.operation? = some operation ∧ operand.kind kinds = some .integer
  | .number _ | .var _ => False

variable {scope : Scope} {kinds : Kinds}

def Foretold (scope : Scope) (kinds : Kinds) (e : Expr) : Except EvalError Number → Prop
  | .ok v => e.kind kinds = some v.kind
  | .error (.arithmetic (.overflow operation)) =>
    ∃ place, e.FailsAt scope (.overflow operation) place ∧ place.OnIntegers kinds operation
  | .error _ => True

theorem Foretold.outer {inner outer : Expr} {error : EvalError}
    (foretold : inner.Foretold scope kinds (.error error))
    (inside : ∀ {error place}, inner.FailsAt scope error place → outer.FailsAt scope error place) :
    outer.Foretold scope kinds (.error error) := by
  match error with
  | .arithmetic (.overflow operation) =>
    obtain ⟨place, fails, integers⟩ := foretold
    exact ⟨place, inside fails, integers⟩
  | .arithmetic .divisionByZero => trivial
  | .unassigned name => trivial

theorem binary_foretold {left right : Expr} {op : BinaryOp} {l r : Number}
    (leftValue : left.eval scope = .ok l) (rightValue : right.eval scope = .ok r)
    (leftKind : left.kind kinds = some l.kind) (rightKind : right.kind kinds = some r.kind) :
    (binary left op right).Foretold scope kinds ((op.apply l r).mapError .arithmetic) := by
  have foretold := op.apply_foretold l r
  match result : op.apply l r with
  | .ok v =>
    rw [result] at foretold
    change (binary left op right).kind kinds = some v.kind
    rw [kind, leftKind, rightKind, ← foretold]
    rfl
  | .error (.overflow operation) =>
    rw [result] at foretold
    obtain ⟨isOperation, leftInteger, rightInteger⟩ := foretold
    rw [leftInteger] at leftKind
    rw [rightInteger] at rightKind
    exact ⟨_, .binary leftValue rightValue result, isOperation, leftKind, rightKind⟩
  | .error .divisionByZero => trivial

theorem unary_foretold {operand : Expr} {op : UnaryOp} {n : Number} (value : operand.eval scope = .ok n)
    (isKind : operand.kind kinds = some n.kind) :
    (unary op operand).Foretold scope kinds ((op.apply n).mapError .arithmetic) := by
  have foretold := op.apply_foretold n
  match result : op.apply n with
  | .ok v =>
    rw [result] at foretold
    exact isKind.trans (congrArg some foretold)
  | .error (.overflow operation) =>
    rw [result] at foretold
    obtain ⟨isOperation, isInteger⟩ := foretold
    rw [isInteger] at isKind
    exact ⟨_, .unary value result, isOperation, isKind⟩
  | .error .divisionByZero => trivial

theorem eval_foretold (describes : kinds.Describes scope) (e : Expr) :
    e.Foretold scope kinds (e.eval scope) := by
  induction e with
  | number value => rfl
  | var name =>
    rw [eval]
    cases found : scope.lookup name with
    | some value => exact (describes name).trans (by rw [found]; rfl)
    | none => trivial
  | unary op operand ih =>
    rw [eval]
    cases value : operand.eval scope with
    | error e =>
      rw [value] at ih
      exact ih.outer .inOperand
    | ok n =>
      rw [value] at ih
      exact unary_foretold value ih
  | binary left op right ihLeft ihRight =>
    rw [eval]
    cases leftValue : left.eval scope with
    | error e =>
      rw [leftValue] at ihLeft
      exact ihLeft.outer .inLeft
    | ok l =>
      cases rightValue : right.eval scope with
      | error e =>
        rw [rightValue] at ihRight
        exact ihRight.outer (.inRight leftValue)
      | ok r =>
        rw [leftValue] at ihLeft
        rw [rightValue] at ihRight
        exact binary_foretold leftValue rightValue ihLeft ihRight

end Expr

namespace Kinds

variable {kinds : Kinds} {scope final : Scope}

theorem describes_insert (describes : kinds.Describes scope) {target : String} {value : Expr}
    {number : Number} (isKind : value.kind kinds = some number.kind) :
    (kinds.assign (target, value)).Describes (scope.insert target number) := by
  intro name
  by_cases same : name = target
  next => simp [assign, same, isKind]
  next => simp [assign, same, describes name]

theorem describes_scopeAfter (describes : kinds.Describes scope) {steps : List (String × Expr)}
    (ran : Statement.scopeAfter steps scope = .ok final) : (kinds.assignAll steps).Describes final := by
  induction steps generalizing kinds scope with
  | nil =>
    cases ran
    exact describes
  | cons step rest ih =>
    obtain ⟨number, evaluated, ranRest⟩ := Statement.scopeAfter_cons ran
    have foretold := step.2.eval_foretold describes
    rw [evaluated] at foretold
    exact ih (describes_insert describes foretold) ranRest

theorem describes_after {steps : List (String × Expr)}
    (ran : Statement.scopeAfter steps .empty = .ok final) : (after steps).Describes final :=
  describes_scopeAfter (fun _ => rfl) ran

end Kinds

namespace Statement

theorem scopeAfter_error {steps : List (String × Expr)} {scope : Scope} {error : EvalError}
    (failed : scopeAfter steps scope = .error error) :
    ∃ before target value rest earlier, steps = before ++ (target, value) :: rest ∧
      scopeAfter before scope = .ok earlier ∧ value.eval earlier = .error error := by
  induction steps generalizing scope with
  | nil => cases failed
  | cons step rest ih =>
    rw [scopeAfter] at failed
    cases evaluated : step.2.eval scope with
    | error e =>
      rw [evaluated] at failed
      cases failed
      exact ⟨[], step.1, step.2, rest, scope, rfl, rfl, evaluated⟩
    | ok number =>
      rw [evaluated] at failed
      obtain ⟨before, target, value, rest, earlier, rfl, ran, fails⟩ := ih failed
      refine ⟨step :: before, target, value, rest, earlier, rfl, ?_, fails⟩
      rw [scopeAfter, evaluated]
      exact ran

theorem exists_last {steps : List (String × Expr)} {name : String}
    (assigned : name ∈ steps.map Prod.fst) :
    ∃ before value rest, steps = before ++ (name, value) :: rest ∧ name ∉ rest.map Prod.fst := by
  induction steps with
  | nil => cases assigned
  | cons step rest ih =>
    by_cases later : name ∈ rest.map Prod.fst
    next =>
      obtain ⟨before, value, rest, rfl, last⟩ := ih later
      exact ⟨step :: before, value, rest, rfl, last⟩
    next =>
      obtain rfl : name = step.1 := (List.mem_cons.1 assigned).resolve_right later
      exact ⟨[], step.2, rest, rfl, later⟩

end Statement

/-- If evaluation succeeds, each value is of the kind of the expression last assigned to its name. If it
overflows, the operation that fails is on operands of the kind integer. Kinds depend on the assignments
alone. -/
theorem evaluate_kinds (p : Program) :
    (∀ scope, p.evaluate = .ok scope → ∀ name value, scope.lookup name = some value →
      ∃ before e rest, p.assignments = before ++ (name, e) :: rest ∧ name ∉ rest.map Prod.fst ∧
        e.kind (Kinds.after before) = some value.kind) ∧
    ∀ operation, p.evaluate = .error (.arithmetic (.overflow operation)) →
      ∃ before target e rest earlier place, p.assignments = before ++ (target, e) :: rest ∧
        (p.making before).evaluate = .ok earlier ∧
        e.FailsAt earlier (.overflow operation) place ∧
        place.OnIntegers (Kinds.after before) operation := by
  rw [p.evaluate_eq_scopeAfter]
  refine ⟨fun scope ran name value found => ?_, fun operation failed => ?_⟩
  · have assigned : name ∈ p.assignments.map Prod.fst := by
      have known : name ∈ scope.names := NameMap.mem_names_iff.2 (by rw [found]; rfl)
      simpa [NameMap.mem_names_iff] using (Statement.mem_names_scopeAfter ran).1 known
    obtain ⟨before, e, rest, split, last⟩ := Statement.exists_last assigned
    have kind := Kinds.describes_after ran name
    rw [split, Kinds.after_last last, found] at kind
    exact ⟨before, e, rest, split, last, kind⟩
  · obtain ⟨before, target, e, rest, earlier, split, ran, fails⟩ := Statement.scopeAfter_error failed
    have foretold := e.eval_foretold (Kinds.describes_after ran)
    rw [fails] at foretold
    obtain ⟨place, failsAt, integers⟩ := foretold
    exact ⟨before, target, e, rest, earlier, place, split, (p.evaluate_making before).trans ran,
      failsAt, integers⟩

end MiniPascal
