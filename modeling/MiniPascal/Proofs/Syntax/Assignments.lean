import MiniPascal.Evaluate

set_option autoImplicit false

namespace MiniPascal

section FirstNot

variable {α : Type} {good : α → Prop} {xs : List α} {x : α}

def FirstNot (good : α → Prop) (xs : List α) (x : α) : Prop :=
  ∃ before after, xs = before ++ x :: after ∧ ¬ good x ∧ ∀ y ∈ before, good y

theorem FirstNot.append (isFirst : FirstNot good xs x) (more : List α) :
    FirstNot good (xs ++ more) x := by
  obtain ⟨before, after, rfl, bad, goodBefore⟩ := isFirst
  exact ⟨before, after ++ more, by simp, bad, goodBefore⟩

theorem FirstNot.behind {first : List α} (isFirst : FirstNot good xs x)
    (goodFirst : ∀ y ∈ first, good y) : FirstNot good (first ++ xs) x := by
  obtain ⟨before, after, rfl, bad, goodBefore⟩ := isFirst
  exact ⟨first ++ before, after, by simp, bad, List.forall_mem_append.2 ⟨goodFirst, goodBefore⟩⟩

theorem FirstNot.congr {good' : α → Prop} (isFirst : FirstNot good xs x)
    (same : ∀ y ∈ xs, good y ↔ good' y) : FirstNot good' xs x := by
  obtain ⟨before, after, rfl, bad, goodBefore⟩ := isFirst
  refine ⟨before, after, rfl, fun isGood => bad ((same x (by simp)).2 isGood), fun y among => ?_⟩
  exact (same y (by simp [among])).1 (goodBefore y among)

theorem FirstNot.not_forall (isFirst : FirstNot good xs x) : ¬ ∀ y ∈ xs, good y := by
  obtain ⟨before, after, rfl, bad, -⟩ := isFirst
  exact fun all => bad (all x (by simp))

end FirstNot

def Expr.reads : Expr → List String
  | .binary left _ right => left.reads ++ right.reads
  | .unary _ operand => operand.reads
  | .number _ => []
  | .var name => [name]

mutual

def Statement.assignments : Statement → List (String × Expr)
  | .compound body => Statement.assignmentsAll body
  | .assign target value => [(target, value)]
  | .noOp => []

def Statement.assignmentsAll : List Statement → List (String × Expr)
  | [] => []
  | s :: rest => s.assignments ++ Statement.assignmentsAll rest

end

namespace Statement

def makeAll : List (String × Expr) → Execution Unit
  | [] => return
  | (target, value) :: rest => do
    assigning target value
    makeAll rest

theorem makeAll_append (first rest : List (String × Expr)) :
    makeAll (first ++ rest) = (do makeAll first; makeAll rest) := by
  induction first with
  | nil => rfl
  | cons step first ih =>
    rw [List.cons_append, makeAll, ih]
    funext memory
    simp only [makeAll, bind, EStateM.bind]
    cases assigning step.1 step.2 memory <;> rfl

mutual

theorem execute_eq_makeAll : (s : Statement) → s.execute = makeAll s.assignments
  | .compound body => by rw [execute, assignments, executeAll_eq_makeAll body]
  | .assign target value => by
    rw [execute, assignments]
    funext memory
    simp only [makeAll, bind, EStateM.bind]
    cases assigning target value memory <;> rfl
  | .noOp => by rw [execute, assignments, makeAll]

theorem executeAll_eq_makeAll :
    (body : List Statement) → executeAll body = makeAll (assignmentsAll body)
  | [] => by rw [executeAll, assignmentsAll, makeAll]
  | s :: rest => by
    rw [executeAll, assignmentsAll, makeAll_append, execute_eq_makeAll s, executeAll_eq_makeAll rest]

end

theorem assigning_apply (target : String) (value : Expr) (memory : Memory) :
    assigning target value memory =
      (match value.eval memory.scope with
      | .ok number => modify (·.assign target number)
      | .error e => throw e : Execution Unit) memory := rfl

def scopeAfter : List (String × Expr) → Scope → Except EvalError Scope
  | [], scope => return scope
  | (target, value) :: rest, scope => do
    let number ← value.eval scope
    scopeAfter rest (scope.insert target number)

theorem scopeAfter_append (first rest : List (String × Expr)) (scope : Scope) :
    scopeAfter (first ++ rest) scope = (do scopeAfter rest (← scopeAfter first scope)) := by
  induction first generalizing scope with
  | nil => rfl
  | cons step first ih =>
    simp only [List.cons_append, scopeAfter, ih]
    cases step.2.eval scope <;> rfl

def finalScope : EStateM.Result EvalError Memory Unit → Except EvalError Scope
  | .ok _ memory => .ok memory.scope
  | .error e _ => .error e

theorem finalScope_makeAll (steps : List (String × Expr)) (memory : Memory) :
    finalScope (makeAll steps memory) = scopeAfter steps memory.scope := by
  induction steps generalizing memory with
  | nil => rfl
  | cons step rest ih =>
    obtain ⟨target, value⟩ := step
    cases evaluated : value.eval memory.scope with
    | ok number =>
      have assigned : assigning target value memory = .ok () (memory.assign target number) := by
        rw [assigning_apply, evaluated]
        rfl
      have step : makeAll ((target, value) :: rest) memory = makeAll rest (memory.assign target number) := by
        simp only [makeAll, bind, EStateM.bind, assigned]
      rw [step, ih, scopeAfter, evaluated]
      rfl
    | error e =>
      have failed : assigning target value memory = .error e memory := by
        rw [assigning_apply, evaluated]
        rfl
      have step : makeAll ((target, value) :: rest) memory = .error e memory := by
        simp only [makeAll, bind, EStateM.bind, failed]
      rw [step, scopeAfter, evaluated]
      rfl

end Statement

namespace Program

def assignments (p : Program) : List (String × Expr) :=
  Statement.assignmentsAll p.body

theorem evaluate_eq_scopeAfter (p : Program) :
    p.evaluate = Statement.scopeAfter p.assignments .empty := by
  have run : p.execute = Statement.makeAll p.assignments .blank := by
    rw [execute, assignments, Statement.executeAll_eq_makeAll]
  rw [evaluate, run]
  exact Statement.finalScope_makeAll p.assignments .blank

end Program

end MiniPascal
