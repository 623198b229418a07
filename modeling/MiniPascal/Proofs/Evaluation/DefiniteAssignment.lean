import MiniPascal.Proofs.Syntax.Assignments

set_option autoImplicit false

namespace MiniPascal

structure Read where
  name : String
  assigned : List String

namespace Read

def Ready (r : Read) : Prop :=
  r.name ∈ r.assigned

-- The reads of assignments in order. A target counts for the reads behind its assignment.
def ofAssignments (assigned : List String) : List (String × Expr) → List Read
  | [] => []
  | (target, value) :: rest =>
    value.reads.map (fun name => ⟨name, assigned⟩) ++ ofAssignments (target :: assigned) rest

def FirstEarly (reads : List Read) (name : String) : Prop :=
  ∃ r, FirstNot Ready reads r ∧ r.name = name

end Read

def Scope.Knows (scope : Scope) (assigned : List String) : Prop :=
  ∀ name, (scope.lookup name).isSome ↔ name ∈ assigned

theorem Scope.Knows.insert {scope : Scope} {assigned : List String} (knows : scope.Knows assigned)
    (target : String) (value : Number) :
    Scope.Knows (scope.insert target value) (target :: assigned) := by
  intro name
  by_cases same : name = target <;> simp [same, knows name]

def EndsAfter {α : Type} (reads : List Read) : Except EvalError α → Prop
  | .ok _ => ∀ r ∈ reads, r.Ready
  | .error (.unassigned name) => Read.FirstEarly reads name
  | .error (.arithmetic _) => True

theorem EndsAfter.bind {α β : Type} {first rest : List Read} {x : Except EvalError α}
    {f : α → Except EvalError β} (ends : EndsAfter first x) (endsRest : ∀ a, EndsAfter rest (f a)) :
    EndsAfter (first ++ rest) (x >>= f) := by
  cases x with
  | error e =>
    cases e with
    | unassigned name =>
      obtain ⟨r, isFirst, same⟩ := ends
      exact ⟨r, isFirst.append rest, same⟩
    | arithmetic error => trivial
  | ok a =>
    have next := endsRest a
    change EndsAfter (first ++ rest) (f a)
    cases result : f a with
    | ok b =>
      rw [result] at next
      simpa only [EndsAfter, List.forall_mem_append] using ⟨ends, next⟩
    | error e =>
      rw [result] at next
      cases e with
      | unassigned name =>
        obtain ⟨r, isFirst, same⟩ := next
        exact ⟨r, isFirst.behind ends, same⟩
      | arithmetic error => trivial

theorem EndsAfter.arithmetic {α : Type} (x : Except ArithmeticError α) :
    EndsAfter [] (x.mapError EvalError.arithmetic) := by
  cases x with
  | ok a => exact List.forall_mem_nil _
  | error e => trivial

theorem Expr.eval_endsAfter {scope : Scope} {assigned : List String} (knows : scope.Knows assigned)
    (e : Expr) : EndsAfter (e.reads.map fun name => ⟨name, assigned⟩) (e.eval scope) := by
  induction e with
  | binary left op right ihLeft ihRight =>
    rw [reads, List.map_append]
    apply ihLeft.bind
    intro l
    rw [← List.append_nil (List.map _ right.reads)]
    apply ihRight.bind
    intro r
    exact .arithmetic _
  | unary op operand ih =>
    rw [reads, ← List.append_nil (List.map _ operand.reads)]
    apply ih.bind
    intro n
    exact .arithmetic _
  | number value => exact List.forall_mem_nil _
  | var name =>
    rw [eval]
    cases found : scope.lookup name with
    | some value =>
      have ready : name ∈ assigned := (knows name).1 (by rw [found]; rfl)
      exact List.forall_mem_singleton.2 ready
    | none =>
      have notReady : name ∉ assigned := fun among => by simpa [found] using (knows name).2 among
      exact ⟨⟨name, assigned⟩, ⟨[], [], rfl, notReady, List.forall_mem_nil _⟩, rfl⟩

namespace Statement

variable {scope final : Scope}

theorem scopeAfter_endsAfter {assigned : List String} (knows : scope.Knows assigned)
    (steps : List (String × Expr)) :
    EndsAfter (Read.ofAssignments assigned steps) (scopeAfter steps scope) := by
  induction steps generalizing scope assigned with
  | nil => exact List.forall_mem_nil _
  | cons step rest ih =>
    apply (step.2.eval_endsAfter knows).bind
    intro number
    exact ih (knows.insert step.1 number)

theorem scopeAfter_cons {target : String} {value : Expr} {rest : List (String × Expr)}
    (ran : scopeAfter ((target, value) :: rest) scope = .ok final) :
    ∃ number, value.eval scope = .ok number ∧
      scopeAfter rest (scope.insert target number) = .ok final := by
  rw [scopeAfter] at ran
  cases evaluated : value.eval scope with
  | error e =>
    rw [evaluated] at ran
    cases ran
  | ok number =>
    rw [evaluated] at ran
    exact ⟨number, rfl, ran⟩

theorem lookup_scopeAfter {steps : List (String × Expr)} {name : String}
    (ran : scopeAfter steps scope = .ok final) (other : name ∉ steps.map Prod.fst) :
    final.lookup name = scope.lookup name := by
  induction steps generalizing scope with
  | nil =>
    cases ran
    rfl
  | cons step rest ih =>
    obtain ⟨number, -, ranRest⟩ := scopeAfter_cons ran
    rw [List.map_cons, List.mem_cons, not_or] at other
    rw [ih ranRest other.2, NameMap.lookup_insert, if_neg other.1]

theorem mem_names_scopeAfter {steps : List (String × Expr)} {name : String}
    (ran : scopeAfter steps scope = .ok final) :
    name ∈ final.names ↔ name ∈ steps.map Prod.fst ∨ name ∈ scope.names := by
  induction steps generalizing scope with
  | nil =>
    cases ran
    simp
  | cons step rest ih =>
    obtain ⟨number, -, ranRest⟩ := scopeAfter_cons ran
    rw [ih ranRest, List.map_cons, List.mem_cons]
    simp only [NameMap.mem_names_iff, NameMap.lookup_insert]
    by_cases same : name = step.1 <;> simp [same]

theorem lookup_scopeAfter_last {before after : List (String × Expr)} {name : String} {value : Expr}
    (ran : scopeAfter (before ++ (name, value) :: after) scope = .ok final)
    (last : name ∉ after.map Prod.fst) :
    ∃ earlier number, scopeAfter before scope = .ok earlier ∧ value.eval earlier = .ok number ∧
      final.lookup name = some number := by
  rw [scopeAfter_append] at ran
  cases ranBefore : scopeAfter before scope with
  | error e =>
    rw [ranBefore] at ran
    cases ran
  | ok earlier =>
    rw [ranBefore] at ran
    obtain ⟨number, evaluated, ranAfter⟩ := scopeAfter_cons ran
    refine ⟨earlier, number, rfl, evaluated, ?_⟩
    rw [lookup_scopeAfter ranAfter last, NameMap.lookup_insert, if_pos rfl]

theorem assignmentsAll_assign (steps : List (String × Expr)) :
    assignmentsAll (steps.map fun step => .assign step.1 step.2) = steps := by
  induction steps with
  | nil => rfl
  | cons step rest ih => simp [assignmentsAll, assignments, ih]

end Statement

namespace Program

def targets (p : Program) : List String :=
  p.assignments.map Prod.fst

def reads (p : Program) : List Read :=
  Read.ofAssignments [] p.assignments

def making (p : Program) (steps : List (String × Expr)) : Program :=
  { p with body := steps.map fun step => .assign step.1 step.2 }

theorem evaluate_making (p : Program) (steps : List (String × Expr)) :
    (p.making steps).evaluate = Statement.scopeAfter steps .empty := by
  rw [evaluate_eq_scopeAfter, assignments, making, Statement.assignmentsAll_assign]

end Program

/-- If evaluation succeeds, no read came before an assignment to its name, exactly the targets have
values, and each has the one of its last assignment. If it fails for a name, that is the name of the
first read that came too early. If there is such a read, it fails. -/
theorem evaluate_reads_assigned (p : Program) :
    (∀ scope, p.evaluate = .ok scope →
      (∀ r ∈ p.reads, r.Ready) ∧
      (∀ name, name ∈ scope.names ↔ name ∈ p.targets) ∧
      ∀ before name value after, p.assignments = before ++ (name, value) :: after →
        name ∉ after.map Prod.fst →
        ∃ earlier number, (p.making before).evaluate = .ok earlier ∧
          value.eval earlier = .ok number ∧ scope.lookup name = some number) ∧
    (∀ name, p.evaluate = .error (.unassigned name) → Read.FirstEarly p.reads name) ∧
    ((∃ r ∈ p.reads, ¬ r.Ready) → ∃ e, p.evaluate = .error e) := by
  have knows : Scope.Knows .empty [] := by simp [Scope.Knows]
  have ends : EndsAfter p.reads p.evaluate := by
    rw [p.evaluate_eq_scopeAfter]
    exact Statement.scopeAfter_endsAfter knows p.assignments
  refine ⟨fun scope evaluated => ⟨?_, fun name => ?_, ?_⟩, fun name failed => ?_, fun early => ?_⟩
  · rw [evaluated] at ends
    exact ends
  · rw [p.evaluate_eq_scopeAfter] at evaluated
    rw [Statement.mem_names_scopeAfter evaluated]
    simp [Program.targets, NameMap.mem_names_iff]
  · intro before name value after same last
    rw [p.evaluate_eq_scopeAfter, same] at evaluated
    rw [p.evaluate_making]
    exact Statement.lookup_scopeAfter_last evaluated last
  · rw [failed] at ends
    exact ends
  · obtain ⟨r, among, notReady⟩ := early
    cases evaluated : p.evaluate with
    | error e => exact ⟨e, rfl⟩
    | ok scope =>
      rw [evaluated] at ends
      exact absurd (ends r among) notReady

end MiniPascal
