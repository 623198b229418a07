import MiniPascal.Proofs.Naming.Rearrangement

set_option autoImplicit false

namespace MiniPascal

theorem NameMap.insert_comm {α : Type} (map : NameMap α) {a b : String} (differ : a ≠ b) (x y : α) :
    (map.insert a x).insert b y = (map.insert b y).insert a x := by
  apply ext_lookup
  intro name
  by_cases isA : name = a
  next => simp [isA, differ]
  next => simp [isA]

namespace Expr

variable {scope scope' : Scope}

theorem eval_congr (e : Expr) (same : ∀ name ∈ e.reads, scope.lookup name = scope'.lookup name) :
    e.eval scope = e.eval scope' := by
  induction e with
  | binary left op right ihLeft ihRight =>
    simp only [reads, List.forall_mem_append] at same
    rw [eval, eval, ihLeft same.1, ihRight same.2]
  | unary op operand ih => rw [eval, eval, ih same]
  | number value => rfl
  | var name => rw [eval, eval, same name (List.mem_singleton_self name)]

theorem eval_insert_of_unread {e : Expr} {name : String} (unread : name ∉ e.reads) (value : Number) :
    e.eval (scope.insert name value) = e.eval scope := by
  apply eval_congr
  intro other read
  have differ : other ≠ name := fun same => unread (same ▸ read)
  rw [NameMap.lookup_insert, if_neg differ]

end Expr

/-- Two assignments to different names, neither of which reads what the other one assigns. -/
structure Independent (first second : String × Expr) : Prop where
  targets : first.1 ≠ second.1
  first_unread : first.1 ∉ second.2.reads
  second_unread : second.1 ∉ first.2.reads

section Success

variable {ε ε' α β : Type}

theorem toOption_bind (x : Except ε α) (f : α → Except ε β) :
    (x >>= f).toOption = x.toOption.bind fun a => (f a).toOption := by
  cases x <;> rfl

theorem toOption_mapError (x : Except ε α) (f : ε → ε') : (x.mapError f).toOption = x.toOption := by
  cases x <;> rfl

end Success

section Exchange

variable {first second : String × Expr}

namespace Statement

theorem scopeAfter_exchange (independent : Independent first second) (rest : List (String × Expr))
    (scope : Scope) :
    (scopeAfter (first :: second :: rest) scope).toOption =
      (scopeAfter (second :: first :: rest) scope).toOption := by
  simp only [scopeAfter, toOption_bind, Expr.eval_insert_of_unread independent.first_unread,
    Expr.eval_insert_of_unread independent.second_unread]
  cases first.2.eval scope with
  | error e => cases second.2.eval scope <;> rfl
  | ok x =>
    cases second.2.eval scope with
    | error e => rfl
    | ok y =>
      have sameScope := scope.insert_comm independent.targets x y
      exact congrArg (fun after => (scopeAfter rest after).toOption) sameScope

theorem scopeAfter_exchange_behind (independent : Independent first second)
    (before after : List (String × Expr)) (scope : Scope) :
    (scopeAfter (before ++ first :: second :: after) scope).toOption =
      (scopeAfter (before ++ second :: first :: after) scope).toOption := by
  simp only [scopeAfter_append, toOption_bind, scopeAfter_exchange independent]

end Statement

theorem Use.checkAll_ok_iff (table : SymbolTable) (uses : List Use) :
    checkAll table uses = .ok () ↔ ∀ u ∈ uses, u.name ∈ table.names := by
  rcases checkAll_cases table uses with ⟨checked, known⟩ | ⟨u, failed, isFirst⟩
  · exact ⟨fun _ => known, fun _ => checked⟩
  · rw [failed]
    exact ⟨nofun, fun known => absurd known isFirst.not_forall⟩

/-- The second program makes the assignments of the first one, with two neighbours in exchanged order.
Both have the same declarations; how their assignments are nested makes no difference. -/
structure Program.Exchanges (p q : Program) (first second : String × Expr) : Prop where
  declarations : p.declarations = q.declarations
  assignments : ∃ before after, p.assignments = before ++ first :: second :: after ∧
    q.assignments = before ++ second :: first :: after

namespace Program.Exchanges

variable {p q : Program}

theorem table (exchanges : p.Exchanges q first second) : p.table = q.table := by
  rw [Program.table, Program.table, symbols, symbols, exchanges.declarations]

theorem mem_uses (exchanges : p.Exchanges q first second) (u : Use) : u ∈ p.uses ↔ u ∈ q.uses := by
  obtain ⟨before, after, inP, inQ⟩ := exchanges.assignments
  have sameSteps (step : String × Expr) : step ∈ p.assignments ↔ step ∈ q.assignments := by
    rw [inP, inQ, List.mem_append, List.mem_append]
    exact or_congr_right ((List.Perm.swap second first after).mem_iff)
  simp only [uses, Use.ofAssignments, List.mem_flatMap, sameSteps]

theorem nameCheck (exchanges : p.Exchanges q first second) :
    p.nameCheck.toOption = q.nameCheck.toOption := by
  have success : Use.checkAll p.table p.uses = .ok () ↔ Use.checkAll q.table q.uses = .ok () := by
    simp only [Use.checkAll_ok_iff, exchanges.table, exchanges.mem_uses]
  unfold Program.nameCheck
  cases inP : Use.checkAll p.table p.uses with
  | ok => rw [success.1 inP]
  | error e =>
    cases inQ : Use.checkAll q.table q.uses with
    | ok => cases inP.symm.trans (success.2 inQ)
    | error e' => rfl

end Program.Exchanges

end Exchange

/-- Exchanging two independent neighbours among the assignments of a program changes neither whether it
evaluates, resolves or runs, nor what it then results in. -/
theorem exchange_of_independent {p q : Program} {first second : String × Expr}
    (independent : Independent first second) (exchanges : p.Exchanges q first second) :
    (Stage.evaluate p).result.toOption = (Stage.evaluate q).result.toOption ∧
    (Stage.resolve p).result.toOption = (Stage.resolve q).result.toOption ∧
    (Stage.run p).result.toOption = (Stage.run q).result.toOption := by
  have evaluated : (Stage.evaluate p).result.toOption = (Stage.evaluate q).result.toOption := by
    obtain ⟨before, after, inP, inQ⟩ := exchanges.assignments
    have scopes := Statement.scopeAfter_exchange_behind independent before after .empty
    rw [Stage.result_evaluate, Stage.result_evaluate, toOption_mapError, toOption_mapError,
      Program.evaluate_eq_scopeAfter, Program.evaluate_eq_scopeAfter, inP, inQ, scopes]
  refine ⟨evaluated, ?_, ?_⟩
  · rw [p.result_resolve_eq, q.result_resolve_eq, toOption_bind, toOption_bind, exchanges.nameCheck,
      exchanges.table]
  · rw [p.result_run_eq, q.result_run_eq, toOption_bind, toOption_bind, exchanges.nameCheck, evaluated]

-- Neither name is declared, so each program fails name resolution for the one that it assigns first.
def aboveThenBelow : Program :=
  ⟨"P", [], [.assign "above" (.number (.integer 1)), .compound [.assign "below" (.number (.integer 2))]]⟩

def belowThenAbove : Program :=
  ⟨"P", [], [.compound [.noOp, .assign "below" (.number (.integer 2))],
    .assign "above" (.number (.integer 1))]⟩

theorem exchange_of_independent_undeclared :
    (Stage.evaluate aboveThenBelow).result.toOption = (Stage.evaluate belowThenAbove).result.toOption ∧
      (Stage.evaluate belowThenAbove).result.toOption.map NameMap.names = some ["above", "below"] ∧
      (Stage.run aboveThenBelow).result.toOption = (Stage.run belowThenAbove).result.toOption ∧
      (Stage.run aboveThenBelow).result = .error (.name (.notDeclared "above")) ∧
      (Stage.run belowThenAbove).result = .error (.name (.notDeclared "below")) := by
  have independent :
      Independent ("above", .number (.integer 1)) ("below", .number (.integer 2)) :=
    ⟨by decide, List.not_mem_nil, List.not_mem_nil⟩
  obtain ⟨evaluated, -, ran⟩ := exchange_of_independent independent
    (p := aboveThenBelow) (q := belowThenAbove) ⟨rfl, [], [], rfl, rfl⟩
  exact ⟨evaluated, by decide, ran, rfl, rfl⟩

end MiniPascal
