import MiniPascal.Proofs.Naming.Resolution

set_option autoImplicit false

namespace MiniPascal

theorem Use.checkAll_congr {table table' : SymbolTable}
    (same : ∀ name, name ∈ table.names ↔ name ∈ table'.names) (uses : List Use) :
    checkAll table uses = checkAll table' uses := by
  induction uses with
  | nil => rfl
  | cons u rest ih =>
    by_cases known : u.name ∈ table.names
    next =>
      have known' := (same u.name).1 known
      rw [checkAll_of_mem known, checkAll_of_mem known', ih]
    next =>
      have unknown' : u.name ∉ table'.names := fun known' => known ((same u.name).2 known')
      rw [checkAll_of_notMem known, checkAll_of_notMem unknown']

namespace Program

variable {p q : Program}

def nameCheck (p : Program) : Except Error Unit :=
  (Use.checkAll p.table p.uses).mapError .name

theorem result_resolve_eq (p : Program) :
    (Stage.resolve p).result = (do p.nameCheck; return p.table) := by
  rw [Stage.result_resolve, resolve_eq_checkAll, nameCheck]
  cases Use.checkAll p.table p.uses <;> rfl

theorem resolve_error_iff (p : Program) (e : Error) :
    (Stage.resolve p).result = .error e ↔ p.nameCheck = .error e := by
  rw [result_resolve_eq]
  cases p.nameCheck with
  | ok _ => exact ⟨nofun, nofun⟩
  | error e' =>
    constructor
    next =>
      rintro ⟨⟩
      rfl
    next =>
      rintro ⟨⟩
      rfl

theorem result_run_eq (p : Program) :
    (Stage.run p).result = (do p.nameCheck; (Stage.evaluate p).result) := by
  rw [Stage.result_run, result_resolve_eq]
  cases p.nameCheck <;> rfl

theorem nameCheck_congr (steps : p.assignments = q.assignments)
    (names : ∀ name, name ∈ p.declaredNames ↔ name ∈ q.declaredNames) :
    p.nameCheck = q.nameCheck := by
  have known (name : String) : name ∈ p.table.names ↔ name ∈ q.table.names := by
    rw [mem_names_table, mem_names_table, names]
  rw [nameCheck, nameCheck, uses, uses, steps, Use.checkAll_congr known]

theorem result_evaluate_congr (steps : p.assignments = q.assignments) :
    (Stage.evaluate p).result = (Stage.evaluate q).result := by
  rw [Stage.result_evaluate, Stage.result_evaluate, evaluate_eq_scopeAfter, evaluate_eq_scopeAfter, steps]

end Program

/-- Two programs that make the same assignments in the same order evaluate alike. If they also declare
the same names, in whatever way, they run alike, and name resolution fails for both with the same error
or for neither. -/
theorem run_of_same_assignments {p q : Program} (steps : p.assignments = q.assignments) :
    (Stage.evaluate p).result = (Stage.evaluate q).result ∧
    ((∀ name, name ∈ p.declaredNames ↔ name ∈ q.declaredNames) →
      (Stage.run p).result = (Stage.run q).result ∧
      ∀ e, (Stage.resolve p).result = .error e ↔ (Stage.resolve q).result = .error e) := by
  have evaluated := Program.result_evaluate_congr steps
  refine ⟨evaluated, fun names => ?_⟩
  have checked := Program.nameCheck_congr steps names
  constructor
  · rw [p.result_run_eq, q.result_run_eq, checked, evaluated]
  · intro e
    rw [p.resolve_error_iff, q.resolve_error_iff, checked]

-- The same two assignments, once nested on the left and once on the right. The second reads a name
-- that neither program declares.
def nestedLeft : Program :=
  ⟨"P", [⟨"x", .integer⟩], [.compound [.noOp, .assign "x" (.number (.integer 1))],
    .assign "x" (.binary (.var "y") .plus (.var "x"))]⟩

def nestedRight : Program :=
  ⟨"Q", [⟨"x", .integer⟩, ⟨"x", .real⟩], [.assign "x" (.number (.integer 1)),
    .compound [.compound [.assign "x" (.binary (.var "y") .plus (.var "x"))]], .noOp]⟩

theorem run_of_same_assignments_nested :
    (Stage.run nestedLeft).result = (Stage.run nestedRight).result ∧
      (Stage.resolve nestedRight).result = .error (.name (.notFound "y")) := by
  have names (name : String) : name ∈ nestedLeft.declaredNames ↔ name ∈ nestedRight.declaredNames := by
    simp [Program.declaredNames, nestedLeft, nestedRight]
  obtain ⟨runs, fails⟩ := (run_of_same_assignments (p := nestedLeft) (q := nestedRight) rfl).2 names
  exact ⟨runs, (fails _).1 rfl⟩

end MiniPascal
