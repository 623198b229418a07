import MiniPascal.Proofs.Naming.Table
import MiniPascal.Naming.Resolve
import MiniPascal.Proofs.Syntax.Assignments

set_option autoImplicit false

namespace MiniPascal

inductive Use where
  | read (name : String)
  | target (name : String)
deriving DecidableEq

namespace Use

def name : Use → String
  | .read name | .target name => name

def error : Use → NameError
  | .read name => .notFound name
  | .target name => .notDeclared name

-- In every assignment the reads come first, from left to right, and then the target.
def ofAssignments (steps : List (String × Expr)) : List Use :=
  steps.flatMap fun step => step.2.reads.map .read ++ [.target step.1]

def checkAll (table : SymbolTable) : List Use → Except NameError Unit
  | [] => return
  | u :: rest => if (table.lookup u.name).isSome then checkAll table rest else throw u.error

variable {table : SymbolTable}

theorem checkAll_append (first rest : List Use) :
    checkAll table (first ++ rest) = (do checkAll table first; checkAll table rest) := by
  induction first with
  | nil => rfl
  | cons u first ih =>
    rw [List.cons_append, checkAll, checkAll, ih]
    split <;> rfl

theorem checkAll_of_mem {u : Use} (known : u.name ∈ table.names) (rest : List Use) :
    checkAll table (u :: rest) = checkAll table rest := by
  rw [checkAll, if_pos (table.mem_names_iff.1 known)]

theorem checkAll_of_notMem {u : Use} (unknown : u.name ∉ table.names) (rest : List Use) :
    checkAll table (u :: rest) = .error u.error := by
  rw [checkAll, if_neg fun found => unknown (table.mem_names_iff.2 found)]
  rfl

theorem checkAll_cases (table : SymbolTable) (uses : List Use) :
    (checkAll table uses = .ok () ∧ ∀ u ∈ uses, u.name ∈ table.names) ∨
      ∃ u, checkAll table uses = .error u.error ∧ FirstNot (·.name ∈ table.names) uses u := by
  induction uses with
  | nil => exact .inl ⟨rfl, List.forall_mem_nil _⟩
  | cons u rest ih =>
    by_cases known : u.name ∈ table.names
    next =>
      rw [checkAll_of_mem known]
      rcases ih with ⟨checked, allKnown⟩ | ⟨v, failed, isFirst⟩
      · exact .inl ⟨checked, List.forall_mem_cons.2 ⟨known, allKnown⟩⟩
      · exact .inr ⟨v, failed, isFirst.behind (List.forall_mem_singleton.2 known)⟩
    next =>
      rw [checkAll_of_notMem known]
      exact .inr ⟨u, rfl, [], rest, rfl, known, List.forall_mem_nil _⟩

end Use

theorem Expr.check_eq (table : SymbolTable) (e : Expr) :
    e.check table = Use.checkAll table (e.reads.map .read) := by
  induction e with
  | binary left op right ihLeft ihRight =>
    rw [check, reads, List.map_append, Use.checkAll_append, ihLeft, ihRight]
  | unary op operand ih => rw [check, reads, ih]
  | number value => rfl
  | var name => rfl

namespace Statement

mutual

theorem check_eq (table : SymbolTable) : (s : Statement) →
    s.check table = Use.checkAll table (Use.ofAssignments s.assignments)
  | .compound body => by rw [check, assignments, checkAll_eq table body]
  | .assign target value => by
    rw [check, assignments, Use.ofAssignments, List.flatMap_singleton, Use.checkAll_append,
      value.check_eq]
    rfl
  | .noOp => rfl

theorem checkAll_eq (table : SymbolTable) : (body : List Statement) →
    checkAll table body = Use.checkAll table (Use.ofAssignments (assignmentsAll body))
  | [] => rfl
  | s :: rest => by
    have split : Use.ofAssignments (assignmentsAll (s :: rest)) =
        Use.ofAssignments s.assignments ++ Use.ofAssignments (assignmentsAll rest) :=
      List.flatMap_append
    rw [split, Use.checkAll_append, checkAll, check_eq table s, checkAll_eq table rest]

end

end Statement

namespace Program

def uses (p : Program) : List Use :=
  Use.ofAssignments p.assignments

def declaredNames (p : Program) : List String :=
  p.declarations.map Declaration.name

theorem names_symbols (p : Program) : p.symbols.map Symbol.name = p.declaredNames := by
  rw [symbols, declaredNames, List.map_map]
  rfl

theorem resolve_eq_checkAll (p : Program) :
    p.resolve = (do Use.checkAll p.table p.uses; return p.table) := by
  rw [resolve, Statement.checkAll_eq, uses, assignments]

theorem resolve_cases (p : Program) :
    (p.resolve = .ok p.table ∧ ∀ u ∈ p.uses, u.name ∈ p.table.names) ∨
      ∃ u, p.resolve = .error u.error ∧ FirstNot (·.name ∈ p.table.names) p.uses u := by
  rw [p.resolve_eq_checkAll]
  rcases Use.checkAll_cases p.table p.uses with ⟨checked, known⟩ | ⟨u, failed, isFirst⟩
  · exact .inl ⟨by rw [checked]; rfl, known⟩
  · exact .inr ⟨u, by rw [failed]; rfl, isFirst⟩

end Program

end MiniPascal
