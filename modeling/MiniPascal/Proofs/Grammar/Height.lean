import MiniPascal.Proofs.Grammar.Derivation
import MiniPascal.Proofs.Syntax.Assignments

set_option autoImplicit false

namespace MiniPascal

@[simp] def Expr.height : Expr → Nat
  | .binary left _ right => max left.height right.height + 1
  | .unary _ operand => operand.height + 1
  | .number _ | .var _ => 1

theorem Expr.one_le_height (e : Expr) : 1 ≤ e.height := by
  cases e <;> simp [height]

def factorHeight : (depth : Nat) → Nat
  | 0 => 0
  | 1 => 1
  | 2 => 2
  | n + 3 => (n * n + n + 10) / 3

def termHeight (depth : Nat) : Nat :=
  factorHeight (depth - 1) + (depth - 2)

def exprHeight (depth : Nat) : Nat :=
  termHeight (depth - 1) + (depth - 3)

theorem factorHeight_succ (n : Nat) : factorHeight n + 1 ≤ factorHeight (n + 1) := by
  match n with
  | 0 | 1 | 2 | 3 => decide
  | n + 4 =>
    have square : (n + 1) * (n + 1) = n * n + 2 * n + 1 := by
      rw [Nat.mul_add, Nat.add_mul]
      omega
    have next : (n + 2) * (n + 2) = n * n + 4 * n + 4 := by
      rw [Nat.mul_add, Nat.add_mul]
      omega
    simp only [factorHeight, square, next]
    omega

-- In parentheses there is room for a product and a sum of so many operators each.
theorem factorHeight_add_three (n : Nat) : factorHeight (n + 1) + 2 * n ≤ factorHeight (n + 4) := by
  match n with
  | 0 | 1 => decide
  | n + 2 =>
    have square : (n + 3) * (n + 3) = n * n + 6 * n + 9 := by
      rw [Nat.mul_add, Nat.add_mul]
      omega
    simp only [factorHeight, square]
    omega

theorem factorHeight_mono {m n : Nat} (le : m ≤ n) : factorHeight m ≤ factorHeight n := by
  induction le with
  | refl => exact Nat.le_refl _
  | step _ ih => exact Nat.le_trans ih (Nat.le_trans (Nat.le_succ _) (factorHeight_succ _))

theorem termHeight_mono {m n : Nat} (le : m ≤ n) : termHeight m ≤ termHeight n := by
  have factors : factorHeight (m - 1) ≤ factorHeight (n - 1) := factorHeight_mono (by omega)
  simp only [termHeight]
  omega

theorem exprHeight_mono {m n : Nat} (le : m ≤ n) : exprHeight m ≤ exprHeight n := by
  have terms : termHeight (m - 1) ≤ termHeight (n - 1) := termHeight_mono (by omega)
  simp only [exprHeight]
  omega

theorem exprHeight_le_factorHeight (n : Nat) : exprHeight (n + 3) ≤ factorHeight (n + 4) := by
  have := factorHeight_add_three n
  simp only [exprHeight, termHeight, Nat.add_sub_cancel, Nat.reduceSubDiff]
  omega

namespace Derivation

theorem one_le_depth : (d : Derivation .factor) → 1 ≤ d.depth
  | .signed _ _ | .number _ | .parens _ | .var _ => Nat.succ_pos _

theorem two_le_depth : (d : Derivation .term) → 2 ≤ d.depth
  | .term first _ => by
    have := first.one_le_depth
    simp only [depth]
    omega

theorem three_le_depth : (d : Derivation .expr) → 3 ≤ d.depth
  | .expr first _ => by
    have := first.two_le_depth
    simp only [depth]
    omega

/-- The rest of a chain adds to what stands on its left, which may be as high as any operand of the
chain. Operands of depth `d` are at most `highest d` high, and none takes less than `least` levels. -/
def LowChain (highest : Nat → Nat) (least depth : Nat) (join : Expr → Expr) : Prop :=
  ∀ left bound, left.height ≤ bound → highest (depth - 1) ≤ bound →
    (join left).height ≤ bound + (depth - least)

def Low : {n : Nonterminal} → Derivation n → Prop
  | .factor, d => d.tree.height ≤ factorHeight d.depth
  | .term, d => d.tree.height ≤ termHeight d.depth
  | .expr, d => d.tree.height ≤ exprHeight d.depth
  | .termRest, d => LowChain factorHeight 1 d.depth d.tree
  | .exprRest, d => LowChain termHeight 2 d.depth d.tree
  | .assignment, d | .statement, d =>
    ∀ a ∈ d.tree.assignments, a.2.height ≤ exprHeight (d.depth - 1)
  | .statements, d => ∀ a ∈ Statement.assignmentsAll d.tree, a.2.height ≤ exprHeight (d.depth - 1)
  | .compound, d => ∀ a ∈ Statement.assignmentsAll d.tree, a.2.height ≤ exprHeight (d.depth - 2)
  | .block, d => ∀ a ∈ Statement.assignmentsAll d.tree.2, a.2.height ≤ exprHeight (d.depth - 3)
  | .program, d => ∀ a ∈ d.tree.assignments, a.2.height ≤ exprHeight (d.depth - 4)

section

variable {highest : Nat → Nat} (mono : ∀ {m n}, m ≤ n → highest m ≤ highest n)
  {least first rest : Nat} {operand : Expr} {join : Expr → Expr}

include mono

theorem LowChain.more (enough : least ≤ first) (lowOperand : operand.height ≤ highest first)
    (lowRest : LowChain highest least rest join) (op : BinaryOp) :
    LowChain highest least (max first rest + 1) fun left => join (.binary left op operand) := by
  intro left bound leftLow chainLow
  have operandLow : operand.height ≤ bound :=
    Nat.le_trans lowOperand (Nat.le_trans (mono (by omega)) chainLow)
  have joinedLow : (Expr.binary left op operand).height ≤ bound + 1 := by
    simp only [Expr.height]
    omega
  have restLow : highest (rest - 1) ≤ bound + 1 :=
    Nat.le_trans (mono (by omega)) (Nat.le_succ_of_le chainLow)
  exact Nat.le_trans (lowRest _ (bound + 1) joinedLow restLow) (by omega)

theorem LowChain.whole (lowFirst : operand.height ≤ highest first)
    (lowRest : LowChain highest least rest join) :
    (join operand).height ≤ highest (max first rest) + (max first rest - least) := by
  have added := lowRest operand (highest (max first rest))
    (Nat.le_trans lowFirst (mono (by omega))) (mono (by omega))
  omega

end

theorem low_parens {inner : Derivation .expr} (lowInner : inner.Low) : (parens inner).Low := by
  obtain ⟨n, same⟩ := Nat.exists_eq_add_of_le' inner.three_le_depth
  have within := exprHeight_le_factorHeight n
  simp only [Low, tree, depth] at lowInner ⊢
  rw [same] at lowInner ⊢
  exact Nat.le_trans lowInner within

theorem low {n : Nonterminal} (d : Derivation n) : d.Low := by
  induction d with
  | program title content ih =>
    intro a among
    exact Nat.le_trans (ih a among) (exprHeight_mono (by simp only [depth]; omega))
  | block groups body ih =>
    intro a among
    exact Nat.le_trans (ih a among) (exprHeight_mono (by simp only [depth]; omega))
  | compound first rest ihFirst ihRest =>
    intro a among
    rcases List.mem_append.1 among with among | among
    · exact Nat.le_trans (ihFirst a among) (exprHeight_mono (by simp only [depth]; omega))
    · exact Nat.le_trans (ihRest a among) (exprHeight_mono (by simp only [depth]; omega))
  | noStatements | empty => exact fun _ among => absurd among List.not_mem_nil
  | moreStatements next rest ihNext ihRest =>
    intro a among
    rcases List.mem_append.1 among with among | among
    · exact Nat.le_trans (ihNext a among) (exprHeight_mono (by simp only [depth]; omega))
    · exact Nat.le_trans (ihRest a among) (exprHeight_mono (by simp only [depth]; omega))
  | nested body ih =>
    intro a among
    have among : a ∈ Statement.assignmentsAll body.tree := by
      simpa only [tree, Statement.assignments] using among
    exact Nat.le_trans (ih a among) (exprHeight_mono (by simp only [depth]; omega))
  | assigning step ih => exact ih
  | assignment target value ih =>
    intro a among
    obtain rfl : a = (target, value.tree) := List.mem_singleton.1 among
    exact ih
  | expr first rest ihFirst ihRest => exact LowChain.whole termHeight_mono ihFirst ihRest
  | noTerms => exact fun left bound leftLow _ => leftLow
  | moreTerms op operand rest ihOperand ihRest =>
    exact LowChain.more termHeight_mono operand.two_le_depth ihOperand ihRest op.binary
  | term first rest ihFirst ihRest => exact LowChain.whole factorHeight_mono ihFirst ihRest
  | noFactors => exact fun left bound leftLow _ => leftLow
  | moreFactors op operand rest ihOperand ihRest =>
    exact LowChain.more factorHeight_mono operand.one_le_depth ihOperand ihRest op.binary
  | signed op operand ih =>
    exact Nat.le_trans (Nat.succ_le_succ ih) (factorHeight_succ operand.depth)
  | parens inner ih => exact low_parens ih
  | number value | var name => exact Nat.le_refl 1

section Loads

@[simp] def folds : {n : Nonterminal} → Derivation n → Nat
  | _, .moreTerms _ _ rest | _, .moreFactors _ _ rest => rest.folds + 1
  | _, _ => 0

/-- For every name and number, how many operators are applied to what it is a part of: the signs before
it, and in each chain around it the operator before its operand and all operators behind. -/
@[simp] def loads : {n : Nonterminal} → Derivation n → List Nat
  | _, .program _ content => content.loads
  | _, .block _ body => body.loads
  | _, .compound first rest | _, .moreStatements first rest => first.loads ++ rest.loads
  | _, .noStatements | _, .empty | _, .noTerms | _, .noFactors => []
  | _, .nested body => body.loads
  | _, .assigning step => step.loads
  | _, .assignment _ value => value.loads
  | _, .expr first rest => first.loads.map (· + rest.folds) ++ rest.loads
  | _, .moreTerms _ operand rest => operand.loads.map (· + (rest.folds + 1)) ++ rest.loads
  | _, .term first rest => first.loads.map (· + rest.folds) ++ rest.loads
  | _, .moreFactors _ operand rest => operand.loads.map (· + (rest.folds + 1)) ++ rest.loads
  | _, .signed _ operand => operand.loads.map (· + 1)
  | _, .number _ | _, .var _ => [0]
  | _, .parens inner => inner.loads

def IsPeak (height : Nat) (loads : List Nat) : Prop :=
  ∀ b, height ≤ b ↔ ∀ k ∈ loads, k < b

def HeightByLoads : {n : Nonterminal} → Derivation n → Prop
  | .factor, d | .term, d | .expr, d => IsPeak d.tree.height d.loads
  | .termRest, d | .exprRest, d => ∀ (left : Expr) (b : Nat),
    (d.tree left).height ≤ b ↔ left.height + d.folds ≤ b ∧ ∀ k ∈ d.loads, k < b
  | .assignment, d | .statement, d =>
    ∀ b, (∀ a ∈ d.tree.assignments, a.2.height ≤ b) ↔ ∀ k ∈ d.loads, k < b
  | .statements, d | .compound, d =>
    ∀ b, (∀ a ∈ Statement.assignmentsAll d.tree, a.2.height ≤ b) ↔ ∀ k ∈ d.loads, k < b
  | .block, d =>
    ∀ b, (∀ a ∈ Statement.assignmentsAll d.tree.2, a.2.height ≤ b) ↔ ∀ k ∈ d.loads, k < b
  | .program, d => ∀ b, (∀ a ∈ d.tree.assignments, a.2.height ≤ b) ↔ ∀ k ∈ d.loads, k < b

section

variable {b f left right : Nat} {loads others : List Nat}

theorem IsPeak.add (peak : IsPeak left loads) (pos : 1 ≤ left) (f : Nat) :
    IsPeak (left + f) (loads.map (· + f)) := by
  intro b
  rw [List.forall_mem_map]
  by_cases room : f ≤ b
  next =>
    have height : left + f ≤ b ↔ left ≤ b - f := by omega
    have load (k : Nat) : k + f < b ↔ k < b - f := by omega
    simp only [height, load]
    exact peak (b - f)
  next =>
    -- A height that is not zero comes from some load.
    constructor
    · intro low
      omega
    · intro light
      have zero : left ≤ 0 := (peak 0).2 fun k among => absurd (light k among) (by omega)
      omega

theorem IsPeak.chain (peak : IsPeak left loads) (pos : 1 ≤ left) :
    left + f ≤ b ∧ (∀ k ∈ others, k < b) ↔ ∀ k ∈ loads.map (· + f) ++ others, k < b := by
  rw [peak.add pos f b, List.forall_mem_append]

theorem IsPeak.fold (peak : IsPeak right loads) (pos : 1 ≤ right) :
    max left right + 1 + f ≤ b ∧ (∀ k ∈ others, k < b) ↔
      left + (f + 1) ≤ b ∧ ∀ k ∈ loads.map (· + (f + 1)) ++ others, k < b := by
  have both : max left right + 1 + f ≤ b ↔ left + (f + 1) ≤ b ∧ right + (f + 1) ≤ b := by omega
  rw [both, and_assoc, peak.chain pos]

end

theorem heightByLoads {n : Nonterminal} (d : Derivation n) : d.HeightByLoads := by
  induction d with
  | program title content ih => exact ih
  | block groups body ih => exact ih
  | compound first rest ihFirst ihRest =>
    intro b
    simp only [tree, loads, Statement.assignmentsAll, List.forall_mem_append]
    exact and_congr (ihFirst b) (ihRest b)
  | noStatements | empty =>
    intro b
    simp [Statement.assignments, Statement.assignmentsAll]
  | moreStatements next rest ihNext ihRest =>
    intro b
    simp only [tree, loads, Statement.assignmentsAll, List.forall_mem_append]
    exact and_congr (ihNext b) (ihRest b)
  | nested body ih =>
    intro b
    simp only [tree, loads, Statement.assignments]
    exact ih b
  | assigning step ih => exact ih
  | assignment target value ih =>
    intro b
    simp only [tree, loads, Statement.assignments, List.forall_mem_singleton]
    exact ih b
  | expr first rest ihFirst ihRest =>
    exact fun b => (ihRest first.tree b).trans (IsPeak.chain ihFirst first.tree.one_le_height)
  | term first rest ihFirst ihRest =>
    exact fun b => (ihRest first.tree b).trans (IsPeak.chain ihFirst first.tree.one_le_height)
  | noTerms | noFactors =>
    intro left b
    simp
  | moreTerms op operand rest ihOperand ihRest =>
    exact fun left b => (ihRest (.binary left op.binary operand.tree) b).trans
      (IsPeak.fold ihOperand operand.tree.one_le_height)
  | moreFactors op operand rest ihOperand ihRest =>
    exact fun left b => (ihRest (.binary left op.binary operand.tree) b).trans
      (IsPeak.fold ihOperand operand.tree.one_le_height)
  | signed op operand ih => exact IsPeak.add ih operand.tree.one_le_height 1
  | parens inner ih => exact ih
  | number value | var name =>
    intro b
    simp only [tree, loads, Expr.height, List.forall_mem_singleton]
    omega

end Loads

section Highest

def signs : Nat → Derivation .factor
  | 0 => .var "x"
  | n + 1 => .signed .minus (signs n)

def factors : Nat → Derivation .termRest
  | 0 => .noFactors
  | n + 1 => .moreFactors .times (.var "x") (factors n)

def terms : Nat → Derivation .exprRest
  | 0 => .noTerms
  | n + 1 => .moreTerms .plus (.term (.var "x") .noFactors) (terms n)

def folded (n : Nat) (first : Derivation .factor) : Derivation .expr :=
  .expr (.term first (factors n)) (terms n)

theorem depth_signs (n : Nat) : (signs n).depth = n + 1 := by
  induction n with
  | zero => rfl
  | succ n ih => rw [signs, depth, ih]

theorem height_signs (n : Nat) : (signs n).tree.height = n + 1 := by
  induction n with
  | zero => rfl
  | succ n ih => rw [signs, tree, Expr.height, ih]

theorem depth_factors_le (n : Nat) : (factors n).depth ≤ n + 1 := by
  induction n with
  | zero => exact Nat.zero_le _
  | succ n ih =>
    simp only [factors, depth]
    omega

theorem depth_terms_le (n : Nat) : (terms n).depth ≤ n + 2 := by
  induction n with
  | zero => exact Nat.zero_le _
  | succ n ih =>
    simp only [terms, depth]
    omega

theorem height_factors (n : Nat) (left : Expr) : ((factors n).tree left).height = left.height + n := by
  induction n generalizing left with
  | zero => rfl
  | succ n ih =>
    have := left.one_le_height
    simp only [factors, tree, ih, Expr.height]
    omega

theorem height_terms (n : Nat) (left : Expr) : ((terms n).tree left).height = left.height + n := by
  induction n generalizing left with
  | zero => rfl
  | succ n ih =>
    have := left.one_le_height
    simp only [terms, tree, ih, Expr.height]
    omega

theorem depth_folded_le (n : Nat) (first : Derivation .factor) :
    (folded n first).depth ≤ max first.depth (n + 1) + 2 := by
  have factors := depth_factors_le n
  have terms := depth_terms_le n
  simp only [folded, depth]
  omega

theorem height_folded (n : Nat) (first : Derivation .factor) :
    (folded n first).tree.height = first.tree.height + 2 * n := by
  simp only [folded, tree, height_terms, height_factors]
  omega

def highestFactor : (depth : Nat) → Derivation .factor
  | n + 6 => .parens (folded (n + 2) (highestFactor (n + 3)))
  | n => signs (n - 1)

theorem depth_highestFactor_le (n : Nat) : (highestFactor (n + 1)).depth ≤ n + 1 := by
  induction n using Nat.strongRecOn with
  | ind n ih =>
    match n with
    | 0 | 1 | 2 | 3 | 4 => decide
    | n + 5 =>
      have inner : (highestFactor (n + 3)).depth ≤ n + 3 := ih (n + 2) (by omega)
      have around := depth_folded_le (n + 2) (highestFactor (n + 3))
      simp only [highestFactor, depth]
      omega

theorem height_highestFactor (n : Nat) :
    (highestFactor (n + 1)).tree.height = factorHeight (n + 1) := by
  induction n using Nat.strongRecOn with
  | ind n ih =>
    match n with
    | 0 | 1 | 2 | 3 | 4 => decide
    | n + 5 =>
      have square : (n + 3) * (n + 3) = n * n + 6 * n + 9 := by
        rw [Nat.mul_add, Nat.add_mul]
        omega
      have inner := ih (n + 2) (by omega)
      simp only [highestFactor, tree, height_folded, inner, factorHeight, square]
      omega

theorem exprHeight_attained (n : Nat) :
    (folded n (highestFactor (n + 1))).depth ≤ n + 3 ∧
      (folded n (highestFactor (n + 1))).tree.height = exprHeight (n + 3) := by
  have inner := depth_highestFactor_le n
  have around := depth_folded_le n (highestFactor (n + 1))
  refine ⟨by omega, ?_⟩
  rw [height_folded, height_highestFactor]
  simp only [exprHeight, termHeight, Nat.add_sub_cancel, Nat.reduceSubDiff]
  omega

end Highest

end Derivation

end MiniPascal
