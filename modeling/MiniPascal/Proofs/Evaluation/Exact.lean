import MiniPascal.Proofs.Evaluation.Arithmetic
import MiniPascal.Proofs.Syntax.Assignments

set_option autoImplicit false

namespace MiniPascal

def Expr.IsIntegral : Expr → Prop
  | .binary left op right => left.IsIntegral ∧ op ≠ .realDiv ∧ right.IsIntegral
  | .unary _ operand => operand.IsIntegral
  | .number (.integer _) => True
  | .number (.real _) => False
  | .var _ => True

namespace Exact

-- The range is from the 63rd power of 2, negated, up to just below that power.
def inRange (operation : Operation) (n : Int) : Except EvalError Int :=
  if -9223372036854775808 ≤ n ∧ n ≤ 9223372036854775807 then .ok n
  else .error (.arithmetic (.overflow operation))

def binary : (op : BinaryOp) → op ≠ .realDiv → Int → Int → Except EvalError Int
  | .plus, _, l, r => inRange .addition (l + r)
  | .minus, _, l, r => inRange .subtraction (l - r)
  | .times, _, l, r => inRange .multiplication (l * r)
  | .integerDiv, _, l, r =>
    if r = 0 then .error (.arithmetic .divisionByZero) else inRange .division (l.fdiv r)
  | .realDiv, isIntegral, _, _ => absurd rfl isIntegral

def unary : UnaryOp → Int → Except EvalError Int
  | .plus, n => .ok n
  | .minus, n => inRange .negation (-n)

abbrev Values := String → Option Int

def eval (values : Values) : (e : Expr) → e.IsIntegral → Except EvalError Int
  | .binary left op right, isIntegral => do
    let l ← eval values left isIntegral.1
    let r ← eval values right isIntegral.2.2
    binary op isIntegral.2.1 l r
  | .unary op operand, isIntegral => do
    let n ← eval values operand isIntegral
    unary op n
  | .number (.integer value), _ => .ok value.toInt
  | .var name, _ =>
    match values name with
    | some n => .ok n
    | none => .error (.unassigned name)

def run : (steps : List (String × Expr)) → (∀ a ∈ steps, a.2.IsIntegral) → Values →
    Except EvalError Values
  | [], _, values => .ok values
  | (target, value) :: rest, isIntegral, values => do
    let n ← eval values value (isIntegral _ List.mem_cons_self)
    run rest (fun a among => isIntegral a (List.mem_cons_of_mem _ among))
      fun name => if name = target then some n else values name

end Exact

/-- Two computations fail alike, or both succeed with related values. -/
def Alike {α β : Type} (related : α → β → Prop) : Except EvalError α → Except EvalError β → Prop
  | .ok a, .ok b => related a b
  | .error e, .error e' => e = e'
  | .ok _, .error _ | .error _, .ok _ => False

theorem Alike.bind {α β γ δ : Type} {related : α → β → Prop} {last : γ → δ → Prop}
    {x : Except EvalError α} {y : Except EvalError β} {f : α → Except EvalError γ}
    {g : β → Except EvalError δ} (first : Alike related x y)
    (second : ∀ a b, related a b → Alike last (f a) (g b)) : Alike last (x >>= f) (y >>= g) := by
  cases x with
  | ok a =>
    cases y with
    | ok b => exact second a b first
    | error e => exact first.elim
  | error e =>
    cases y with
    | ok b => exact first.elim
    | error e' => exact first

namespace Exact

def Denotes (number : Number) (n : Int) : Prop :=
  ∃ value : Int64, number = .integer value ∧ n = value.toInt

def Describes (values : Values) (scope : Scope) : Prop :=
  ∀ name, ∃ value : Option Int64,
    scope.lookup name = value.map .integer ∧ values name = value.map Int64.toInt

theorem fitted_alike (operation : Operation) (n : Int) :
    Alike Denotes ((Number.fitted operation (Number.narrow? n)).mapError .arithmetic)
      (inRange operation n) := by
  by_cases fits : -9223372036854775808 ≤ n ∧ n ≤ 9223372036854775807
  next =>
    obtain ⟨value, narrowed, same⟩ := Number.narrow?_of_fits fits
    rw [narrowed, inRange, if_pos fits]
    exact ⟨value, rfl, same.symm⟩
  next =>
    have refused : Number.narrow? n = none := if_neg fits
    rw [refused, inRange, if_neg fits]
    rfl

theorem integerDiv_alike (l r : Int64) :
    Alike Denotes ((Number.integerDiv (.integer l) (.integer r)).mapError .arithmetic)
      (binary .integerDiv (by simp) l.toInt r.toInt) := by
  by_cases isZero : r = 0
  next =>
    subst isZero
    rfl
  next =>
    have nonzero : r.toInt ≠ 0 := fun h => isZero (Number.toInt_eq_zero_iff.1 h)
    have divided : Number.integerDiv (.integer l) (.integer r) =
        Number.fitted .division (Number.narrow? (l.toInt.fdiv r.toInt)) := by
      rw [← Number.flooredDiv?_eq isZero]
      exact if_neg (by simpa [Number.isZero] using isZero)
    rw [divided, binary, if_neg nonzero]
    exact fitted_alike _ _

theorem binary_alike {op : BinaryOp} (isIntegral : op ≠ .realDiv) (l r : Int64) :
    Alike Denotes ((op.apply (.integer l) (.integer r)).mapError .arithmetic)
      (binary op isIntegral l.toInt r.toInt) := by
  cases op with
  | plus | minus | times => exact fitted_alike _ _
  | integerDiv => exact integerDiv_alike l r
  | realDiv => exact absurd rfl isIntegral

theorem unary_alike (op : UnaryOp) (v : Int64) :
    Alike Denotes ((op.apply (.integer v)).mapError .arithmetic) (unary op v.toInt) := by
  cases op with
  | plus => exact ⟨v, rfl, rfl⟩
  | minus => exact fitted_alike _ _

theorem eval_alike {values : Values} {scope : Scope} (describes : Describes values scope) (e : Expr)
    (isIntegral : e.IsIntegral) : Alike Denotes (e.eval scope) (eval values e isIntegral) := by
  induction e with
  | binary left op right ihLeft ihRight =>
    refine (ihLeft isIntegral.1).bind ?_
    rintro _ _ ⟨l, rfl, rfl⟩
    refine (ihRight isIntegral.2.2).bind ?_
    rintro _ _ ⟨r, rfl, rfl⟩
    exact binary_alike isIntegral.2.1 l r
  | unary op operand ih =>
    refine (ih isIntegral).bind ?_
    rintro _ _ ⟨v, rfl, rfl⟩
    exact unary_alike op v
  | number value =>
    cases value with
    | integer v => exact ⟨v, rfl, rfl⟩
    | real x => exact isIntegral.elim
  | var name =>
    obtain ⟨value, found, known⟩ := describes name
    cases value with
    | none =>
      rw [Expr.eval, found, eval, known]
      rfl
    | some v =>
      rw [Expr.eval, found, eval, known]
      exact ⟨v, rfl, rfl⟩

theorem describes_insert {values : Values} {scope : Scope} (describes : Describes values scope)
    (target : String) (v : Int64) :
    Describes (fun name => if name = target then some v.toInt else values name)
      (scope.insert target (.integer v)) := by
  intro name
  by_cases same : name = target
  next => exact ⟨some v, by simp [same], by simp [same]⟩
  next =>
    obtain ⟨value, found, known⟩ := describes name
    exact ⟨value, by simp [same, found], by simp [same, known]⟩

theorem run_alike {values : Values} {scope : Scope} (describes : Describes values scope)
    (steps : List (String × Expr)) (isIntegral : ∀ a ∈ steps, a.2.IsIntegral) :
    Alike (fun scope values => Describes values scope) (Statement.scopeAfter steps scope)
      (run steps isIntegral values) := by
  induction steps generalizing values scope with
  | nil => exact describes
  | cons step rest ih =>
    obtain ⟨target, value⟩ := step
    refine (eval_alike describes value _).bind ?_
    rintro _ _ ⟨v, rfl, rfl⟩
    exact ih (describes_insert describes target v) _

end Exact

/-- A program without reals does what it does over the integers: it fails with the same error, or it
ends with the same values. -/
theorem evaluate_integral (p : Program) (isIntegral : ∀ a ∈ p.assignments, a.2.IsIntegral) :
    Alike (fun scope values => Exact.Describes values scope) p.evaluate
      (Exact.run p.assignments isIntegral fun _ => none) := by
  rw [p.evaluate_eq_scopeAfter]
  exact Exact.run_alike (fun name => ⟨none, rfl, rfl⟩) p.assignments isIntegral

-- x := -7 DIV 2
def flooredSample : Program :=
  ⟨"P", [], [.assign "x" (.binary (.unary .minus (.number (.integer 7))) .integerDiv
    (.number (.integer 2)))]⟩

theorem evaluate_integral_floored :
    ∃ scope, flooredSample.evaluate = .ok scope ∧ scope.lookup "x" = some (.integer (-4)) := by
  have isIntegral : ∀ a ∈ flooredSample.assignments, a.2.IsIntegral := by
    intro a among
    obtain rfl := List.mem_singleton.1 among
    exact ⟨trivial, by simp, trivial⟩
  have alike := evaluate_integral flooredSample isIntegral
  have ran : Exact.run flooredSample.assignments isIntegral (fun _ => none) =
      .ok fun name => if name = "x" then some (-4) else none := rfl
  rw [ran] at alike
  cases evaluated : flooredSample.evaluate with
  | error e =>
    rw [evaluated] at alike
    exact alike.elim
  | ok scope =>
    rw [evaluated] at alike
    obtain ⟨value, found, known⟩ := alike "x"
    cases value with
    | none => cases known
    | some v =>
      have same : v = -4 := Int64.toInt_inj.1 (Option.some.inj known).symm
      exact ⟨scope, rfl, by rw [found, same]; rfl⟩

end MiniPascal
