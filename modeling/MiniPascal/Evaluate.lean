import MiniPascal.Naming.NameMap
import MiniPascal.Syntax

set_option autoImplicit false

namespace MiniPascal

inductive EvalError where
  | unassigned (name : String)
  | arithmetic (error : ArithmeticError)
deriving DecidableEq

def EvalError.message : EvalError → String
  | .unassigned name => "Name Error " ++ name ++ " not found"
  | .arithmetic error => error.message

abbrev Scope := NameMap Number

def BinaryOp.apply : BinaryOp → Number → Number → Except ArithmeticError Number
  | .plus => Number.add
  | .minus => Number.sub
  | .times => Number.mul
  | .integerDiv => Number.integerDiv
  | .realDiv => Number.realDiv

def UnaryOp.apply : UnaryOp → Number → Except ArithmeticError Number
  | .plus, n => .ok n
  | .minus, n => n.neg

def Expr.eval (scope : Scope) : Expr → Except EvalError Number
  | .binary left op right => do
    let l ← left.eval scope
    let r ← right.eval scope
    (op.apply l r).mapError .arithmetic
  | .unary op operand => do
    let n ← operand.eval scope
    (op.apply n).mapError .arithmetic
  | .number value => return value
  | .var name =>
    match scope.lookup name with
    | some value => return value
    | none => throw (.unassigned name)

structure Memory where
  scope : Scope
  trail : List (String × Number)

namespace Memory

def blank : Memory :=
  ⟨.empty, []⟩

def assign (memory : Memory) (name : String) (value : Number) : Memory :=
  ⟨memory.scope.insert name value, (name, value) :: memory.trail⟩

end Memory

-- A computation that makes assignments. One that fails leaves those made before.
abbrev Execution := EStateM EvalError Memory

def Statement.assigning (target : String) (value : Expr) : Execution Unit := do
  match value.eval (← get).scope with
  | .ok number => modify (·.assign target number)
  | .error e => throw e

mutual

def Statement.execute : Statement → Execution Unit
  | .compound body => Statement.executeAll body
  | .assign target value => Statement.assigning target value
  | .noOp => return

def Statement.executeAll : List Statement → Execution Unit
  | [] => return
  | s :: rest => do
    s.execute
    Statement.executeAll rest

end

namespace Program

def execute (p : Program) : EStateM.Result EvalError Memory Unit :=
  Statement.executeAll p.body .blank

def evaluate (p : Program) : Except EvalError Scope :=
  match p.execute with
  | .ok _ memory => .ok memory.scope
  | .error e _ => .error e

end Program

end MiniPascal
