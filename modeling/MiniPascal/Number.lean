import MiniPascal.Decimal.Layout

set_option autoImplicit false

namespace MiniPascal

inductive Number where
  | integer (value : Int64)
  | real (value : Float)
deriving Inhabited

inductive Operation where
  | addition
  | subtraction
  | multiplication
  | division
  | negation
deriving DecidableEq

inductive ArithmeticError where
  | divisionByZero
  | overflow (operation : Operation)
deriving DecidableEq

namespace Operation

def name : Operation → String
  | .addition => "addition"
  | .subtraction => "subtraction"
  | .multiplication => "multiplication"
  | .division => "division"
  | .negation => "negation"

def all : List Operation :=
  [.addition, .subtraction, .multiplication, .division, .negation]

end Operation

def ArithmeticError.message : ArithmeticError → String
  | .divisionByZero => "Division by zero"
  | .overflow operation => "Integer overflow in " ++ operation.name

namespace Number

def narrow? (n : Int) : Option Int64 :=
  if Int64.minValue.toInt ≤ n ∧ n ≤ Int64.maxValue.toInt then some (Int64.ofInt n) else none

/-- The quotient rounded towards negative infinity, if it exists and fits. Machine division rounds
towards zero, which is one too high if the signs differ and the division leaves a remainder. -/
def flooredDiv? (l r : Int64) : Option Int64 :=
  if r = 0 ∨ (l = Int64.minValue ∧ r = -1) then none
  else if l % r ≠ 0 ∧ decide (l < 0) ≠ decide (r < 0) then narrow? ((l / r).toInt - 1)
  else some (l / r)

def toReal : Number → Float
  | .integer value => value.toFloat
  | .real value => value

def isZero : Number → Bool
  | .integer value => value == 0
  | .real value => value == 0

def fitted (operation : Operation) : Option Int64 → Except ArithmeticError Number
  | some value => .ok (.integer value)
  | none => .error (.overflow operation)

def combine (operation : Operation) (onIntegers : Int64 → Int64 → Option Int64)
    (onReals : Float → Float → Float) : Number → Number → Except ArithmeticError Number
  | .integer l, .integer r => fitted operation (onIntegers l r)
  | l, r => .ok (.real (onReals l.toReal r.toReal))

def add : Number → Number → Except ArithmeticError Number :=
  combine .addition (fun l r => narrow? (l.toInt + r.toInt)) (· + ·)

def sub : Number → Number → Except ArithmeticError Number :=
  combine .subtraction (fun l r => narrow? (l.toInt - r.toInt)) (· - ·)

def mul : Number → Number → Except ArithmeticError Number :=
  combine .multiplication (fun l r => narrow? (l.toInt * r.toInt)) (· * ·)

def integerDiv (l r : Number) : Except ArithmeticError Number :=
  if r.isZero then .error .divisionByZero
  else combine .division flooredDiv? (fun l r => (l / r).floor) l r

def realDiv (l r : Number) : Except ArithmeticError Number :=
  if r.isZero then .error .divisionByZero
  else .ok (.real (l.toReal / r.toReal))

def neg : Number → Except ArithmeticError Number
  | .integer value => fitted .negation (narrow? (-value.toInt))
  | .real value => .ok (.real (-value))

/-- Reals are written with at least one decimal place, and with an exponent below `0.0001` and from
`10 ^ 16` on. -/
def realStyle : RealStyle :=
  ⟨fun e => -4 ≤ e && e < 16, ".0"⟩

def text : Number → String
  | .integer value => toString value.toInt
  | .real value => realStyle.text value

end Number

end MiniPascal
