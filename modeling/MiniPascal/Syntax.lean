import MiniPascal.Number

set_option autoImplicit false

namespace MiniPascal

inductive BinaryOp where
  | plus
  | minus
  | times
  | integerDiv
  | realDiv
deriving DecidableEq

inductive UnaryOp where
  | plus
  | minus
deriving DecidableEq

inductive Expr where
  | binary (left : Expr) (op : BinaryOp) (right : Expr)
  | unary (op : UnaryOp) (operand : Expr)
  | number (value : Number)
  | var (name : String)
deriving Inhabited

inductive Statement where
  | compound (body : List Statement)
  | assign (target : String) (value : Expr)
  | noOp
deriving Inhabited

inductive TypeName where
  | integer
  | real
deriving DecidableEq

def TypeName.text : TypeName → String
  | .integer => "INTEGER"
  | .real => "REAL"

structure Declaration where
  name : String
  typeName : TypeName
deriving DecidableEq

structure Program where
  name : String
  declarations : List Declaration
  body : List Statement
deriving Inhabited

end MiniPascal
