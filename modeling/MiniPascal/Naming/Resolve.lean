import MiniPascal.Naming.Symbol

set_option autoImplicit false

namespace MiniPascal

inductive NameError where
  -- An assignment to a name that is not in the table.
  | notDeclared (name : String)
  -- A use of a name that is not in the table.
  | notFound (name : String)
deriving DecidableEq

def NameError.message : NameError → String
  | .notDeclared name => "Name Error " ++ name ++ " not declared"
  | .notFound name => "Name Error " ++ name ++ " not found"

def Expr.check (table : SymbolTable) : Expr → Except NameError Unit
  | .binary left _ right => do
    left.check table
    right.check table
  | .unary _ operand => operand.check table
  | .number _ => return
  | .var name => if (table.lookup name).isSome then return else throw (.notFound name)

mutual

def Statement.check (table : SymbolTable) : Statement → Except NameError Unit
  | .compound body => Statement.checkAll table body
  | .assign target value => do
    value.check table
    if (table.lookup target).isSome then return else throw (.notDeclared target)
  | .noOp => return

def Statement.checkAll (table : SymbolTable) : List Statement → Except NameError Unit
  | [] => return
  | s :: rest => do
    s.check table
    Statement.checkAll table rest

end

namespace Program

def symbols (p : Program) : List Symbol :=
  p.declarations.map Symbol.ofDeclaration

def table (p : Program) : SymbolTable :=
  SymbolTable.initial.defineAll p.symbols

def resolve (p : Program) : Except NameError SymbolTable := do
  Statement.checkAll p.table p.body
  return p.table

end Program

end MiniPascal
