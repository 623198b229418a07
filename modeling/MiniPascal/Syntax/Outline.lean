import MiniPascal.Syntax
import MiniPascal.Text.Quoted

set_option autoImplicit false

namespace MiniPascal

namespace Outline

def record (name : String) (parts : List (String × String)) : String :=
  name ++ " \x7b " ++ ", ".intercalate (parts.map fun (part, text) => part ++ ": " ++ text) ++ " \x7d"

def list (items : List String) : String :=
  "[" ++ ", ".intercalate items ++ "]"

def var (name : String) : String :=
  record "Var" [("name", Text.quote name)]

def compound (children : List String) : String :=
  record "Compound" [("children", list children)]

end Outline

def BinaryOp.outline : BinaryOp → String
  | .plus => "Plus"
  | .minus => "Minus"
  | .times => "Mul"
  | .integerDiv => "IntegerDiv"
  | .realDiv => "FloatDiv"

def UnaryOp.outline : UnaryOp → String
  | .plus => "Plus"
  | .minus => "Minus"

def TypeName.outline : TypeName → String
  | .integer => "Integer"
  | .real => "Real"

def Number.outline (n : Number) : String :=
  match n with
  | .integer _ => "Integer(" ++ n.text ++ ")"
  | .real _ => "Real(" ++ n.text ++ ")"

def Expr.outline : Expr → String
  | .binary left op right =>
    Outline.record "BinaryOp"
      [("left", left.outline), ("operator", op.outline), ("right", right.outline)]
  | .unary op operand =>
    Outline.record "UnaryOp" [("operator", op.outline), ("operand", operand.outline)]
  | .number value => "Num(" ++ value.outline ++ ")"
  | .var name => "Var(" ++ Outline.var name ++ ")"

mutual

def Statement.outline : Statement → String
  | .compound body => "Compound(" ++ Outline.compound (Statement.outlines body) ++ ")"
  | .assign target value =>
    Outline.record "Assign" [("target", Outline.var target), ("value", value.outline)]
  | .noOp => "NoOp"

def Statement.outlines : List Statement → List String
  | [] => []
  | s :: rest => s.outline :: Statement.outlines rest

end

def Declaration.outline (d : Declaration) : String :=
  Outline.record "VarDecl" [("var", Outline.var d.name), ("type_spec", d.typeName.outline)]

def Program.outline (p : Program) : String :=
  let block := Outline.record "Block"
    [("declarations", Outline.list (p.declarations.map Declaration.outline)),
      ("compound", Outline.compound (Statement.outlines p.body))]
  let program := Outline.record "Program" [("name", Text.quote p.name), ("block", block)]
  Outline.record "Script" [("program", program)]

end MiniPascal
