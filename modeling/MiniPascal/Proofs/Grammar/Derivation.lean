import MiniPascal.Syntax.Parser

set_option autoImplicit false

namespace MiniPascal

inductive AdditiveOp where
  | plus
  | minus
deriving DecidableEq

inductive MultiplicativeOp where
  | times
  | integerDiv
  | realDiv
deriving DecidableEq

structure DeclarationGroup where
  first : String
  others : List String
  typeName : TypeName

inductive Nonterminal where
  | program
  | block
  | compound
  | statements
  | statement
  | assignment
  | expr
  | exprRest
  | term
  | termRest
  | factor
deriving DecidableEq

/-- One constructor for each alternative of the grammar. The repeated part of a production is a
nonterminal of its own. -/
inductive Derivation : Nonterminal → Type where
  -- PROGRAM name ; block .
  | program (title : String) (content : Derivation .block) : Derivation .program
  -- ( VAR ( group ; )+ )? compound, without VAR if there are no groups
  | block (groups : List DeclarationGroup) (body : Derivation .compound) : Derivation .block
  -- BEGIN statement ( ; statement )* END
  | compound (first : Derivation .statement) (rest : Derivation .statements) : Derivation .compound
  | noStatements : Derivation .statements
  | moreStatements (next : Derivation .statement) (rest : Derivation .statements) :
      Derivation .statements
  -- compound | assignment | nothing
  | nested (body : Derivation .compound) : Derivation .statement
  | assigning (step : Derivation .assignment) : Derivation .statement
  | empty : Derivation .statement
  -- name := expr
  | assignment (target : String) (value : Derivation .expr) : Derivation .assignment
  -- term ( ( + | - ) term )*
  | expr (first : Derivation .term) (rest : Derivation .exprRest) : Derivation .expr
  | noTerms : Derivation .exprRest
  | moreTerms (op : AdditiveOp) (operand : Derivation .term) (rest : Derivation .exprRest) :
      Derivation .exprRest
  -- factor ( ( * | DIV | / ) factor )*
  | term (first : Derivation .factor) (rest : Derivation .termRest) : Derivation .term
  | noFactors : Derivation .termRest
  | moreFactors (op : MultiplicativeOp) (operand : Derivation .factor)
      (rest : Derivation .termRest) : Derivation .termRest
  -- ( + | - ) factor | number | ( expr ) | name
  | signed (op : UnaryOp) (operand : Derivation .factor) : Derivation .factor
  | number (value : Number) : Derivation .factor
  | parens (inner : Derivation .expr) : Derivation .factor
  | var (name : String) : Derivation .factor

namespace AdditiveOp

def lexeme : AdditiveOp → Lexeme
  | .plus => .mark .plus
  | .minus => .mark .minus

def binary : AdditiveOp → BinaryOp
  | .plus => .plus
  | .minus => .minus

end AdditiveOp

namespace MultiplicativeOp

def lexeme : MultiplicativeOp → Lexeme
  | .times => .mark .times
  | .integerDiv => .keyword .div
  | .realDiv => .mark .slash

def binary : MultiplicativeOp → BinaryOp
  | .times => .times
  | .integerDiv => .integerDiv
  | .realDiv => .realDiv

end MultiplicativeOp

def UnaryOp.lexeme : UnaryOp → Lexeme
  | .plus => .mark .plus
  | .minus => .mark .minus

def TypeName.lexeme : TypeName → Lexeme
  | .integer => .keyword .integer
  | .real => .keyword .real

def Number.lexeme : Number → Lexeme
  | .integer value => .integer value
  | .real value => .real value

namespace DeclarationGroup

def lexemes (g : DeclarationGroup) : List Lexeme :=
  .identifier g.first ::
    (g.others.flatMap (fun name => [.mark .comma, .identifier name]) ++
      [.mark .colon, g.typeName.lexeme])

def declarations (g : DeclarationGroup) : List Declaration :=
  (g.first :: g.others).map fun name => ⟨name, g.typeName⟩

def sectionLexemes : List DeclarationGroup → List Lexeme
  | [] => []
  | g :: rest => .keyword .var :: (g :: rest).flatMap fun g => g.lexemes ++ [.mark .semicolon]

end DeclarationGroup

namespace Nonterminal

-- What a derivation describes. The rest of a chain of operators waits for its left operand.
abbrev Tree : Nonterminal → Type
  | .program => Program
  | .block => List Declaration × List Statement
  | .compound | .statements => List Statement
  | .statement | .assignment => Statement
  | .expr | .term | .factor => Expr
  | .exprRest | .termRest => Expr → Expr

end Nonterminal

namespace Derivation

@[simp] def lexemes : {n : Nonterminal} → Derivation n → List Lexeme
  | _, .program title content =>
    .keyword .program :: .identifier title :: .mark .semicolon :: (content.lexemes ++ [.mark .dot])
  | _, .block groups body => DeclarationGroup.sectionLexemes groups ++ body.lexemes
  | _, .compound first rest =>
    .keyword .blockBegin :: (first.lexemes ++ rest.lexemes ++ [.keyword .blockEnd])
  | _, .noStatements => []
  | _, .moreStatements next rest => .mark .semicolon :: (next.lexemes ++ rest.lexemes)
  | _, .nested body => body.lexemes
  | _, .assigning step => step.lexemes
  | _, .empty => []
  | _, .assignment target value => .identifier target :: .mark .assign :: value.lexemes
  | _, .expr first rest => first.lexemes ++ rest.lexemes
  | _, .noTerms => []
  | _, .moreTerms op operand rest => op.lexeme :: (operand.lexemes ++ rest.lexemes)
  | _, .term first rest => first.lexemes ++ rest.lexemes
  | _, .noFactors => []
  | _, .moreFactors op operand rest => op.lexeme :: (operand.lexemes ++ rest.lexemes)
  | _, .signed op operand => op.lexeme :: operand.lexemes
  | _, .number value => [value.lexeme]
  | _, .parens inner => .mark .openParen :: (inner.lexemes ++ [.mark .closeParen])
  | _, .var name => [.identifier name]

/-- The levels of nesting, the derivation's own included. A statement stands at the level of what it
is, and the operands of a chain stand each one level below the operand before. -/
@[simp] def depth : {n : Nonterminal} → Derivation n → Nat
  | _, .program _ content => content.depth + 1
  | _, .block _ body => body.depth + 1
  | _, .compound first rest => max first.depth rest.depth + 1
  | _, .noStatements => 0
  | _, .moreStatements next rest => max next.depth rest.depth
  | _, .nested body => body.depth
  | _, .assigning step => step.depth
  | _, .empty => 0
  | _, .assignment _ value => value.depth + 1
  | _, .expr first rest => max first.depth rest.depth + 1
  | _, .noTerms => 0
  | _, .moreTerms _ operand rest => max operand.depth rest.depth + 1
  | _, .term first rest => max first.depth rest.depth + 1
  | _, .noFactors => 0
  | _, .moreFactors _ operand rest => max operand.depth rest.depth + 1
  | _, .signed _ operand => operand.depth + 1
  | _, .number _ => 1
  | _, .parens inner => inner.depth + 1
  | _, .var _ => 1

/-- The tree of a derivation: operators associate to the left, and parentheses leave no trace. -/
@[simp] def tree : {n : Nonterminal} → Derivation n → n.Tree
  | _, .program title content => ⟨title, content.tree.1, content.tree.2⟩
  | _, .block groups body => (groups.flatMap DeclarationGroup.declarations, body.tree)
  | _, .compound first rest => first.tree :: rest.tree
  | _, .noStatements => []
  | _, .moreStatements next rest => next.tree :: rest.tree
  | _, .nested body => .compound body.tree
  | _, .assigning step => step.tree
  | _, .empty => .noOp
  | _, .assignment target value => .assign target value.tree
  | _, .expr first rest => rest.tree first.tree
  | _, .noTerms => fun left => left
  | _, .moreTerms op operand rest => fun left => rest.tree (.binary left op.binary operand.tree)
  | _, .term first rest => rest.tree first.tree
  | _, .noFactors => fun left => left
  | _, .moreFactors op operand rest => fun left => rest.tree (.binary left op.binary operand.tree)
  | _, .signed op operand => .unary op operand.tree
  | _, .number value => .number value
  | _, .parens inner => inner.tree
  | _, .var name => .var name

def kinds {n : Nonterminal} (d : Derivation n) : List TokenKind :=
  d.lexemes.map Lexeme.kind

end Derivation

end MiniPascal
