import MiniPascal.Syntax.Parser.Basic

/-!
The grammar of programs. Productions nest, and each is given the `room` that is left below the one it
stands in: it takes one level of it, and without one it fails. In a chain of operators every further
operand stands one level below the one before it, as the tree of the chain does.

    program      PROGRAM name ; block .
    block        declarations compound
    declarations ( VAR ( group ; )+ )?
    group        name ( , name )* : type
    type         INTEGER | REAL
    compound     BEGIN statement ( ; statement )* END
    statement    compound | assignment | nothing
    assignment   name := expr
    expr         term ( ( + | - ) term )*
    term         factor ( ( * | DIV | / ) factor )*
    factor       ( + | - ) factor | number | ( expr ) | name
-/

set_option autoImplicit false

namespace MiniPascal

namespace Parser

def additive? : TokenKind → Option BinaryOp
  | .mark .plus => some .plus
  | .mark .minus => some .minus
  | _ => none

def multiplicative? : TokenKind → Option BinaryOp
  | .mark .times => some .times
  | .mark .slash => some .realDiv
  | .keyword .div => some .integerDiv
  | _ => none

def sign? : TokenKind → Option UnaryOp
  | .mark .plus => some .plus
  | .mark .minus => some .minus
  | _ => none

def literal? : TokenStream → Option Number
  | .next token _ => token.lexeme.number?
  | .ended _ | .broken _ => none

def name : Parser String := do
  match (← get).stream with
  | .next ⟨.identifier name, _⟩ rest =>
    arrive rest
    return name
  | _ => unexpected .identifier

def parens (expr : Parser Expr) : Parser Expr := do
  eatMark .openParen
  let inner ← expr
  eatMark .closeParen
  return inner

-- What a factor does at a token of this kind, with this sign or this value if it has one.
def operandAt (factor expr : Parser Expr) (kind : TokenKind) :
    Option UnaryOp → Option Number → Parser Expr
  | some op, _ => do
    advance
    return .unary op (← factor)
  | none, some value => do
    advance
    return .number value
  | none, none => do
    if kind = .mark .openParen then parens expr else return .var (← name)

def operand (factor expr : Parser Expr) : Parser Expr := do
  let stream := (← get).stream
  operandAt factor expr stream.kind (sign? stream.kind) (literal? stream)

mutual

def expr : (room : Nat) → Parser Expr
  | 0 => tooDeep
  | room + 1 => do
    enter room .expr
    exprRest room (← term room)

def exprRest : (room : Nat) → Expr → Parser Expr
  | 0, left => do
    match additive? (← current) with
    | none => return left
    | some _ => tooDeep
  | room + 1, left => do
    match additive? (← current) with
    | none => return left
    | some op =>
      advance
      exprRest room (.binary left op (← term room))

def term : (room : Nat) → Parser Expr
  | 0 => tooDeep
  | room + 1 => do
    enter room .term
    termRest room (← factor room)

def termRest : (room : Nat) → Expr → Parser Expr
  | 0, left => do
    match multiplicative? (← current) with
    | none => return left
    | some _ => tooDeep
  | room + 1, left => do
    match multiplicative? (← current) with
    | none => return left
    | some op =>
      advance
      termRest room (.binary left op (← factor room))

def factor : (room : Nat) → Parser Expr
  | 0 => tooDeep
  | room + 1 => do
    enter room .factor
    operand (factor room) (expr room)

end

def assignment : (room : Nat) → Parser Statement
  | 0 => tooDeep
  | room + 1 => do
    let target ← name
    enter room (.assign target)
    eatMark .assign
    return .assign target (← expr room)

/-- A statement, given how to read a compound one. Whatever starts none is left alone. -/
def statement (compound : Parser (List Statement)) (room : Nat) : Parser Statement := do
  match ← current with
  | .keyword .blockBegin => return .compound (← compound)
  | .identifier => assignment room
  | _ =>
    enter room .noOp
    return .noOp

def compound : (room : Nat) → Parser (List Statement)
  | 0 => tooDeep
  | room + 1 => do
    enter room .compound
    eatKeyword .blockBegin
    let body ← separated .semicolon (statement (compound room) room)
    eatKeyword .blockEnd
    return body

def typeName : Parser TypeName := do
  if (← current) = .keyword .integer then
    eatKeyword .integer
    return .integer
  else
    eatKeyword .real
    return .real

-- Variables of one type; `room` is that of the declarations around them.
def group (room : Nat) : Parser (List Declaration) := do
  let names ← separated .comma name
  eatMark .colon
  let typeName ← typeName
  enter room (.group names typeName)
  return names.map fun name => ⟨name, typeName⟩

def groupItem (room : Nat) : Parser (List Declaration) := do
  let declared ← group room
  eatMark .semicolon
  return declared

def groupItems (room : Nat) : Parser (List Declaration) := do
  let first ← groupItem room
  let others ← many (· == .identifier) (groupItem room)
  return first ++ others.flatten

def declarations (room : Nat) : Parser (List Declaration) := do
  if (← current) = .keyword .var then
    match room with
    | 0 => tooDeep
    | room + 1 =>
      enter room .declarations
      eatKeyword .var
      groupItems room
  else
    return []

def block : (room : Nat) → Parser (List Declaration × List Statement)
  | 0 => tooDeep
  | room + 1 => do
    enter room .block
    let declarations ← declarations room
    let body ← compound room
    return (declarations, body)

def program : (room : Nat) → Parser Program
  | 0 => tooDeep
  | room + 1 => do
    eatKeyword .program
    let title ← name
    enter room (.program title)
    eatMark .semicolon
    let (declarations, body) ← block room
    eatMark .dot
    return ⟨title, declarations, body⟩

def finish (result : Program) : Parser Program := do
  if (← current) = .endOfInput then
    report (.parsed result.name)
    return result
  else
    unexpected .endOfInput

def source (stream : TokenStream) : Parser Program := do
  arrive stream
  finish (← program maxDepth)

end Parser

end MiniPascal
