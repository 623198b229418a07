import MiniPascal.Proofs.Parser.Acceptance

set_option autoImplicit false

namespace MiniPascal

inductive GrammarRule where
  | program
  | block
  | declarations
  | group
  | typeName
  | compound
  | statements
  | statement
  | assignment
  | name
  | expr
  | term
  | factor
deriving DecidableEq

inductive CounterMove where
  | raised (before : UInt64)
  | lowered (amount before : UInt64)
  | returned (rule : GrammarRule) (called now : UInt64)
deriving DecidableEq

namespace CounterMove

def before : CounterMove → UInt64
  | .raised before | .lowered _ before => before
  | .returned _ _ now => now

-- The value that it leaves. Words wrap around.
def after : CounterMove → UInt64
  | .raised before => before + 1
  | .lowered amount before => before - amount
  | .returned _ _ now => now

end CounterMove

structure CountedState where
  parser : ParserState
  depth : UInt64
  moves : List CounterMove

/-- A parser that counts. It gives `none` if it has not come to an end. -/
abbrev CountedParser := ExceptT ParseError (StateT CountedState Option)

namespace CountedParser

open MiniPascal.Parser (additive? multiplicative? sign? literal? maxDepth)

variable {α : Type}

def outOfFuel : CountedParser α := fun _ => none

def plain (x : Parser α) : CountedParser α := fun s =>
  match x s.parser with
  | .ok a parser => some (.ok a, { s with parser })
  | .error e parser => some (.error e, { s with parser })

def current : CountedParser TokenKind :=
  plain Parser.current

def eatMark (mark : Mark) : CountedParser Unit :=
  plain (Parser.eatMark mark)

def eatKeyword (word : Keyword) : CountedParser Unit :=
  plain (Parser.eatKeyword word)

/-- One level more. The counter has been raised also if that was one too many. -/
def raise : CountedParser Unit := do
  let before := (← get).depth
  modify fun s => { s with depth := before + 1, moves := .raised before :: s.moves }
  if before + 1 > .ofNat maxDepth then
    throw (.tooDeep maxDepth)

def lower (amount : UInt64) : CountedParser Unit :=
  modify fun s => { s with depth := s.depth - amount, moves := .lowered amount s.depth :: s.moves }

def enter (production : Production) : CountedParser Unit := do
  plain (Parser.report (.production (← get).depth.toNat production))

abbrev call (rule : GrammarRule) (body : CountedParser α) : CountedParser α := do
  let called := (← get).depth
  let result ← body
  modify fun s => { s with moves := .returned rule called s.depth :: s.moves }
  return result

def manyUpTo (more : TokenKind → Bool) (item : CountedParser α) :
    (fuel : Nat) → List α → CountedParser (List α)
  | 0, _ => outOfFuel
  | fuel + 1, taken => do
    if more (← current) then manyUpTo more item fuel ((← item) :: taken)
    else return taken.reverse

def many (more : TokenKind → Bool) (item : CountedParser α) : CountedParser (List α) := do
  manyUpTo more item ((← get).parser.stream.length + 1) []

def separated (mark : Mark) (item : CountedParser α) : CountedParser (List α) := do
  let first ← item
  let others ← many (· == .mark mark) (do eatMark mark; item)
  return first :: others

def name : CountedParser String :=
  call .name (plain Parser.name)

def operand (factor expr : CountedParser Expr) : CountedParser Expr := do
  let stream := (← get).parser.stream
  match sign? stream.kind, literal? stream with
  | some op, _ =>
    plain Parser.advance
    return .unary op (← factor)
  | none, some value =>
    plain Parser.advance
    return .number value
  | none, none =>
    if stream.kind = .mark .openParen then
      eatMark .openParen
      let inner ← expr
      eatMark .closeParen
      return inner
    else
      return .var (← name)

mutual

def expr : (fuel : Nat) → CountedParser Expr
  | 0 => outOfFuel
  | fuel + 1 => call .expr do
    raise
    enter .expr
    exprFolds fuel 0 (← term fuel)

-- The rest of a sum, with the number of the operators before it.
def exprFolds : (fuel : Nat) → UInt64 → Expr → CountedParser Expr
  | 0, _, _ => outOfFuel
  | fuel + 1, folds, left => do
    match additive? (← current) with
    | none =>
      lower folds
      lower 1
      return left
    | some op =>
      raise
      plain Parser.advance
      exprFolds fuel (folds + 1) (.binary left op (← term fuel))

def term : (fuel : Nat) → CountedParser Expr
  | 0 => outOfFuel
  | fuel + 1 => call .term do
    raise
    enter .term
    termFolds fuel 0 (← factor fuel)

def termFolds : (fuel : Nat) → UInt64 → Expr → CountedParser Expr
  | 0, _, _ => outOfFuel
  | fuel + 1, folds, left => do
    match multiplicative? (← current) with
    | none =>
      lower folds
      lower 1
      return left
    | some op =>
      raise
      plain Parser.advance
      termFolds fuel (folds + 1) (.binary left op (← factor fuel))

def factor : (fuel : Nat) → CountedParser Expr
  | 0 => outOfFuel
  | fuel + 1 => call .factor do
    raise
    enter .factor
    let result ← operand (factor fuel) (expr fuel)
    lower 1
    return result

end

def assignment (fuel : Nat) : CountedParser Statement := call .assignment do
  raise
  let target ← name
  enter (.assign target)
  eatMark .assign
  let value ← expr fuel
  lower 1
  return .assign target value

def statement (compound : CountedParser (List Statement)) (fuel : Nat) : CountedParser Statement :=
  call .statement do
    match ← current with
    | .keyword .blockBegin => return .compound (← compound)
    | .identifier => assignment fuel
    | _ =>
      enter .noOp
      return .noOp

def statements (compound : CountedParser (List Statement)) (fuel : Nat) :
    CountedParser (List Statement) :=
  call .statements (separated .semicolon (statement compound fuel))

def compound : (fuel : Nat) → CountedParser (List Statement)
  | 0 => outOfFuel
  | fuel + 1 => call .compound do
    raise
    enter .compound
    eatKeyword .blockBegin
    let body ← statements (compound fuel) fuel
    eatKeyword .blockEnd
    lower 1
    return body

def typeName : CountedParser TypeName :=
  call .typeName (plain Parser.typeName)

def group : CountedParser (List Declaration) := call .group do
  let names ← separated .comma name
  eatMark .colon
  let typeName ← typeName
  enter (.group names typeName)
  return names.map fun name => ⟨name, typeName⟩

def declarations : CountedParser (List Declaration) := call .declarations do
  if (← current) = .keyword .var then
    raise
    enter .declarations
    eatKeyword .var
    let item := do
      let declared ← group
      eatMark .semicolon
      return declared
    let first ← item
    let others ← many (· == .identifier) item
    lower 1
    return first ++ others.flatten
  else
    return []

def block (fuel : Nat) : CountedParser (List Declaration × List Statement) := call .block do
  raise
  enter .block
  let declarations ← declarations
  let body ← compound fuel
  lower 1
  return (declarations, body)

def program (fuel : Nat) : CountedParser Program := call .program do
  raise
  eatKeyword .program
  let title ← name
  enter (.program title)
  eatMark .semicolon
  let (declarations, body) ← block fuel
  eatMark .dot
  lower 1
  return ⟨title, declarations, body⟩

def source (fuel : Nat) (stream : TokenStream) : CountedParser Program := do
  plain (Parser.arrive stream)
  let result ← program fuel
  plain (Parser.finish result)

def parse (fuel : Nat) (text : String) : Option (Except ParseError Program × CountedState) :=
  let stream := TokenStream.ofSource text
  source fuel stream ⟨⟨stream, [.lexing text]⟩, 0, []⟩

end CountedParser

end MiniPascal
