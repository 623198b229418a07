import MiniPascal.Log.Event
import MiniPascal.Token.Stream

set_option autoImplicit false

namespace MiniPascal

inductive ParseError where
  | lexical (error : LexError)
  | unexpected (expected found : TokenKind) (position : Position)
  | tooDeep (limit : Nat)
deriving DecidableEq

namespace ParseError

def message : ParseError → String
  | .lexical error => error.message
  | .unexpected expected found position =>
    "Expected " ++ expected.name ++ ", got " ++ found.name ++ " at " ++ position.text
  | .tooDeep limit => "Maximum parsing depth, " ++ toString limit ++ ", exceeded!"

end ParseError

structure ParserState where
  stream : TokenStream
  -- What has been reported so far, the latest first.
  log : List Event

abbrev Parser := EStateM ParseError ParserState

namespace TokenStream

def kind : TokenStream → TokenKind
  | .next token _ => token.kind
  | .ended _ | .broken _ => .endOfInput

def position : TokenStream → Position
  | .next token _ => token.position
  | .ended position => position
  | .broken error => error.position

end TokenStream

namespace Parser

def maxDepth : Nat := 256

def report (event : Event) : Parser Unit :=
  modify fun s => { s with log := event :: s.log }

def enter (room : Nat) (production : Production) : Parser Unit :=
  report (.production (maxDepth - room) production)

def tooDeep {α : Type} : Parser α :=
  throw (.tooDeep maxDepth)

def current : Parser TokenKind :=
  return (← get).stream.kind

/-- Makes the head of a stream the current token. An error there is found at this moment. -/
def arrive (stream : TokenStream) : Parser Unit := do
  modify fun s => { s with stream }
  match stream with
  | .next token _ => report (.token token)
  | .ended _ => return
  | .broken error => throw (.lexical error)

/-- Moves on to the next token. The end of the input is never left. -/
def advance : Parser Unit := do
  match (← get).stream with
  | .next _ rest => arrive rest
  | .ended _ => return
  | .broken error => throw (.lexical error)

def unexpected {α : Type} (expected : TokenKind) : Parser α := do
  let stream := (← get).stream
  throw (.unexpected expected stream.kind stream.position)

def eat (expected : TokenKind) : Parser Unit := do
  if (← current) = expected then advance else unexpected expected

def eatKeyword (word : Keyword) : Parser Unit :=
  eat (.keyword word)

def eatMark (mark : Mark) : Parser Unit :=
  eat (.mark mark)

def manyUpTo {α : Type} (more : TokenKind → Bool) (item : Parser α) :
    (fuel : Nat) → List α → Parser (List α)
  | 0, taken => return taken.reverse
  | fuel + 1, taken => do
    if more (← current) then manyUpTo more item fuel ((← item) :: taken)
    else return taken.reverse

/-- Items for as long as the current token is one that `more` accepts. Every item is to take a token,
so there are no more items than tokens. -/
def many {α : Type} (more : TokenKind → Bool) (item : Parser α) : Parser (List α) := do
  manyUpTo more item (← get).stream.length []

def separated {α : Type} (mark : Mark) (item : Parser α) : Parser (List α) := do
  let first ← item
  let others ← many (· == .mark mark) (do eatMark mark; item)
  return first :: others

end Parser

end MiniPascal
