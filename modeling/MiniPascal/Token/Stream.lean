import MiniPascal.Token.Lexer

set_option autoImplicit false

namespace MiniPascal

inductive TokenStream where
  | ended (position : Position)
  | broken (error : LexError)
  | next (token : Token) (rest : TokenStream)
deriving Inhabited

namespace TokenStream

def ofCursor (cursor : Cursor) : TokenStream :=
  match h : cursor.nextToken with
  | (.error e, _) => .broken e
  | (.ok token, after) =>
    if last : token.kind = .endOfInput then .ended token.position
    else
      have := Cursor.length_nextToken_lt h last
      .next token (ofCursor after)
termination_by cursor.rest.length

def ofSource (source : String) : TokenStream :=
  ofCursor (.ofSource source)

def length : TokenStream → Nat
  | .ended _ | .broken _ => 0
  | .next _ rest => rest.length + 1

def toList : TokenStream → List (Except LexError Token)
  | .ended position => [.ok ⟨.endOfInput, position⟩]
  | .broken e => [.error e]
  | .next token rest => .ok token :: rest.toList

def tokens : TokenStream → List Token
  | .ended _ | .broken _ => []
  | .next token rest => token :: rest.tokens

end TokenStream

end MiniPascal
