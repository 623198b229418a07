import MiniPascal.Token.Cursor
import MiniPascal.Token.Munch

set_option autoImplicit false

namespace MiniPascal

structure LexError where
  fault : LexFault
  position : Position
deriving DecidableEq

namespace LexError

def message (e : LexError) : String :=
  match e.fault with
  | .invalidCharacter c => "Invalid character \"" ++ c.toString ++ "\" at " ++ e.position.text
  | .unterminatedComment => "Unterminated comment starting at " ++ e.position.text
  | .invalidNumber digits => "Unable to parse number \"" ++ digits ++ "\" at " ++ e.position.text

end LexError

namespace Cursor

/-- The next token, at the first character after the gap before it. The cursor ends behind the
lexeme, also behind a number that is refused; at a character that starts no lexeme it stays. -/
def nextToken (cursor : Cursor) : Except LexError Token × Cursor :=
  match skipGap none cursor.rest cursor.position with
  | (some brace, next) => (.error ⟨.unterminatedComment, brace⟩, next)
  | (none, next) =>
    let found := munch next.rest
    match found.lexeme with
    | .ok lexeme => (.ok ⟨lexeme, next.position⟩, next.advance found.length)
    | .error fault => (.error ⟨fault, next.position⟩, next.advance found.length)

theorem length_nextToken_lt {cursor next : Cursor} {token : Token}
    (h : cursor.nextToken = (.ok token, next)) (notEnd : token.kind ≠ .endOfInput) :
    next.rest.length < cursor.rest.length := by
  have shrinks := length_skipGap_le none cursor.rest cursor.position
  unfold nextToken at h
  split at h
  next => simp at h
  next after gap =>
    rw [gap] at shrinks
    simp only at h shrinks
    split at h
    next lexeme found =>
      simp only [Prod.mk.injEq, Except.ok.injEq] at h
      obtain ⟨rfl, rfl⟩ := h
      have notEnd : lexeme ≠ .endOfInput := fun same => notEnd (by rw [same]; rfl)
      have taken := length_munch_pos found notEnd
      have some := List.length_pos_iff.2 (text_ne_nil_of_munch found notEnd)
      rw [length_advance]
      omega
    next => simp at h

end Cursor

structure Lexer where
  cursor : Cursor
  finished : Bool
deriving Inhabited

namespace Lexer

def ofSource (source : String) : Lexer :=
  ⟨.ofSource source, false⟩

def nextToken (lexer : Lexer) : Except LexError Token × Lexer :=
  let (result, cursor) := lexer.cursor.nextToken
  (result, { lexer with cursor })

def isLast : Except LexError Token → Bool
  | .ok token => token.kind == .endOfInput
  | .error _ => true

def next (lexer : Lexer) : Option (Except LexError Token) × Lexer :=
  if lexer.finished then (none, lexer)
  else
    let (result, lexer) := lexer.nextToken
    (some result, { lexer with finished := isLast result })

end Lexer

end MiniPascal
