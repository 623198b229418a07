import MiniPascal.Text.WhiteSpace
import MiniPascal.Token.Position

set_option autoImplicit false

namespace MiniPascal

structure Cursor where
  rest : List Char
  position : Position
deriving Inhabited

namespace Cursor

def ofSource (source : String) : Cursor :=
  ⟨source.toList, .start⟩

def advance (cursor : Cursor) (n : Nat) : Cursor :=
  ⟨cursor.rest.drop n, cursor.position.after (cursor.rest.take n)⟩

/-- Skips white space and comments. `brace` is where the comment around the cursor began, if there
is one; it is given back if the text ends inside a comment. -/
def skipGap (brace : Option Position) : List Char → Position → Option Position × Cursor
  | [], position => (brace, ⟨[], position⟩)
  | c :: rest, position =>
    match brace with
    | some _ => skipGap (if c = '}' then none else brace) rest (position.next c)
    | none =>
      if Text.isWhiteSpace c then skipGap none rest (position.next c)
      else if c = '{' then skipGap (some position) rest (position.next c)
      else (none, ⟨c :: rest, position⟩)

theorem length_skipGap_le (brace : Option Position) (text : List Char) (position : Position) :
    (skipGap brace text position).2.rest.length ≤ text.length := by
  induction text generalizing brace position with
  | nil => simp [skipGap]
  | cons c rest ih =>
    unfold skipGap
    split
    next => exact Nat.le_succ_of_le (ih _ _)
    next =>
      split
      next => exact Nat.le_succ_of_le (ih _ _)
      next =>
        split
        next => exact Nat.le_succ_of_le (ih _ _)
        next => exact Nat.le_refl _

theorem length_advance (cursor : Cursor) (n : Nat) :
    (cursor.advance n).rest.length = cursor.rest.length - n := by
  simp [advance]

end Cursor

end MiniPascal
