import MiniPascal.Proofs.Token.Layout

set_option autoImplicit false

namespace MiniPascal

def render (lexemes : List Lexeme) : List Char :=
  lexemes.flatMap fun l => ' ' :: l.text.toList

def Piece.behindBlank (l : Lexeme) : Piece :=
  ⟨[' '], l.text.toList, l⟩

theorem render_eq_join (lexemes : List Lexeme) :
    render lexemes = Piece.join (lexemes.map .behindBlank) [] := by
  induction lexemes with
  | nil => rfl
  | cons l rest ih => simp [render, Piece.join, Piece.behindBlank, ← ih]

theorem layout_render (lexemes : List Lexeme) : Layout lexemes (render lexemes) := by
  have gaps : ∀ piece ∈ lexemes.map Piece.behindBlank, piece.gap = [' '] := by
    simp [Piece.behindBlank]
  refine ⟨lexemes.map .behindBlank, [], ⟨?_, .nil, ?_⟩, ?_, ?_, render_eq_join lexemes⟩
  · intro piece among
    rw [gaps piece among]
    exact .blank rfl .nil
  · intro piece among
    rw [gaps piece (List.mem_of_mem_tail among)]
    exact List.cons_ne_nil _ _
  · simp [Piece.behindBlank, Function.comp_def]
  · simp [Piece.behindBlank]

end MiniPascal
