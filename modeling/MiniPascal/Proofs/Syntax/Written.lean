import MiniPascal.Proofs.Grammar.Derivation
import MiniPascal.Proofs.Token.Layout

set_option autoImplicit false

namespace MiniPascal

def BinaryOp.lexeme : BinaryOp → Lexeme
  | .plus => .mark .plus
  | .minus => .mark .minus
  | .times => .mark .times
  | .integerDiv => .keyword .div
  | .realDiv => .mark .slash

def BinaryOp.precedence : BinaryOp → Nat
  | .plus | .minus => 1
  | .times | .integerDiv | .realDiv => 2

-- An expression with the parentheses that are written around its parts.
inductive Written where
  | binary (left : Written) (op : BinaryOp) (right : Written)
  | unary (op : UnaryOp) (operand : Written)
  | number (value : Number)
  | var (name : String)
  | parens (inner : Written)

namespace Written

def expr : Written → Expr
  | .binary left op right => .binary left.expr op right.expr
  | .unary op operand => .unary op operand.expr
  | .number value => .number value
  | .var name => .var name
  | .parens inner => inner.expr

def lexemes : Written → List Lexeme
  | .binary left op right => left.lexemes ++ op.lexeme :: right.lexemes
  | .unary op operand => op.lexeme :: operand.lexemes
  | .number value => [value.lexeme]
  | .var name => [.identifier name]
  | .parens inner => .mark .openParen :: (inner.lexemes ++ [.mark .closeParen])

-- What is no binary operation of its own binds tightest.
def precedence : Written → Nat
  | .binary _ op _ => op.precedence
  | .unary _ _ | .number _ | .var _ | .parens _ => 3

/-- No parentheses are missing: a left operand binds at least as tight as its operator, a right one
tighter, and the operand of a sign is no binary operation. -/
def Legible : Written → Prop
  | .binary left op right =>
    op.precedence ≤ left.precedence ∧ op.precedence < right.precedence ∧ left.Legible ∧ right.Legible
  | .unary _ operand => 3 ≤ operand.precedence ∧ operand.Legible
  | .number _ | .var _ => True
  | .parens inner => inner.Legible

instance decidableLegible : (w : Written) → Decidable w.Legible
  | .binary left op right =>
    have := decidableLegible left
    have := decidableLegible right
    inferInstanceAs (Decidable (op.precedence ≤ left.precedence ∧ op.precedence < right.precedence ∧
      left.Legible ∧ right.Legible))
  | .unary _ operand =>
    have := decidableLegible operand
    inferInstanceAs (Decidable (3 ≤ operand.precedence ∧ operand.Legible))
  | .number _ | .var _ => .isTrue trivial
  | .parens inner => decidableLegible inner

def wrap (least : Nat) (w : Written) : Written :=
  if least ≤ w.precedence then w else .parens w

theorem expr_wrap (least : Nat) (w : Written) : (w.wrap least).expr = w.expr := by
  unfold wrap
  split <;> rfl

theorem legible_wrap {least : Nat} {w : Written} (legible : w.Legible) (most : least ≤ 3) :
    least ≤ (w.wrap least).precedence ∧ (w.wrap least).Legible := by
  unfold wrap
  split
  next tight => exact ⟨tight, legible⟩
  next => exact ⟨most, legible⟩

end Written

theorem BinaryOp.precedence_le (op : BinaryOp) : op.precedence ≤ 2 := by
  cases op <;> decide

theorem Expr.exists_written (e : Expr) : ∃ w : Written, w.expr = e ∧ w.Legible := by
  induction e with
  | binary left op right ihLeft ihRight =>
    obtain ⟨l, rfl, legibleLeft⟩ := ihLeft
    obtain ⟨r, rfl, legibleRight⟩ := ihRight
    have most := op.precedence_le
    have asLeft := Written.legible_wrap legibleLeft (Nat.le_succ_of_le most)
    have asRight := Written.legible_wrap legibleRight (Nat.succ_le_succ most)
    refine ⟨.binary (l.wrap op.precedence) op (r.wrap (op.precedence + 1)), ?_, ?_⟩
    · rw [Written.expr, Written.expr_wrap, Written.expr_wrap]
    · exact ⟨asLeft.1, asRight.1, asLeft.2, asRight.2⟩
  | unary op operand ih =>
    obtain ⟨w, rfl, legible⟩ := ih
    refine ⟨.unary op (w.wrap 3), ?_, Written.legible_wrap legible (Nat.le_refl 3)⟩
    rw [Written.expr, Written.expr_wrap]
  | number value => exact ⟨.number value, rfl, trivial⟩
  | var name => exact ⟨.var name, rfl, trivial⟩

mutual

def Statement.WrittenAs : Statement → List Lexeme → Prop
  | .compound body, lexemes =>
    ∃ inner, Statement.AllWrittenAs body inner ∧
      lexemes = .keyword .blockBegin :: (inner ++ [.keyword .blockEnd])
  | .assign target value, lexemes =>
    ∃ w : Written, w.expr = value ∧ w.Legible ∧
      lexemes = .identifier target :: .mark .assign :: w.lexemes
  | .noOp, lexemes => lexemes = []

def Statement.AllWrittenAs : List Statement → List Lexeme → Prop
  | [], _ => False
  | [s], lexemes => s.WrittenAs lexemes
  | s :: next :: rest, lexemes =>
    ∃ first more, s.WrittenAs first ∧ Statement.AllWrittenAs (next :: rest) more ∧
      lexemes = first ++ .mark .semicolon :: more

end

def Declaration.lexemes (d : Declaration) : List Lexeme :=
  [.identifier d.name, .mark .colon, d.typeName.lexeme, .mark .semicolon]

def Declaration.sectionLexemes : List Declaration → List Lexeme
  | [] => []
  | d :: rest => .keyword .var :: (d :: rest).flatMap Declaration.lexemes

def Program.WrittenAs (p : Program) (lexemes : List Lexeme) : Prop :=
  ∃ body, Statement.AllWrittenAs p.body body ∧
    lexemes = .keyword .program :: .identifier p.name :: .mark .semicolon ::
      (Declaration.sectionLexemes p.declarations ++
        .keyword .blockBegin :: (body ++ [.keyword .blockEnd, .mark .dot]))

/-- Names are identifiers, and constants are integers that are not negative. -/
def Expr.Expressible : Expr → Prop
  | .binary left _ right => left.Expressible ∧ right.Expressible
  | .unary _ operand => operand.Expressible
  | .number (.integer value) => 0 ≤ value.toInt
  | .number (.real _) => False
  | .var name => IsIdentifier name

mutual

def Statement.Expressible : Statement → Prop
  | .compound body => body ≠ [] ∧ Statement.AllExpressible body
  | .assign target value => IsIdentifier target ∧ value.Expressible
  | .noOp => True

def Statement.AllExpressible : List Statement → Prop
  | [] => True
  | s :: rest => s.Expressible ∧ Statement.AllExpressible rest

end

structure Program.Expressible (p : Program) : Prop where
  name : IsIdentifier p.name
  declarations : ∀ d ∈ p.declarations, IsIdentifier d.name
  body : p.body ≠ [] ∧ Statement.AllExpressible p.body

namespace Statement

mutual

theorem exists_writtenAs : (s : Statement) → s.Expressible → ∃ lexemes, s.WrittenAs lexemes
  | .compound body, expressible =>
    have ⟨inner, written⟩ := exists_allWrittenAs body expressible.1 expressible.2
    ⟨_, inner, written, rfl⟩
  | .assign _ value, _ =>
    have ⟨w, same, legible⟩ := value.exists_written
    ⟨_, w, same, legible, rfl⟩
  | .noOp, _ => ⟨[], rfl⟩

theorem exists_allWrittenAs : (body : List Statement) → body ≠ [] → AllExpressible body →
    ∃ lexemes, AllWrittenAs body lexemes
  | [], nonempty, _ => absurd rfl nonempty
  | [s], _, expressible => exists_writtenAs s expressible.1
  | s :: next :: rest, _, expressible =>
    have ⟨first, written⟩ := exists_writtenAs s expressible.1
    have ⟨more, writtenRest⟩ :=
      exists_allWrittenAs (next :: rest) (List.cons_ne_nil _ _) expressible.2
    ⟨_, first, more, written, writtenRest, rfl⟩

end

end Statement

theorem Program.exists_writtenAs {p : Program} (expressible : p.Expressible) :
    ∃ lexemes, p.WrittenAs lexemes := by
  obtain ⟨body, written⟩ :=
    Statement.exists_allWrittenAs p.body expressible.body.1 expressible.body.2
  exact ⟨_, body, written, rfl⟩

section Plain

open Lexeme

theorem BinaryOp.plain (op : BinaryOp) : op.lexeme.Plain := by
  cases op with
  | integerDiv => exact plain_keyword _
  | _ => exact plain_mark _

theorem UnaryOp.plain (op : UnaryOp) : op.lexeme.Plain := by
  cases op <;> exact plain_mark _

theorem TypeName.plain (t : TypeName) : t.lexeme.Plain := by
  cases t <;> exact plain_keyword _

theorem Written.plain {w : Written} (expressible : w.expr.Expressible) : ∀ l ∈ w.lexemes, l.Plain := by
  induction w with
  | binary left op right ihLeft ihRight =>
    simp only [lexemes, List.forall_mem_append, List.forall_mem_cons]
    exact ⟨ihLeft expressible.1, op.plain, ihRight expressible.2⟩
  | unary op operand ih =>
    simp only [lexemes, List.forall_mem_cons]
    exact ⟨op.plain, ih expressible⟩
  | number value =>
    cases value with
    | integer v => simpa [lexemes, Number.lexeme] using plain_integer expressible
    | real x => exact expressible.elim
  | var name => simpa [lexemes] using plain_identifier expressible
  | parens inner ih =>
    simp only [lexemes, List.forall_mem_cons, List.forall_mem_append]
    exact ⟨plain_mark _, ih expressible, plain_mark _, List.forall_mem_nil _⟩

mutual

theorem Statement.plain : (s : Statement) → s.Expressible → {lexemes : List Lexeme} →
    s.WrittenAs lexemes → ∀ l ∈ lexemes, l.Plain
  | .compound body, expressible, _, ⟨inner, written, same⟩ => by
    have inside := Statement.allPlain body expressible.2 written
    simp only [same, List.forall_mem_cons, List.forall_mem_append]
    exact ⟨plain_keyword _, inside, plain_keyword _, List.forall_mem_nil _⟩
  | .assign target value, expressible, _, ⟨w, isValue, _, same⟩ => by
    have inside := w.plain (isValue ▸ expressible.2)
    simp only [same, List.forall_mem_cons]
    exact ⟨plain_identifier expressible.1, plain_mark _, inside⟩
  | .noOp, _, _, same => by
    rw [same]
    exact List.forall_mem_nil _

theorem Statement.allPlain : (body : List Statement) → Statement.AllExpressible body →
    {lexemes : List Lexeme} → Statement.AllWrittenAs body lexemes → ∀ l ∈ lexemes, l.Plain
  | [s], expressible, _, written => Statement.plain s expressible.1 written
  | s :: next :: rest, expressible, _, ⟨_, _, written, writtenRest, same⟩ => by
    have here := Statement.plain s expressible.1 written
    have behind := Statement.allPlain (next :: rest) expressible.2 writtenRest
    simp only [same, List.forall_mem_append, List.forall_mem_cons]
    exact ⟨here, plain_mark _, behind⟩

end

theorem Declaration.plain {declarations : List Declaration}
    (expressible : ∀ d ∈ declarations, IsIdentifier d.name) :
    ∀ l ∈ sectionLexemes declarations, l.Plain := by
  have each (d : Declaration) (among : d ∈ declarations) : ∀ l ∈ d.lexemes, l.Plain := by
    simp only [lexemes, List.forall_mem_cons]
    exact ⟨plain_identifier (expressible d among), plain_mark _, d.typeName.plain, plain_mark _,
      List.forall_mem_nil _⟩
  cases declarations with
  | nil => simp [sectionLexemes]
  | cons first rest =>
    rw [sectionLexemes, List.forall_mem_cons]
    exact ⟨plain_keyword _, List.forall_mem_flatMap.2 each⟩

theorem Program.plain {p : Program} {lexemes : List Lexeme} (expressible : p.Expressible)
    (written : p.WrittenAs lexemes) : ∀ l ∈ lexemes, l.Plain := by
  obtain ⟨body, writtenBody, rfl⟩ := written
  have inside := Statement.allPlain p.body expressible.body.2 writtenBody
  have above := Declaration.plain expressible.declarations
  simp only [List.forall_mem_cons, List.forall_mem_append]
  exact ⟨plain_keyword _, plain_identifier expressible.name, plain_mark _, above, plain_keyword _,
    inside, plain_keyword _, plain_mark _, List.forall_mem_nil _⟩

end Plain

end MiniPascal
