import MiniPascal.Proofs.Parser.Blame
import MiniPascal.Proofs.Syntax.Written

set_option autoImplicit false

namespace MiniPascal

open MiniPascal.Parser

namespace Written

variable {w left right : Written}

def IsExpr (w : Written) : Prop :=
  ∀ rest : Derivation .exprRest, ∃ d : Derivation .expr,
    d.lexemes = w.lexemes ++ rest.lexemes ∧ d.tree = rest.tree w.expr

def IsTerm (w : Written) : Prop :=
  ∀ rest : Derivation .termRest, ∃ d : Derivation .term,
    d.lexemes = w.lexemes ++ rest.lexemes ∧ d.tree = rest.tree w.expr

def IsFactor (w : Written) : Prop :=
  ∃ d : Derivation .factor, d.lexemes = w.lexemes ∧ d.tree = w.expr

theorem IsFactor.isTerm (isFactor : w.IsFactor) : w.IsTerm := by
  intro rest
  obtain ⟨d, reads, tree⟩ := isFactor
  exact ⟨.term d rest, by simp [reads], by simp [tree]⟩

theorem IsTerm.isExpr (isTerm : w.IsTerm) : w.IsExpr := by
  intro rest
  obtain ⟨d, reads, tree⟩ := isTerm .noFactors
  exact ⟨.expr d rest, by simp [reads], by simp [tree]⟩

theorem IsExpr.add (isExpr : left.IsExpr) (isTerm : right.IsTerm) (op : AdditiveOp) :
    (binary left op.binary right).IsExpr := by
  intro rest
  obtain ⟨operand, reads', tree'⟩ := isTerm .noFactors
  obtain ⟨d, reads, tree⟩ := isExpr (.moreTerms op operand rest)
  have sign : op.lexeme = op.binary.lexeme := by cases op <;> rfl
  exact ⟨d, by simp [reads, reads', lexemes, sign], by simp [tree, tree', expr]⟩

theorem IsTerm.multiply (isTerm : left.IsTerm) (isFactor : right.IsFactor) (op : MultiplicativeOp) :
    (binary left op.binary right).IsTerm := by
  intro rest
  obtain ⟨operand, reads', tree'⟩ := isFactor
  obtain ⟨d, reads, tree⟩ := isTerm (.moreFactors op operand rest)
  have sign : op.lexeme = op.binary.lexeme := by cases op <;> rfl
  exact ⟨d, by simp [reads, reads', lexemes, sign], by simp [tree, tree', expr]⟩

theorem additive_or_multiplicative (op : BinaryOp) :
    (∃ a : AdditiveOp, a.binary = op ∧ op.precedence = 1) ∨
      ∃ m : MultiplicativeOp, m.binary = op ∧ op.precedence = 2 := by
  cases op with
  | plus => exact .inl ⟨.plus, rfl, rfl⟩
  | minus => exact .inl ⟨.minus, rfl, rfl⟩
  | times => exact .inr ⟨.times, rfl, rfl⟩
  | integerDiv => exact .inr ⟨.integerDiv, rfl, rfl⟩
  | realDiv => exact .inr ⟨.realDiv, rfl, rfl⟩

-- The tighter an expression binds, the further down in the grammar it may stand.
theorem derivable (w : Written) (legible : w.Legible) :
    w.IsExpr ∧ (2 ≤ w.precedence → w.IsTerm) ∧ (3 ≤ w.precedence → w.IsFactor) := by
  have factor {w : Written} (isFactor : w.IsFactor) :
      w.IsExpr ∧ (2 ≤ w.precedence → w.IsTerm) ∧ (3 ≤ w.precedence → w.IsFactor) :=
    ⟨isFactor.isTerm.isExpr, fun _ => isFactor.isTerm, fun _ => isFactor⟩
  induction w with
  | binary left op right ihLeft ihRight =>
    obtain ⟨tight, tighter, legibleLeft, legibleRight⟩ := legible
    obtain ⟨leftExpr, leftTerm, -⟩ := ihLeft legibleLeft
    obtain ⟨-, rightTerm, rightFactor⟩ := ihRight legibleRight
    rcases additive_or_multiplicative op with ⟨a, rfl, level⟩ | ⟨m, rfl, level⟩
    · have isExpr := leftExpr.add (rightTerm (by omega)) a
      refine ⟨isExpr, fun tooTight => ?_, fun tooTight => ?_⟩
      · rw [precedence, level] at tooTight
        omega
      · rw [precedence, level] at tooTight
        omega
    · have isTerm := (leftTerm (by omega)).multiply (rightFactor (by omega)) m
      refine ⟨isTerm.isExpr, fun _ => isTerm, fun tooTight => ?_⟩
      rw [precedence, level] at tooTight
      omega
  | unary op operand ih =>
    obtain ⟨tight, legibleOperand⟩ := legible
    obtain ⟨d, reads, tree⟩ := (ih legibleOperand).2.2 tight
    exact factor ⟨.signed op d, by simp [reads, lexemes], by simp [tree, expr]⟩
  | number value => exact factor ⟨.number value, rfl, rfl⟩
  | var name => exact factor ⟨.var name, rfl, rfl⟩
  | parens inner ih =>
    obtain ⟨d, reads, tree⟩ := (ih legible).1 .noTerms
    exact factor ⟨.parens d, by simp [reads, lexemes], by simp [tree, expr]⟩

end Written

namespace Statement

mutual

theorem derivable : (s : Statement) → {lexemes : List Lexeme} → s.WrittenAs lexemes →
    ∃ d : Derivation .statement, d.lexemes = lexemes ∧ d.tree = s
  | .compound body, _, ⟨inner, written, same⟩ => by
    obtain ⟨first, rest, reads, tree⟩ := allDerivable body written
    exact ⟨.nested (.compound first rest), by simp [same, ← reads], by simp [tree]⟩
  | .assign target value, _, ⟨w, isValue, legible, same⟩ => by
    obtain ⟨d, reads, tree⟩ := (w.derivable legible).1 .noTerms
    exact ⟨.assigning (.assignment target d), by simp [same, reads], by simp [tree, isValue]⟩
  | .noOp, _, same => ⟨.empty, same.symm, rfl⟩

theorem allDerivable : (body : List Statement) → {lexemes : List Lexeme} →
    AllWrittenAs body lexemes →
    ∃ (first : Derivation .statement) (rest : Derivation .statements),
      first.lexemes ++ rest.lexemes = lexemes ∧ first.tree :: rest.tree = body
  | [s], _, written => by
    obtain ⟨d, reads, tree⟩ := derivable s written
    exact ⟨d, .noStatements, by simp [reads], by simp [tree]⟩
  | s :: next :: rest, _, ⟨_, _, written, writtenRest, same⟩ => by
    obtain ⟨d, reads, tree⟩ := derivable s written
    obtain ⟨first, more, readsRest, treeRest⟩ := allDerivable (next :: rest) writtenRest
    exact ⟨d, .moreStatements first more, by simp [same, reads, ← readsRest], by simp [tree, treeRest]⟩

end

end Statement

namespace Declaration

def group (d : Declaration) : DeclarationGroup :=
  ⟨d.name, [], d.typeName⟩

theorem lexemes_groups (declarations : List Declaration) :
    DeclarationGroup.sectionLexemes (declarations.map group) = sectionLexemes declarations := by
  cases declarations with
  | nil => rfl
  | cons d rest =>
    rw [List.map_cons, DeclarationGroup.sectionLexemes, ← List.map_cons, List.flatMap_map]
    rfl

theorem declarations_groups (declarations : List Declaration) :
    (declarations.map group).flatMap DeclarationGroup.declarations = declarations := by
  simp [List.flatMap_map, group, DeclarationGroup.declarations]

end Declaration

theorem Program.derivable {p : Program} {lexemes : List Lexeme} (written : p.WrittenAs lexemes) :
    ∃ d : Derivation .program, d.lexemes = lexemes ∧ d.tree = p := by
  obtain ⟨body, writtenBody, rfl⟩ := written
  obtain ⟨first, rest, reads, tree⟩ := Statement.allDerivable p.body writtenBody
  let content := Derivation.block (p.declarations.map Declaration.group) (.compound first rest)
  refine ⟨.program p.name content, ?_, ?_⟩
  · simp [content, Declaration.lexemes_groups, ← reads]
  · simp [content, Declaration.declarations_groups, tree]

section Sentence

variable {text : String} {last : Position} {tokens : List Token} {d : Derivation .program}

theorem parse_result_cases (text : String) :
    (∃ p, (Stage.parse text).result = .ok p) ∨
      ∃ e, (Stage.parse text).result = .error (.parse e) := by
  simp only [Stage.parse]
  split
  next p s ran => exact .inl ⟨p, rfl⟩
  next e s ran => exact .inr ⟨e, rfl⟩

theorem parse_error_of_sentence {e : ParseError}
    (read : TokenStream.ofSource text = (TokenStream.ended last).prepend tokens)
    (sentence : d.lexemes = tokens.map Token.lexeme)
    (failed : (Stage.parse text).result = .error (.parse e)) : e = .tooDeep maxDepth := by
  obtain ⟨s, ran⟩ := source_of_parse_error failed
  obtain ⟨before, split, blames⟩ := source_error ran
  obtain ⟨more, rfl, rest⟩ := TokenStream.of_ended_prepend_eq (read.symm.trans split)
  rw [rest] at blames
  have reading : sentences.skip before (wholeInput more) d := by
    simp [Language.skip, sentences, sentence, wholeInput]
  exact (blames.of_reading reading).1

theorem parse_sentence
    (read : TokenStream.ofSource text = (TokenStream.ended last).prepend tokens)
    (sentence : d.lexemes = tokens.map Token.lexeme) :
    (Stage.parse text).result =
      if d.depth ≤ maxDepth then .ok d.tree else .error (.parse (.tooDeep maxDepth)) := by
  by_cases fits : d.depth ≤ maxDepth
  next =>
    rw [if_pos fits]
    exact parse_of_sentence read sentence fits
  next =>
    rw [if_neg fits]
    rcases parse_result_cases text with ⟨p, accepted⟩ | ⟨e, failed⟩
    · obtain ⟨_, -, other, sentence', fits', -⟩ := parse_ok_iff.1 accepted
      rw [read, TokenStream.tokens_prepend, TokenStream.tokens, List.append_nil, ← sentence] at sentence'
      rw [Derivation.lexemes_injective sentence'] at fits'
      exact absurd fits' fits
    · rw [failed, parse_error_of_sentence read sentence failed]

end Sentence

/-- A program that can be written is parsed back from every way in which it is written, whatever the
gaps between the lexemes, if the derivation of the lexemes is not too deep, and else it is refused for
its depth. -/
theorem parse_written {p : Program} (expressible : p.Expressible) :
    (∃ lexemes, p.WrittenAs lexemes) ∧
    ∀ lexemes (text : String), p.WrittenAs lexemes → Layout lexemes text.toList →
      ∃ d : Derivation .program, d.lexemes = lexemes ∧ d.tree = p ∧
        (Stage.parse text).result =
          if d.depth ≤ maxDepth then .ok p else .error (.parse (.tooDeep maxDepth)) := by
  refine ⟨Program.exists_writtenAs expressible, fun lexemes text written layout => ?_⟩
  obtain ⟨d, reads, tree⟩ := Program.derivable written
  obtain ⟨last, tokens, read, isLexemes⟩ := ofSource_layout (Program.plain expressible written) layout
  refine ⟨d, reads, tree, ?_⟩
  rw [parse_sentence read (reads.trans isLexemes.symm), tree]

-- x := 7 - (2 - x), and an empty statement.
def writtenSample : Program :=
  ⟨"P", [⟨"x", .integer⟩], [.assign "x" (.binary (.number (.integer 7)) .minus
    (.binary (.number (.integer 2)) .minus (.var "x"))), .noOp]⟩

theorem parse_written_sample :
    (Stage.parse " PROGRAM P ; VAR x : INTEGER ; BEGIN x := ( 7 ) - ( 2 - x ) ; END .").result =
      .ok writtenSample := by
  have isName : IsIdentifier "P" ∧ IsIdentifier "x" := by decide +kernel
  have expressible : writtenSample.Expressible :=
    ⟨isName.1, by simpa [writtenSample] using isName.2, by simp [writtenSample],
      ⟨isName.2, Int.natCast_nonneg 7, Int.natCast_nonneg 2, isName.2⟩, trivial, trivial⟩
  let value : Derivation .expr :=
    .expr (.term (.parens (.expr (.term (.number (.integer 7)) .noFactors) .noTerms)) .noFactors)
      (.moreTerms .minus (.term (.parens (.expr (.term (.number (.integer 2)) .noFactors)
        (.moreTerms .minus (.term (.var "x") .noFactors) .noTerms))) .noFactors) .noTerms)
  let d : Derivation .program := .program "P" (.block [⟨"x", [], .integer⟩]
    (.compound (.assigning (.assignment "x" value)) (.moreStatements .empty .noStatements)))
  let w : Written := .binary (.parens (.number (.integer 7))) .minus
    (.parens (.binary (.number (.integer 2)) .minus (.var "x")))
  have written : writtenSample.WrittenAs d.lexemes :=
    ⟨_, ⟨_, [], ⟨w, rfl, by decide, rfl⟩, rfl, rfl⟩, rfl⟩
  have text : " PROGRAM P ; VAR x : INTEGER ; BEGIN x := ( 7 ) - ( 2 - x ) ; END .".toList =
      render d.lexemes := by decide +kernel
  obtain ⟨found, reads, -, parsed⟩ :=
    (parse_written expressible).2 d.lexemes _ written (text ▸ layout_render d.lexemes)
  rw [Derivation.lexemes_injective reads, if_pos (by decide)] at parsed
  exact parsed

end MiniPascal
