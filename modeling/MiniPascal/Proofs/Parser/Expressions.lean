import MiniPascal.Proofs.Parser.Phrase

set_option autoImplicit false

namespace MiniPascal

open MiniPascal.Parser

namespace AdditiveOp

theorem of_additive? {l : Lexeme} {b : BinaryOp} (known : additive? l.kind = some b) :
    ∃ op : AdditiveOp, l = op.lexeme ∧ b = op.binary := by
  unfold additive? at known
  split at known
  next kind => exact ⟨.plus, Lexeme.eq_of_kind_eq rfl kind, (Option.some.inj known).symm⟩
  next kind => exact ⟨.minus, Lexeme.eq_of_kind_eq rfl kind, (Option.some.inj known).symm⟩
  next => cases known

theorem additive?_lexeme (op : AdditiveOp) : additive? op.lexeme.kind = some op.binary := by
  cases op <;> rfl

theorem multiplicative?_lexeme (op : AdditiveOp) : multiplicative? op.lexeme.kind = none := by
  cases op <;> rfl

theorem lexeme_injective {op other : AdditiveOp} (same : op.lexeme = other.lexeme) : op = other := by
  cases op <;> cases other <;> first | rfl | cases same

end AdditiveOp

namespace MultiplicativeOp

theorem of_multiplicative? {l : Lexeme} {b : BinaryOp} (known : multiplicative? l.kind = some b) :
    ∃ op : MultiplicativeOp, l = op.lexeme ∧ b = op.binary := by
  unfold multiplicative? at known
  split at known
  next kind => exact ⟨.times, Lexeme.eq_of_kind_eq rfl kind, (Option.some.inj known).symm⟩
  next kind => exact ⟨.realDiv, Lexeme.eq_of_kind_eq rfl kind, (Option.some.inj known).symm⟩
  next kind => exact ⟨.integerDiv, Lexeme.eq_of_kind_eq rfl kind, (Option.some.inj known).symm⟩
  next => cases known

theorem multiplicative?_lexeme (op : MultiplicativeOp) :
    multiplicative? op.lexeme.kind = some op.binary := by
  cases op <;> rfl

theorem lexeme_injective {op other : MultiplicativeOp} (same : op.lexeme = other.lexeme) :
    op = other := by
  cases op <;> cases other <;> first | rfl | cases same

end MultiplicativeOp

namespace UnaryOp

theorem of_sign? {l : Lexeme} {op : UnaryOp} (known : sign? l.kind = some op) : l = op.lexeme := by
  unfold sign? at known
  split at known
  next kind => exact Option.some.inj known ▸ Lexeme.eq_of_kind_eq rfl kind
  next kind => exact Option.some.inj known ▸ Lexeme.eq_of_kind_eq rfl kind
  next => cases known

theorem sign?_lexeme (op : UnaryOp) : sign? op.lexeme.kind = some op := by
  cases op <;> rfl

end UnaryOp

theorem TokenStream.literal?_eq (stream : TokenStream) : literal? stream = stream.lexeme.number? := by
  cases stream <;> rfl

namespace Number

theorem number?_lexeme (value : Number) : value.lexeme.number? = some value := by
  cases value <;> rfl

theorem of_number? {l : Lexeme} {value : Number} (known : l.number? = some value) :
    l = value.lexeme := by
  cases l <;> simp [Lexeme.number?] at known <;> rw [← known] <;> rfl

end Number

namespace Nonterminal

-- The kinds of tokens that may stand behind a nonterminal, as far as its production cares.
def Ends : Nonterminal → TokenKind → Prop
  | .program, _ | .block, _ | .compound, _ | .factor, _ => True
  | .statements, k => k = .keyword .blockEnd
  | .statement, k => k = .mark .semicolon ∨ k = .keyword .blockEnd
  | .assignment, k | .expr, k | .exprRest, k => additive? k = none ∧ multiplicative? k = none
  | .term, k | .termRest, k => multiplicative? k = none

end Nonterminal

namespace Phrase

variable {δ α : Type}

theorem get_bind {s : ParserState} (f : ParserState → Parser α) : (get >>= f) s = f s s := rfl

theorem ReadAt.enter {P : Phrase δ α} {x : Parser α} {s : ParserState} (room : Nat)
    (production : Production) (reads : P.ReadBy x) : P.ReadAt s (do enter room production; x) :=
  reads { s with log := .production (maxDepth - room) production :: s.log }

def of (n : Nonterminal) (room : Nat) : Phrase (Derivation n) n.Tree where
  lexemes := Derivation.lexemes
  value := Derivation.tree
  fitting d := d.depth ≤ room
  ends := n.Ends

theorem tooDeep_readBy {n : Nonterminal} (takesLevel : ∀ d : Derivation n, 0 < d.depth) :
    (of n 0).ReadBy tooDeep :=
  fun _ => tooDeep_readAt fun d _ => Nat.not_le.2 (takesLevel d)

section Chains

structure Operators (op? : TokenKind → Option BinaryOp) (ω : Type) where
  lexeme : ω → Lexeme
  binary : ω → BinaryOp
  op?_lexeme : ∀ op, op? (lexeme op).kind = some (binary op)
  of_op? : ∀ {l b}, op? l.kind = some b → ∃ op, l = lexeme op ∧ b = binary op
  injective : ∀ {op other}, lexeme op = lexeme other → op = other
  op?_end : op? .endOfInput = none

variable {ω ρ : Type} {op? : TokenKind → Option BinaryOp} {ops : Operators op? ω}
  {operand : Nat → Phrase δ Expr} {rest : Nat → Expr → Phrase ρ Expr} {last : ρ}
  {further : ω → δ → ρ → ρ}

/-- How the rest of a chain derives behind what has been joined so far: it is nothing, or an operator,
an operand and what is left of the chain, both one level below. -/
structure Chain (ops : Operators op? ω) (operand : Nat → Phrase δ Expr)
    (rest : Nat → Expr → Phrase ρ Expr) (last : ρ) (further : ω → δ → ρ → ρ) : Prop where
  last_or_further : ∀ r, last = r ∨ ∃ op d r', further op d r' = r
  last_part : ∀ room left, (nothing left).Part (rest room left) fun _ => last
  further_part : ∀ room left op,
    (((operand room).andThen fun right => rest room (.binary left (ops.binary op) right)).opened
      (ops.lexeme op)).Part (rest (room + 1) left) fun d => further op d.1 d.2
  further_lexemes : ∀ room left op d r, ∃ others,
    (rest room left).lexemes (further op d r) = ops.lexeme op :: others
  further_deep : ∀ left op d r, ¬ (rest 0 left).fitting (further op d r)
  ends : ∀ {room left k}, (rest room left).ends k → op? k = none ∧ (operand room).ends k
  operand_ends : ∀ room op, (operand room).ends (ops.lexeme op).kind

namespace Chain

variable (chain : Chain ops operand rest last further)

include chain

theorem begins_further {room : Nat} {left : Expr} {op : ω} {d : δ} {r : ρ} {l : Lexeme}
    (begins : (rest room left).Begins (further op d r) l) : ops.lexeme op = l := by
  obtain ⟨others, same⟩ := chain.further_lexemes room left op d r
  exact (begins_cons same).1 begins

theorem begins_last {room : Nat} {left : Expr} {r : ρ} {l : Lexeme}
    (begins : (rest room left).Begins r l) (known : op? l.kind = none) : r = last := by
  obtain rfl | ⟨op, d, r, rfl⟩ := chain.last_or_further r
  · rfl
  · rw [← chain.begins_further begins, ops.op?_lexeme] at known
    cases known

theorem begins_op {room : Nat} {left : Expr} {r : ρ} {op : ω}
    (begins : (rest room left).Begins r (ops.lexeme op)) : ∃ d r', r = further op d r' := by
  obtain rfl | ⟨other, d, r, rfl⟩ := chain.last_or_further r
  · have empty : (rest room left).lexemes last = [] := (chain.last_part room left).lexemes ()
    have known := (chain.ends ((begins_nil empty).1 begins)).1
    rw [ops.op?_lexeme] at known
    cases known
  · obtain rfl := ops.injective (chain.begins_further begins)
    exact ⟨d, r, rfl⟩

theorem operand_ends_of_begins {room : Nat} {left : Expr} {r : ρ} {l : Lexeme}
    (begins : (rest room left).Begins r l) : (operand room).ends l.kind := by
  obtain rfl | ⟨op, d, r, rfl⟩ := chain.last_or_further r
  · have empty : (rest room left).lexemes last = [] := (chain.last_part room left).lexemes ()
    exact (chain.ends ((begins_nil empty).1 begins)).2
  · exact chain.begins_further begins ▸ chain.operand_ends room op

-- The operand that comes next is joined before the rest of the chain is read.
theorem readBy_operand {room : Nat} {x : Parser Expr} {f : Expr → Parser Expr}
    (readsOperand : (operand room).ReadBy x) (readsRest : ∀ left, (rest room left).ReadBy (f left))
    (join : Expr → Expr) :
    ((operand room).andThen fun right => rest room (join right)).ReadBy (do f (join (← x))) :=
  fun s => (readsOperand s).andThen (fun right s' _ => readsRest (join right) s') ⟨last⟩
    fun _ _ _ begins => chain.operand_ends_of_begins begins

theorem readAt_of_none {room : Nat} {left : Expr} {s : ParserState}
    (known : op? s.stream.kind = none) : (rest room left).ReadAt s (pure left) := by
  rw [← s.stream.kind_lexeme] at known
  refine (chain.last_part room left).readAt (nothing_readBy left s) fun r begins => ⟨(), ?_⟩
  exact (chain.begins_last begins known).symm

theorem readBy_zero (left : Expr) :
    (rest 0 left).ReadBy
      (do
        match op? (← current) with
        | none => return left
        | some _ => tooDeep) := by
  intro s
  cases known : op? s.stream.kind with
  | none =>
    refine .congr ?_ (chain.readAt_of_none known)
    rw [current_bind, known]
  | some b =>
    obtain ⟨op, here, rfl⟩ := ops.of_op? (s.stream.kind_lexeme ▸ known)
    refine .congr (y := tooDeep) ?_ (tooDeep_readAt fun r begins => ?_)
    · rw [current_bind, known]
    · obtain ⟨d, r, rfl⟩ := chain.begins_op (here ▸ begins)
      exact chain.further_deep left op d r

theorem readBy_succ {room : Nat} {x : Parser Expr} {f : Expr → Parser Expr}
    (readsOperand : (operand room).ReadBy x) (readsRest : ∀ left, (rest room left).ReadBy (f left))
    (inhabited : Nonempty δ) (left : Expr) :
    (rest (room + 1) left).ReadBy
      (do
        match op? (← current) with
        | none => return left
        | some b =>
          advance
          f (.binary left b (← x))) := by
  intro s
  cases known : op? s.stream.kind with
  | none =>
    refine .congr ?_ (chain.readAt_of_none known)
    rw [current_bind, known]
  | some b =>
    obtain ⟨op, here, rfl⟩ := ops.of_op? (s.stream.kind_lexeme ▸ known)
    have notEnd : ops.lexeme op ≠ .endOfInput := by
      intro same
      rw [s.stream.kind_lexeme.symm, here, same] at known
      exact Option.some_ne_none _ (known.symm.trans ops.op?_end)
    have both := chain.readBy_operand readsOperand readsRest (.binary left (ops.binary op))
    have bothInhabited : Nonempty (δ × ρ) := let ⟨d⟩ := inhabited; ⟨(d, last)⟩
    refine .congr ?_ ((chain.further_part room left op).readAt
      (.opened both (advance_readAt here notEnd) bothInhabited) fun r begins => ?_)
    · rw [current_bind, known]
    · obtain ⟨d, r, rfl⟩ := chain.begins_op (here ▸ begins)
      exact ⟨(d, r), rfl⟩

end Chain

end Chains

section Expressions

def exprRest (room : Nat) (left : Expr) : Phrase (Derivation .exprRest) Expr :=
  (of .exprRest room).map (· left)

def termRest (room : Nat) (left : Expr) : Phrase (Derivation .termRest) Expr :=
  (of .termRest room).map (· left)

def additiveOps : Operators additive? AdditiveOp :=
  ⟨AdditiveOp.lexeme, AdditiveOp.binary, AdditiveOp.additive?_lexeme, AdditiveOp.of_additive?,
    AdditiveOp.lexeme_injective, rfl⟩

def multiplicativeOps : Operators multiplicative? MultiplicativeOp :=
  ⟨MultiplicativeOp.lexeme, MultiplicativeOp.binary, MultiplicativeOp.multiplicative?_lexeme,
    MultiplicativeOp.of_multiplicative?, MultiplicativeOp.lexeme_injective, rfl⟩

theorem exprRest_chain :
    Chain additiveOps (of .term) exprRest Derivation.noTerms Derivation.moreTerms where
  last_or_further r := by
    cases r with
    | noTerms => exact .inl rfl
    | moreTerms op operand rest => exact .inr ⟨op, operand, rest, rfl⟩
  last_part _ _ := ⟨fun _ => rfl, fun _ => rfl, fun _ => iff_of_true (Nat.zero_le _) trivial,
    fun _ _ => trivial⟩
  further_part room left op := by
    refine ⟨fun _ => rfl, fun _ => rfl, fun d => ?_, fun _ ends _ => ends⟩
    simp only [exprRest, of, Phrase.map, opened, Phrase.andThen, Derivation.depth]
    omega
  further_lexemes _ _ _ _ _ := ⟨_, rfl⟩
  further_deep _ _ _ _ := Nat.not_succ_le_zero _
  ends h := h
  operand_ends _ op := op.multiplicative?_lexeme

theorem termRest_chain :
    Chain multiplicativeOps (of .factor) termRest Derivation.noFactors Derivation.moreFactors where
  last_or_further r := by
    cases r with
    | noFactors => exact .inl rfl
    | moreFactors op operand rest => exact .inr ⟨op, operand, rest, rfl⟩
  last_part _ _ := ⟨fun _ => rfl, fun _ => rfl, fun _ => iff_of_true (Nat.zero_le _) trivial,
    fun _ _ => trivial⟩
  further_part room left op := by
    refine ⟨fun _ => rfl, fun _ => rfl, fun d => ?_, fun _ ends _ => ends⟩
    simp only [termRest, of, Phrase.map, opened, Phrase.andThen, Derivation.depth]
    omega
  further_lexemes _ _ _ _ _ := ⟨_, rfl⟩
  further_deep _ _ _ _ := Nat.not_succ_le_zero _
  ends h := ⟨h, trivial⟩
  operand_ends _ _ := trivial

theorem factor_inhabited : Nonempty (Derivation .factor) := ⟨.var ""⟩

theorem term_inhabited : Nonempty (Derivation .term) := ⟨.term (.var "") .noFactors⟩

theorem expr_inhabited : Nonempty (Derivation .expr) := ⟨.expr (.term (.var "") .noFactors) .noTerms⟩

variable {room : Nat}

theorem expr_readBy (readsTerm : (of .term room).ReadBy (Parser.term room))
    (readsRest : ∀ left, (exprRest room left).ReadBy (Parser.exprRest room left)) :
    (of .expr (room + 1)).ReadBy (Parser.expr (room + 1)) := by
  have part : ((of .term room).andThen (exprRest room)).Part (of .expr (room + 1))
      fun d => .expr d.1 d.2 := by
    refine ⟨fun _ => rfl, fun _ => rfl, fun d => ?_, fun _ ends _ => ends⟩
    simp only [exprRest, of, Phrase.map, Phrase.andThen, Derivation.depth]
    omega
  intro s
  have both := exprRest_chain.readBy_operand readsTerm readsRest fun left => left
  refine part.readAt (.enter _ _ both) fun d _ => ?_
  cases d with
  | expr first rest => exact ⟨(first, rest), rfl⟩

theorem term_readBy (readsFactor : (of .factor room).ReadBy (Parser.factor room))
    (readsRest : ∀ left, (termRest room left).ReadBy (Parser.termRest room left)) :
    (of .term (room + 1)).ReadBy (Parser.term (room + 1)) := by
  have part : ((of .factor room).andThen (termRest room)).Part (of .term (room + 1))
      fun d => .term d.1 d.2 := by
    refine ⟨fun _ => rfl, fun _ => rfl, fun d => ?_, fun _ ends _ => ends⟩
    simp only [termRest, of, Phrase.map, Phrase.andThen, Derivation.depth]
    omega
  intro s
  have both := termRest_chain.readBy_operand readsFactor readsRest fun left => left
  refine part.readAt (.enter _ _ both) fun d _ => ?_
  cases d with
  | term first rest => exact ⟨(first, rest), rfl⟩

section Factors

variable {s : ParserState}

theorem signed_readAt (reads : (of .factor room).ReadBy (Parser.factor room)) {op : UnaryOp}
    (here : s.stream.lexeme = op.lexeme) :
    (of .factor (room + 1)).ReadAt s (do advance; return .unary op (← Parser.factor room)) := by
  have part : (((of .factor room).map (Expr.unary op)).opened op.lexeme).Part
      (of .factor (room + 1)) (.signed op) :=
    ⟨fun _ => rfl, fun _ => rfl, fun _ => Nat.succ_le_succ_iff, fun _ ends => ends⟩
  have readsOperand : ((of .factor room).map (Expr.unary op)).ReadBy
      (do return .unary op (← Parser.factor room)) := fun s => (reads s).map fun _ s' => ⟨s'.log, rfl⟩
  have notEnd : op.lexeme ≠ .endOfInput := by cases op <;> simp [UnaryOp.lexeme]
  refine part.readAt (.opened readsOperand (advance_readAt here notEnd) factor_inhabited)
    fun d begins => ?_
  rw [here] at begins
  cases d with
  | signed other d =>
    have same : sign? other.lexeme.kind = sign? op.lexeme.kind := congrArg (sign? ·.kind) begins
    rw [other.sign?_lexeme, op.sign?_lexeme] at same
    obtain rfl := Option.some.inj same
    exact ⟨d, rfl⟩
  | number value => cases value <;> cases op <;> cases begins
  | parens inner => cases op <;> cases begins
  | var name => cases op <;> cases begins

theorem number_readAt {value : Number} (here : s.stream.lexeme = value.lexeme) :
    (of .factor (room + 1)).ReadAt s (do advance; return .number value) := by
  have part : ((exactly value.lexeme).map fun _ => Expr.number value).Part (of .factor (room + 1))
      fun _ => .number value :=
    ⟨fun _ => rfl, fun _ => rfl, fun _ => iff_of_true (Nat.succ_le_succ (Nat.zero_le _)) trivial,
      fun _ ends => ends⟩
  have notEnd : value.lexeme ≠ .endOfInput := by cases value <;> simp [Number.lexeme]
  refine part.readAt ((advance_readAt here notEnd).map fun _ s' => ⟨s'.log, rfl⟩) fun d begins => ?_
  rw [here] at begins
  cases d with
  | signed op d => cases value <;> cases op <;> cases begins
  | number other =>
    have same : other.lexeme.number? = value.lexeme.number? := congrArg Lexeme.number? begins
    rw [other.number?_lexeme, value.number?_lexeme] at same
    exact ⟨(), by rw [Option.some.inj same]⟩
  | parens inner => cases value <;> cases begins
  | var name => cases value <;> cases begins

theorem parens_readAt (reads : (of .expr room).ReadBy (Parser.expr room))
    (here : s.stream.lexeme = .mark .openParen) :
    (of .factor (room + 1)).ReadAt s
      (parens (Parser.expr room)) := by
  have part : ((((of .expr room).map id).closed (.mark .closeParen)).opened (.mark .openParen)).Part
      (of .factor (room + 1)) .parens :=
    ⟨fun _ => rfl, fun _ => rfl, fun _ => Nat.succ_le_succ_iff, fun _ ends => ends⟩
  have readsInner : (((of .expr room).map id).closed (.mark .closeParen)).ReadBy
      (do let inner ← Parser.expr room; eatMark .closeParen; return inner) :=
    reads.closed rfl (by simp) ⟨rfl, rfl⟩ id
  refine part.readAt (.opened readsInner (exactly_readBy rfl (by simp) s) expr_inhabited)
    fun d begins => ?_
  rw [here] at begins
  cases d with
  | signed op d => cases op <;> cases begins
  | number value => cases value <;> cases begins
  | parens inner => exact ⟨inner, rfl⟩
  | var name => cases begins

theorem var_readAt (noSign : sign? s.stream.lexeme.kind = none)
    (noNumber : s.stream.lexeme.number? = none) (noParen : s.stream.lexeme ≠ .mark .openParen) :
    (of .factor (room + 1)).ReadAt s (do return .var (← Parser.name)) := by
  have part : (name.map Expr.var).Part (of .factor (room + 1)) .var :=
    ⟨fun _ => rfl, fun _ => rfl, fun _ => iff_of_true (Nat.succ_le_succ (Nat.zero_le _)) trivial,
      fun _ ends => ends⟩
  refine part.readAt ((name_readBy s).map fun _ s' => ⟨s'.log, rfl⟩) fun d begins => ?_
  cases d with
  | signed op d =>
    have first : op.lexeme = s.stream.lexeme := begins
    rw [← first, op.sign?_lexeme] at noSign
    cases noSign
  | number value =>
    have first : value.lexeme = s.stream.lexeme := begins
    rw [← first, value.number?_lexeme] at noNumber
    cases noNumber
  | parens inner =>
    have first : .mark .openParen = s.stream.lexeme := begins
    exact absurd first.symm noParen
  | var name => exact ⟨name, rfl⟩

theorem factor_readBy (readsFactor : (of .factor room).ReadBy (Parser.factor room))
    (readsExpr : (of .expr room).ReadBy (Parser.expr room)) :
    (of .factor (room + 1)).ReadBy (Parser.factor (room + 1)) := by
  intro s
  refine .enter _ _ fun s => ?_
  have kind := s.stream.kind_lexeme
  cases sign : sign? s.stream.kind with
  | some op =>
    refine .congr ?_ (signed_readAt readsFactor (UnaryOp.of_sign? (kind ▸ sign)))
    rw [operand, get_bind, sign, operandAt]
  | none =>
    cases literal : literal? s.stream with
    | some value =>
      refine .congr ?_ (number_readAt (Number.of_number? (s.stream.literal?_eq ▸ literal)))
      rw [operand, get_bind, sign, literal, operandAt]
    | none =>
      by_cases paren : s.stream.kind = .mark .openParen
      next =>
        refine .congr ?_ (parens_readAt readsExpr (Lexeme.eq_of_kind_eq rfl (kind.trans paren)))
        rw [operand, get_bind, sign, literal, operandAt, if_pos paren]
      next =>
        have noParen : s.stream.lexeme ≠ .mark .openParen := fun same => paren (kind ▸ same ▸ rfl)
        refine .congr ?_ (var_readAt (kind ▸ sign) (s.stream.literal?_eq ▸ literal) noParen)
        rw [operand, get_bind, sign, literal, operandAt, if_neg paren]

end Factors

structure ExpressionsRead (room : Nat) : Prop where
  expr : (of .expr room).ReadBy (Parser.expr room)
  exprRest : ∀ left, (exprRest room left).ReadBy (Parser.exprRest room left)
  term : (of .term room).ReadBy (Parser.term room)
  termRest : ∀ left, (termRest room left).ReadBy (Parser.termRest room left)
  factor : (of .factor room).ReadBy (Parser.factor room)

theorem expressionsRead_zero : ExpressionsRead 0 where
  expr := tooDeep_readBy fun d => by cases d; simp
  exprRest left := exprRest_chain.readBy_zero left
  term := tooDeep_readBy fun d => by cases d; simp
  termRest left := termRest_chain.readBy_zero left
  factor := tooDeep_readBy fun d => by cases d <;> simp

theorem expressionsRead (room : Nat) : ExpressionsRead room := by
  induction room with
  | zero => exact expressionsRead_zero
  | succ room ih =>
    exact {
      expr := expr_readBy ih.term ih.exprRest
      exprRest := exprRest_chain.readBy_succ ih.term ih.exprRest term_inhabited
      term := term_readBy ih.factor ih.termRest
      termRest := termRest_chain.readBy_succ ih.factor ih.termRest factor_inhabited
      factor := factor_readBy ih.factor ih.expr }

end Expressions

end Phrase

end MiniPascal
