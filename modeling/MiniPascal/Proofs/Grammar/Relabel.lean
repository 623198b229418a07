import MiniPascal.Proofs.Grammar.Derivation

set_option autoImplicit false

namespace MiniPascal

namespace Lexeme

def isFixed : Lexeme → Bool
  | .keyword _ | .mark _ | .endOfInput => true
  | .identifier _ | .integer _ | .real _ => false

theorem eq_of_kind_eq {l fixed : Lexeme} (isFixed : fixed.isFixed) (same : l.kind = fixed.kind) :
    l = fixed := by
  cases fixed <;> cases l <;> simp_all [kind, Lexeme.isFixed]

theorem eq_identifier_of_kind {l : Lexeme} (same : l.kind = .identifier) :
    ∃ name, l = .identifier name := by
  cases l <;> simp_all [kind]

@[simp] theorem isFixed_additive (op : AdditiveOp) : op.lexeme.isFixed = true := by
  cases op <;> rfl

@[simp] theorem isFixed_multiplicative (op : MultiplicativeOp) : op.lexeme.isFixed = true := by
  cases op <;> rfl

@[simp] theorem isFixed_sign (op : UnaryOp) : op.lexeme.isFixed = true := by
  cases op <;> rfl

@[simp] theorem isFixed_typeName (t : TypeName) : t.lexeme.isFixed = true := by
  cases t <;> rfl

theorem eq_number_of_kind {l : Lexeme} {n : Number} (same : l.kind = n.lexeme.kind) :
    ∃ value : Number, l = value.lexeme := by
  cases n with
  | integer =>
    cases l <;> simp [kind, Number.lexeme] at same
    next value => exact ⟨.integer value, rfl⟩
  | real =>
    cases l <;> simp [kind, Number.lexeme] at same
    next value => exact ⟨.real value, rfl⟩

end Lexeme

def SameKinds (these those : List Lexeme) : Prop :=
  these.map Lexeme.kind = those.map Lexeme.kind

namespace SameKinds

variable {these those left right : List Lexeme}

theorem nil (same : SameKinds these []) : these = [] := by
  simpa [SameKinds] using same

theorem fixed {l : Lexeme} (same : SameKinds these (l :: those)) (isFixed : l.isFixed) :
    ∃ rest, these = l :: rest ∧ SameKinds rest those := by
  obtain ⟨other, rest, rfl, kind, sameRest⟩ := List.map_eq_cons_iff.1 same
  exact ⟨rest, by rw [Lexeme.eq_of_kind_eq isFixed kind], sameRest⟩

theorem name {name : String} (same : SameKinds these (.identifier name :: those)) :
    ∃ other rest, these = .identifier other :: rest ∧ SameKinds rest those := by
  obtain ⟨l, rest, rfl, kind, sameRest⟩ := List.map_eq_cons_iff.1 same
  obtain ⟨other, rfl⟩ := Lexeme.eq_identifier_of_kind kind
  exact ⟨other, rest, rfl, sameRest⟩

theorem append (same : SameKinds these (left ++ right)) :
    ∃ front back, these = front ++ back ∧ SameKinds front left ∧ SameKinds back right := by
  rw [SameKinds, List.map_append] at same
  obtain ⟨front, back, rfl, front_same, back_same⟩ := List.map_eq_append_iff.1 same
  exact ⟨front, back, rfl, front_same, back_same⟩

end SameKinds

namespace DeclarationGroup

theorem relabel_names {names : List String} {these : List Lexeme}
    (same : SameKinds these (names.flatMap fun name => [.mark .comma, .identifier name])) :
    ∃ others : List String, these = others.flatMap fun name => [.mark .comma, .identifier name] := by
  induction names generalizing these with
  | nil => exact ⟨[], same.nil⟩
  | cons name rest ih =>
    obtain ⟨_, rfl, afterComma⟩ := same.fixed rfl
    obtain ⟨other, _, rfl, afterName⟩ := afterComma.name
    obtain ⟨others, rfl⟩ := ih afterName
    exact ⟨other :: others, rfl⟩

theorem relabel (g : DeclarationGroup) {these : List Lexeme} (same : SameKinds these g.lexemes) :
    ∃ other : DeclarationGroup, these = other.lexemes := by
  obtain ⟨first, _, rfl, afterFirst⟩ := same.name
  obtain ⟨_, _, rfl, names, afterNames⟩ := afterFirst.append
  obtain ⟨others, rfl⟩ := relabel_names names
  obtain ⟨_, rfl, afterColon⟩ := afterNames.fixed rfl
  obtain ⟨_, rfl, afterType⟩ := afterColon.fixed (Lexeme.isFixed_typeName _)
  obtain rfl := afterType.nil
  exact ⟨⟨first, others, g.typeName⟩, rfl⟩

theorem relabel_groups {groups : List DeclarationGroup} {these : List Lexeme}
    (same : SameKinds these (groups.flatMap fun g => g.lexemes ++ [.mark .semicolon])) :
    ∃ others : List DeclarationGroup, others.length = groups.length ∧
      these = others.flatMap fun g => g.lexemes ++ [.mark .semicolon] := by
  induction groups generalizing these with
  | nil => exact ⟨[], rfl, same.nil⟩
  | cons g rest ih =>
    obtain ⟨_, _, rfl, sameFirst, sameRest⟩ := same.append
    obtain ⟨_, _, rfl, sameGroup, afterGroup⟩ := sameFirst.append
    obtain ⟨other, rfl⟩ := g.relabel sameGroup
    obtain ⟨_, rfl, afterSemicolon⟩ := afterGroup.fixed rfl
    obtain rfl := afterSemicolon.nil
    obtain ⟨others, size, rfl⟩ := ih sameRest
    exact ⟨other :: others, by simp [size], rfl⟩

theorem relabel_section {groups : List DeclarationGroup} {these : List Lexeme}
    (same : SameKinds these (sectionLexemes groups)) :
    ∃ others : List DeclarationGroup, these = sectionLexemes others := by
  cases groups with
  | nil => exact ⟨[], same.nil⟩
  | cons g rest =>
    obtain ⟨_, rfl, afterVar⟩ := same.fixed rfl
    obtain ⟨others, size, rfl⟩ := relabel_groups afterVar
    cases others with
    | nil => simp at size
    | cons other others => exact ⟨other :: others, rfl⟩

end DeclarationGroup

namespace Derivation

theorem relabel {n : Nonterminal} (d : Derivation n) {these : List Lexeme}
    (same : SameKinds these d.lexemes) :
    ∃ other : Derivation n, these = other.lexemes ∧ other.depth = d.depth := by
  induction d generalizing these with
  | program title content ih =>
    obtain ⟨_, rfl, afterProgram⟩ := same.fixed rfl
    obtain ⟨title, _, rfl, afterTitle⟩ := afterProgram.name
    obtain ⟨_, rfl, afterSemicolon⟩ := afterTitle.fixed rfl
    obtain ⟨_, _, rfl, sameContent, afterContent⟩ := afterSemicolon.append
    obtain ⟨content, rfl, depth⟩ := ih sameContent
    obtain ⟨_, rfl, afterDot⟩ := afterContent.fixed rfl
    obtain rfl := afterDot.nil
    exact ⟨.program title content, rfl, congrArg (· + 1) depth⟩
  | block groups body ih =>
    obtain ⟨_, _, rfl, sameGroups, sameBody⟩ := same.append
    obtain ⟨groups, rfl⟩ := DeclarationGroup.relabel_section sameGroups
    obtain ⟨body, rfl, depth⟩ := ih sameBody
    exact ⟨.block groups body, rfl, congrArg (· + 1) depth⟩
  | compound first rest ihFirst ihRest =>
    obtain ⟨_, rfl, afterBegin⟩ := same.fixed rfl
    obtain ⟨_, _, rfl, sameBody, afterBody⟩ := afterBegin.append
    obtain ⟨_, _, rfl, sameFirst, sameRest⟩ := sameBody.append
    obtain ⟨first, rfl, firstDepth⟩ := ihFirst sameFirst
    obtain ⟨rest, rfl, restDepth⟩ := ihRest sameRest
    obtain ⟨_, rfl, afterEnd⟩ := afterBody.fixed rfl
    obtain rfl := afterEnd.nil
    exact ⟨.compound first rest, rfl, by simp only [depth, firstDepth, restDepth]⟩
  | noStatements => exact ⟨.noStatements, same.nil, rfl⟩
  | moreStatements next rest ihNext ihRest =>
    obtain ⟨_, rfl, afterSemicolon⟩ := same.fixed rfl
    obtain ⟨_, _, rfl, sameNext, sameRest⟩ := afterSemicolon.append
    obtain ⟨next, rfl, nextDepth⟩ := ihNext sameNext
    obtain ⟨rest, rfl, restDepth⟩ := ihRest sameRest
    exact ⟨.moreStatements next rest, rfl, by simp only [depth, nextDepth, restDepth]⟩
  | nested body ih =>
    obtain ⟨body, rfl, depth⟩ := ih same
    exact ⟨.nested body, rfl, depth⟩
  | assigning step ih =>
    obtain ⟨step, rfl, depth⟩ := ih same
    exact ⟨.assigning step, rfl, depth⟩
  | empty => exact ⟨.empty, same.nil, rfl⟩
  | assignment target value ih =>
    obtain ⟨target, _, rfl, afterTarget⟩ := same.name
    obtain ⟨_, rfl, afterAssign⟩ := afterTarget.fixed rfl
    obtain ⟨value, rfl, depth⟩ := ih afterAssign
    exact ⟨.assignment target value, rfl, congrArg (· + 1) depth⟩
  | expr first rest ihFirst ihRest =>
    obtain ⟨_, _, rfl, sameFirst, sameRest⟩ := same.append
    obtain ⟨first, rfl, firstDepth⟩ := ihFirst sameFirst
    obtain ⟨rest, rfl, restDepth⟩ := ihRest sameRest
    exact ⟨.expr first rest, rfl, by simp only [depth, firstDepth, restDepth]⟩
  | noTerms => exact ⟨.noTerms, same.nil, rfl⟩
  | moreTerms op operand rest ihOperand ihRest =>
    obtain ⟨_, rfl, afterOp⟩ := same.fixed (Lexeme.isFixed_additive op)
    obtain ⟨_, _, rfl, sameOperand, sameRest⟩ := afterOp.append
    obtain ⟨operand, rfl, operandDepth⟩ := ihOperand sameOperand
    obtain ⟨rest, rfl, restDepth⟩ := ihRest sameRest
    exact ⟨.moreTerms op operand rest, rfl, by simp only [depth, operandDepth, restDepth]⟩
  | term first rest ihFirst ihRest =>
    obtain ⟨_, _, rfl, sameFirst, sameRest⟩ := same.append
    obtain ⟨first, rfl, firstDepth⟩ := ihFirst sameFirst
    obtain ⟨rest, rfl, restDepth⟩ := ihRest sameRest
    exact ⟨.term first rest, rfl, by simp only [depth, firstDepth, restDepth]⟩
  | noFactors => exact ⟨.noFactors, same.nil, rfl⟩
  | moreFactors op operand rest ihOperand ihRest =>
    obtain ⟨_, rfl, afterOp⟩ := same.fixed (Lexeme.isFixed_multiplicative op)
    obtain ⟨_, _, rfl, sameOperand, sameRest⟩ := afterOp.append
    obtain ⟨operand, rfl, operandDepth⟩ := ihOperand sameOperand
    obtain ⟨rest, rfl, restDepth⟩ := ihRest sameRest
    exact ⟨.moreFactors op operand rest, rfl, by simp only [depth, operandDepth, restDepth]⟩
  | signed op operand ih =>
    obtain ⟨_, rfl, afterOp⟩ := same.fixed (Lexeme.isFixed_sign op)
    obtain ⟨operand, rfl, depth⟩ := ih afterOp
    exact ⟨.signed op operand, rfl, congrArg (· + 1) depth⟩
  | number value =>
    obtain ⟨l, _, rfl, kind, afterNumber⟩ := List.map_eq_cons_iff.1 same
    obtain ⟨value, rfl⟩ := Lexeme.eq_number_of_kind kind
    obtain rfl := SameKinds.nil afterNumber
    exact ⟨.number value, rfl, rfl⟩
  | parens inner ih =>
    obtain ⟨_, rfl, afterOpen⟩ := same.fixed rfl
    obtain ⟨_, _, rfl, sameInner, afterInner⟩ := afterOpen.append
    obtain ⟨inner, rfl, depth⟩ := ih sameInner
    obtain ⟨_, rfl, afterClose⟩ := afterInner.fixed rfl
    obtain rfl := afterClose.nil
    exact ⟨.parens inner, rfl, congrArg (· + 1) depth⟩
  | var name =>
    obtain ⟨name, _, rfl, afterName⟩ := same.name
    obtain rfl := afterName.nil
    exact ⟨.var name, rfl, rfl⟩

end Derivation

end MiniPascal
