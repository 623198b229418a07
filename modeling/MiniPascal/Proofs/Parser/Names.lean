import MiniPascal.Proofs.Naming.Uses
import MiniPascal.Proofs.Parser.Acceptance

set_option autoImplicit false

namespace MiniPascal

def Lexeme.name? : Lexeme → Option String
  | .identifier name => some name
  | _ => none

def identifiers (lexemes : List Lexeme) : List String :=
  lexemes.filterMap Lexeme.name?

-- The names of assignments as they are written, each target before what is assigned.
def writtenNames (steps : List (String × Expr)) : List String :=
  steps.flatMap fun step => step.1 :: step.2.reads

theorem writtenNames_append (first rest : List (String × Expr)) :
    writtenNames (first ++ rest) = writtenNames first ++ writtenNames rest :=
  List.flatMap_append

theorem Use.name_mem_writtenNames {steps : List (String × Expr)} {u : Use}
    (among : u ∈ ofAssignments steps) : u.name ∈ writtenNames steps := by
  obtain ⟨step, isStep, inStep⟩ := List.mem_flatMap.1 among
  apply List.mem_flatMap_of_mem isStep
  rcases List.mem_append.1 inStep with isRead | isTarget
  · obtain ⟨name, read, rfl⟩ := List.mem_map.1 isRead
    exact List.mem_cons_of_mem _ read
  · rw [List.mem_singleton.1 isTarget]
    exact List.mem_cons_self

section Identifiers

variable (first rest : List Lexeme) (name : String)

@[simp] theorem identifiers_nil : identifiers [] = [] := rfl

@[simp] theorem identifiers_append :
    identifiers (first ++ rest) = identifiers first ++ identifiers rest :=
  List.filterMap_append

@[simp] theorem identifiers_identifier :
    identifiers (.identifier name :: rest) = name :: identifiers rest := rfl

@[simp] theorem identifiers_keyword (word : Keyword) :
    identifiers (.keyword word :: rest) = identifiers rest := rfl

@[simp] theorem identifiers_mark (m : Mark) : identifiers (.mark m :: rest) = identifiers rest := rfl

@[simp] theorem identifiers_fixed {l : Lexeme} (fixed : l.isFixed) :
    identifiers (l :: rest) = identifiers rest := by
  cases l with
  | keyword | mark | endOfInput => rfl
  | identifier | integer | real => cases fixed

@[simp] theorem identifiers_number (value : Number) :
    identifiers (value.lexeme :: rest) = identifiers rest := by
  cases value <;> rfl

end Identifiers

namespace DeclarationGroup

theorem identifiers_lexemes (g : DeclarationGroup) :
    identifiers g.lexemes = g.declarations.map Declaration.name := by
  have others :
      identifiers (g.others.flatMap fun name => [.mark .comma, .identifier name]) = g.others := by
    induction g.others with
    | nil => rfl
    | cons name rest ih => simp [ih]
  simp [lexemes, declarations, others, Function.comp_def]

theorem identifiers_sectionLexemes (groups : List DeclarationGroup) :
    identifiers (sectionLexemes groups) = (groups.flatMap declarations).map Declaration.name := by
  have all (groups : List DeclarationGroup) :
      identifiers (groups.flatMap fun g => g.lexemes ++ [.mark .semicolon]) =
        (groups.flatMap declarations).map Declaration.name := by
    induction groups with
    | nil => rfl
    | cons g rest ih => simp [ih, identifiers_lexemes]
  cases groups with
  | nil => rfl
  | cons g rest => exact all (g :: rest)

end DeclarationGroup

namespace Derivation

def NamesAsWritten : {n : Nonterminal} → Derivation n → Prop
  | .factor, d | .term, d | .expr, d => identifiers d.lexemes = d.tree.reads
  | .termRest, d | .exprRest, d =>
    ∀ left : Expr, left.reads ++ identifiers d.lexemes = (d.tree left).reads
  | .assignment, d | .statement, d => identifiers d.lexemes = writtenNames d.tree.assignments
  | .statements, d | .compound, d =>
    identifiers d.lexemes = writtenNames (Statement.assignmentsAll d.tree)
  | .block, d =>
    identifiers d.lexemes =
      d.tree.1.map Declaration.name ++ writtenNames (Statement.assignmentsAll d.tree.2)
  | .program, d =>
    identifiers d.lexemes =
      d.tree.name :: (d.tree.declaredNames ++ writtenNames d.tree.assignments)

theorem namesAsWritten {n : Nonterminal} (d : Derivation n) : d.NamesAsWritten := by
  induction d with
  | program title content ih =>
    simp only [NamesAsWritten] at ih ⊢
    simp [ih, Program.assignments, Program.declaredNames]
  | block groups body ih =>
    simp only [NamesAsWritten] at ih ⊢
    simp [ih, DeclarationGroup.identifiers_sectionLexemes]
  | compound first rest ihFirst ihRest | moreStatements first rest ihFirst ihRest =>
    simp only [NamesAsWritten] at ihFirst ihRest ⊢
    simp [ihFirst, ihRest, Statement.assignmentsAll, writtenNames_append]
  | noStatements | empty => rfl
  | nested body ih =>
    simp only [NamesAsWritten] at ih ⊢
    simp [ih, Statement.assignments]
  | assigning step ih => exact ih
  | assignment target value ih =>
    simp only [NamesAsWritten] at ih ⊢
    simp [ih, Statement.assignments, writtenNames]
  | expr first rest ihFirst ihRest | term first rest ihFirst ihRest =>
    simp only [NamesAsWritten] at ihFirst ihRest ⊢
    simp [ihFirst, ihRest]
  | noTerms | noFactors => exact fun left => List.append_nil _
  | moreTerms op operand rest ihOperand ihRest | moreFactors op operand rest ihOperand ihRest =>
    simp only [NamesAsWritten] at ihOperand ihRest ⊢
    intro left
    simp [ihOperand, ← ihRest, Expr.reads]
  | signed op operand ih =>
    simp only [NamesAsWritten] at ih ⊢
    simp [ih, Expr.reads]
  | parens inner ih =>
    simp only [NamesAsWritten] at ih ⊢
    simp [ih]
  | number value => exact identifiers_number [] value
  | var name => rfl

end Derivation

theorem Piece.Cut.isIdentifier {pieces : List Piece} {last : List Char} {name : String}
    (cut : Cut pieces last) (among : name ∈ identifiers (pieces.map lexeme)) : IsIdentifier name := by
  induction pieces with
  | nil => cases among
  | cons piece rest ih =>
    obtain ⟨-, spells, cutRest⟩ := cut
    obtain ⟨gap, spelling, l⟩ := piece
    cases spells with
    | identifier isName _ =>
      rcases List.mem_cons.1 among with same | among
      · rw [same]
        exact isName
      · exact ih cutRest among
    | _ => exact ih cutRest among

theorem isIdentifier_of_parse {text : String} {p : Program}
    (parsed : (Stage.parse text).result = .ok p) :
    (∀ name ∈ p.declaredNames, IsIdentifier name) ∧ ∀ u ∈ p.uses, IsIdentifier u.name := by
  obtain ⟨last, read, d, sentence, -, rfl⟩ := parse_ok_iff.1 parsed
  obtain ⟨pieces, gap, cut, -, tokens, -⟩ := TokenStream.cut_of_ofSource read
  rw [tokens, Piece.lexemes_tokens] at sentence
  have written : identifiers (pieces.map Piece.lexeme) =
      d.tree.name :: (d.tree.declaredNames ++ writtenNames d.tree.assignments) :=
    sentence ▸ d.namesAsWritten
  constructor
  · intro name declared
    apply cut.isIdentifier
    rw [written]
    exact List.mem_cons_of_mem _ (List.mem_append_left _ declared)
  · intro u used
    apply cut.isIdentifier
    rw [written]
    exact List.mem_cons_of_mem _ (List.mem_append_right _ (Use.name_mem_writtenNames used))

end MiniPascal
