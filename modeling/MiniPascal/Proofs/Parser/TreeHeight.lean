import MiniPascal.Proofs.Grammar.Height
import MiniPascal.Proofs.Parser.Acceptance

set_option autoImplicit false

namespace MiniPascal

open MiniPascal.Parser

namespace Derivation

def assigningOnly (value : Derivation .expr) : Derivation .program :=
  .program "x" (.block [] (.compound (.assigning (.assignment "x" value)) .noStatements))

theorem depth_assigningOnly (value : Derivation .expr) :
    (assigningOnly value).depth = value.depth + 4 := by
  simp only [assigningOnly, depth]
  omega

theorem assignments_assigningOnly (value : Derivation .expr) :
    (assigningOnly value).tree.assignments = [("x", value.tree)] := by
  simp [assigningOnly, tree, Program.assignments, Statement.assignmentsAll, Statement.assignments]

section Plain

open Lexeme

theorem plain_x : (identifier "x").Plain :=
  plain_identifier (by decide +kernel)

theorem plain_signs (n : Nat) : ∀ l ∈ (signs n).lexemes, l.Plain := by
  induction n with
  | zero => simp [signs, lexemes, plain_x]
  | succ n ih => simpa [signs, lexemes, UnaryOp.lexeme, plain_mark] using ih

theorem plain_factors (n : Nat) : ∀ l ∈ (factors n).lexemes, l.Plain := by
  induction n with
  | zero => simp [factors, lexemes]
  | succ n ih => simpa [factors, lexemes, MultiplicativeOp.lexeme, plain_mark, plain_x] using ih

theorem plain_terms (n : Nat) : ∀ l ∈ (terms n).lexemes, l.Plain := by
  induction n with
  | zero => simp [terms, lexemes]
  | succ n ih => simpa [terms, lexemes, AdditiveOp.lexeme, plain_mark, plain_x] using ih

theorem plain_folded {n : Nat} {first : Derivation .factor}
    (plain : ∀ l ∈ first.lexemes, l.Plain) : ∀ l ∈ (folded n first).lexemes, l.Plain := by
  simp only [folded, lexemes, List.forall_mem_append]
  exact ⟨⟨plain, plain_factors n⟩, plain_terms n⟩

theorem plain_highestFactor (n : Nat) : ∀ l ∈ (highestFactor n).lexemes, l.Plain := by
  induction n using Nat.strongRecOn with
  | ind n ih =>
    match n with
    | 0 | 1 | 2 | 3 | 4 | 5 => exact plain_signs _
    | n + 6 =>
      have inner := plain_folded (n := n + 2) (ih (n + 3) (by omega))
      simpa [highestFactor, lexemes, plain_mark, or_imp, forall_and] using inner

theorem plain_assigningOnly {value : Derivation .expr} (plain : ∀ l ∈ value.lexemes, l.Plain) :
    ∀ l ∈ (assigningOnly value).lexemes, l.Plain := by
  simpa [assigningOnly, lexemes, DeclarationGroup.sectionLexemes, plain_mark, plain_keyword,
    plain_x, or_imp, forall_and] using plain

end Plain

end Derivation

open MiniPascal.Derivation

theorem parse_assigningOnly {value : Derivation .expr} (plain : ∀ l ∈ value.lexemes, l.Plain)
    (fits : value.depth + 4 ≤ maxDepth) :
    ∃ p, (Stage.parse (String.ofList (render (assigningOnly value).lexemes))).result = .ok p ∧
      ∃ a ∈ p.assignments, a.2.height = value.tree.height := by
  refine ⟨_, parse_render (plain_assigningOnly plain) (depth_assigningOnly value ▸ fits), ?_⟩
  rw [assignments_assigningOnly]
  exact ⟨_, List.mem_singleton_self _, rfl⟩

theorem highest_accepted :
    ∃ text p, (Stage.parse text).result = .ok p ∧ ∃ a ∈ p.assignments, a.2.height = 20920 := by
  have highest : exprHeight (249 + 3) = 20920 := by decide
  obtain ⟨depth, height⟩ := exprHeight_attained 249
  rw [← highest, ← height]
  have fits : (folded 249 (highestFactor (249 + 1))).depth + 4 ≤ maxDepth := by
    rw [maxDepth]
    omega
  exact ⟨_, parse_assigningOnly (plain_folded (plain_highestFactor (249 + 1))) fits⟩

/-- The expressions of an accepted text stay within the limit if and only if no name or number of it has
that many operators above it. None is ever higher than `20920`. -/
theorem accepted_height_within_limit_iff (text : String) :
    ((∀ p, (Stage.parse text).result = .ok p → ∀ a ∈ p.assignments, a.2.height ≤ maxDepth) ↔
      ∀ p, (Stage.parse text).result = .ok p →
        ∀ d : Derivation .program, d.lexemes = (TokenStream.ofSource text).tokens.map Token.lexeme →
          ∀ k ∈ d.loads, k < maxDepth) ∧
    ∀ p, (Stage.parse text).result = .ok p → ∀ a ∈ p.assignments, a.2.height ≤ 20920 := by
  refine ⟨forall_congr' fun p => forall_congr' fun accepted => ?_, fun p accepted a among => ?_⟩
  · obtain ⟨_, -, d, sentence, -, rfl⟩ := parse_ok_iff.1 accepted
    refine (d.heightByLoads maxDepth).trans ⟨fun light other same => ?_, fun light => light d sentence⟩
    rw [Derivation.lexemes_injective (same.trans sentence.symm)]
    exact light
  · obtain ⟨_, -, d, -, fits, rfl⟩ := parse_ok_iff.1 accepted
    have room : d.depth - 4 ≤ 252 := by
      rw [maxDepth] at fits
      omega
    exact Nat.le_trans (d.low a among) (exprHeight_mono room)

theorem parse_exceeds_limit :
    ∃ p, (Stage.parse (String.ofList (render (assigningOnly (folded 4 (signs 249))).lexemes))).result =
        .ok p ∧ ∃ a ∈ p.assignments, maxDepth < a.2.height := by
  have depth := depth_folded_le 4 (signs 249)
  rw [depth_signs] at depth
  have fits : (folded 4 (signs 249)).depth + 4 ≤ maxDepth := by
    rw [maxDepth]
    omega
  obtain ⟨p, accepted, a, among, height⟩ :=
    parse_assigningOnly (plain_folded (plain_signs 249)) fits
  refine ⟨p, accepted, a, among, ?_⟩
  rw [height, height_folded, height_signs]
  decide

end MiniPascal
