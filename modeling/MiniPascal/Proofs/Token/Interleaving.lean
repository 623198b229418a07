import Mathlib.Data.List.ReduceOption
import MiniPascal.Proofs.Token.Consumption

set_option autoImplicit false

namespace MiniPascal

namespace Lexer

section Step

variable (call : Call) (lexer : Lexer)

theorem run_eq_none_iff : (call.run lexer).1 = none ↔ call = .next ∧ lexer.finished := by
  obtain ⟨cursor, finished⟩ := lexer
  cases call <;> cases finished <;> simp [Call.run, next]

theorem finished_run : (call.run lexer).2.finished ↔
    lexer.finished ∨ call = .next ∧ ∃ result, (call.run lexer).1 = some result ∧ isLast result := by
  obtain ⟨cursor, finished⟩ := lexer
  cases call <;> cases finished <;> simp [Call.run, next, nextToken]

theorem perform_cons (rest : List Call) : (lexer.perform (call :: rest)).1 =
    (call.run lexer).1 :: ((call.run lexer).2.perform rest).1 := rfl

end Step

theorem length_perform (lexer : Lexer) (calls : List Call) :
    (lexer.perform calls).1.length = calls.length := by
  induction calls generalizing lexer with
  | nil => rfl
  | cons call rest ih => rw [perform_cons, List.length_cons, List.length_cons, ih]

theorem map_reduceOption_perform {lexer plain : Lexer} (together : plain.cursor = lexer.cursor)
    (calls : List Call) :
    (lexer.perform calls).1.reduceOption.map some =
      (plain.perform (List.replicate (lexer.perform calls).1.reduceOption.length .nextToken)).1 := by
  induction calls generalizing lexer plain with
  | nil => rfl
  | cons call rest ih =>
    rw [perform_cons]
    cases ran : call.run lexer with
    | mk given after =>
      cases given with
      | none =>
        rw [eq_of_run_none ran, List.reduceOption_cons_of_none]
        exact ih together
      | some result =>
        have scanned : plain.cursor.nextToken = (result, after.cursor) := by
          rw [together, nextToken_of_run ran]
        have first : plain.nextToken.1 = result := congrArg Prod.fst scanned
        have behind : plain.nextToken.2.cursor = after.cursor := congrArg Prod.snd scanned
        rw [List.reduceOption_cons_of_some, List.map_cons, List.length_cons, List.replicate_succ,
          perform_cons, ih behind]
        exact congrArg (some · :: _) first.symm

theorem perform_eq_none_iff (lexer : Lexer) (calls : List Call) (i : Nat) :
    (lexer.perform calls).1[i]? = some none ↔ calls[i]? = some .next ∧ (lexer.finished ∨
      ∃ j < i, calls[j]? = some .next ∧
        ∃ result, (lexer.perform calls).1[j]? = some (some result) ∧ isLast result) := by
  induction calls generalizing lexer i with
  | nil => simp [perform]
  | cons call rest ih =>
    rw [perform_cons]
    cases i with
    | zero => simp [run_eq_none_iff]
    | succ i =>
      -- The calls before this one are the first and those that the induction is about.
      simp only [List.getElem?_cons_succ, ih, finished_run, Nat.exists_lt_succ_left,
        List.getElem?_cons_zero, Option.some.injEq, or_assoc]

def answers (source : String) (calls : List Call) : List (Option (Except LexError Token)) :=
  ((ofSource source).perform calls).1

end Lexer

/-- However the two ways to ask are mixed, the calls that give something give the tokens of as many calls
of `nextToken` on a new lexer, one by one. The others are calls of `next`: exactly those behind a call of
`next` that has given the end of the input or an error. -/
theorem lexer_calls_interleave (source : String) (calls : List Lexer.Call) :
    (Lexer.answers source calls).length = calls.length ∧
    (Lexer.answers source calls).reduceOption.map some =
      Lexer.answers source
        (List.replicate (Lexer.answers source calls).reduceOption.length .nextToken) ∧
    ∀ i : Nat, (Lexer.answers source calls)[i]? = some none ↔
      calls[i]? = some .next ∧ ∃ j < i, calls[j]? = some .next ∧
        ∃ result, (Lexer.answers source calls)[j]? = some (some result) ∧ Lexer.isLast result := by
  refine ⟨Lexer.length_perform _ calls, Lexer.map_reduceOption_perform rfl calls, fun i => ?_⟩
  have stopped := (Lexer.ofSource source).perform_eq_none_iff calls i
  have fresh : ¬ (Lexer.ofSource source).finished := Bool.false_ne_true
  rwa [or_iff_right fresh] at stopped

-- The error of the first call does not stop `next`, but its own does. `nextToken` goes on behind it.
example : (Lexer.answers "#" [.nextToken, .next, .next, .nextToken]).map Option.isSome =
    [true, true, false, true] := by decide +kernel

end MiniPascal
