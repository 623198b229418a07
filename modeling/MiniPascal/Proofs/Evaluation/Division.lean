import Mathlib.Data.Rat.Floor
import Mathlib.Tactic.Linarith
import MiniPascal.Proofs.Evaluation.Arithmetic

set_option autoImplicit false

namespace MiniPascal

namespace Number

def CanDivide (l r : Int64) : Prop :=
  r ≠ 0 ∧ ¬ (l = Int64.minValue ∧ r = -1)

instance (l r : Int64) : Decidable (CanDivide l r) :=
  inferInstanceAs (Decidable (_ ∧ _))

inductive MachineFault where
  | remainder
deriving DecidableEq

def checkedDiv? (l r : Int64) : Option Int64 :=
  if CanDivide l r then some (l / r) else none

def checkedSub? (l r : Int64) : Option Int64 :=
  narrow? (l.toInt - r.toInt)

-- The remainder has no checks of its own.
def uncheckedRem (l r : Int64) : Except MachineFault Int64 :=
  if CanDivide l r then .ok (l % r) else .error .remainder

def flooredDivSteps (l r : Int64) : Except MachineFault (Option Int64) :=
  match checkedDiv? l r with
  | none => return none
  | some quotient => do
    let remainder ← uncheckedRem l r
    if remainder ≠ 0 ∧ decide (l < 0) ≠ decide (r < 0) then
      return checkedSub? quotient 1
    else
      return some quotient

section Exact

variable {l r : Int}

theorem fmod_between (nonzero : r ≠ 0) :
    0 < r ∧ 0 ≤ l.fmod r ∧ l.fmod r < r ∨ r < 0 ∧ r < l.fmod r ∧ l.fmod r ≤ 0 := by
  rcases Int.lt_or_gt_of_ne nonzero with negative | positive
  · have positive : 0 < -r := Int.neg_pos_of_neg negative
    have least := Int.fmod_nonneg_of_pos (-l) positive
    have most := Int.fmod_lt_of_pos (-l) positive
    rw [Int.neg_fmod_neg] at least most
    exact .inr ⟨negative, by omega, by omega⟩
  · exact .inl ⟨positive, Int.fmod_nonneg_of_pos l positive, Int.fmod_lt_of_pos l positive⟩

theorem exists_remainder (nonzero : r ≠ 0) :
    ∃ m, l = l.fdiv r * r + m ∧ (m = 0 ∨ m.sign = r.sign) ∧ |m| < |r| := by
  have whole := Int.mul_fdiv_add_fmod l r
  refine ⟨l.fmod r, by rw [Int.mul_comm, whole], ?_⟩
  rcases fmod_between (l := l) nonzero with ⟨positive, least, most⟩ | ⟨negative, least, most⟩
  · refine ⟨?_, by rw [abs_of_nonneg least, abs_of_pos positive]; exact most⟩
    rcases Int.lt_or_eq_of_le least with above | zero
    · exact .inr (by rw [Int.sign_eq_one_of_pos above, Int.sign_eq_one_of_pos positive])
    · exact .inl zero.symm
  · refine ⟨?_, by rw [abs_of_nonpos most, abs_of_neg negative]; omega⟩
    rcases Int.lt_or_eq_of_le most with below | zero
    · exact .inr (by rw [Int.sign_eq_neg_one_of_neg below, Int.sign_eq_neg_one_of_neg negative])
    · exact .inl zero

theorem floor_div_eq_fdiv (nonzero : r ≠ 0) : ⌊(l : ℚ) / r⌋ = l.fdiv r := by
  have whole : (r : ℚ) * l.fdiv r + l.fmod r = l := by exact_mod_cast Int.mul_fdiv_add_fmod l r
  rw [Int.floor_eq_iff]
  rcases fmod_between (l := l) nonzero with ⟨positive, least, most⟩ | ⟨negative, least, most⟩
  · have positive : (0 : ℚ) < r := by exact_mod_cast positive
    have least : (0 : ℚ) ≤ l.fmod r := by exact_mod_cast least
    have most : (l.fmod r : ℚ) < r := by exact_mod_cast most
    rw [le_div_iff₀ positive, div_lt_iff₀ positive]
    constructor <;> linarith
  · have negative : (r : ℚ) < 0 := by exact_mod_cast negative
    have least : (r : ℚ) < l.fmod r := by exact_mod_cast least
    have most : (l.fmod r : ℚ) ≤ 0 := by exact_mod_cast most
    rw [le_div_iff_of_neg negative, div_lt_iff_of_neg negative]
    constructor <;> linarith

theorem fdiv_within {bound : Int} (nonzero : r ≠ 0) (least : -bound ≤ l) (most : l < bound)
    (notExtreme : ¬ (l = -bound ∧ r = -1)) : -bound ≤ l.fdiv r ∧ l.fdiv r < bound := by
  have whole := Int.mul_fdiv_add_fmod l r
  generalize l.fdiv r = q at whole ⊢
  rcases fmod_between (l := l) nonzero with ⟨positive, above, below⟩ | ⟨negative, above, below⟩
  · constructor
    · by_contra small
      nlinarith
    · by_contra large
      nlinarith
  · constructor
    · by_contra small
      nlinarith
    · by_contra large
      -- Only the divisor -1 leaves the quotient as large as the dividend.
      by_cases isMinusOne : r = -1
      next => exact notExtreme ⟨by subst isMinusOne; omega, isMinusOne⟩
      next =>
        have further : r ≤ -2 := by omega
        nlinarith

end Exact

section Machine

variable {l r : Int64}

theorem canDivide_iff : CanDivide l r ↔ ¬ (r = 0 ∨ l = Int64.minValue ∧ r = -1) :=
  not_or.symm

theorem flooredDiv?_of_canDivide (can : CanDivide l r) :
    ∃ q, flooredDiv? l r = some q ∧ q.toInt = l.toInt.fdiv r.toInt := by
  have nonzero : r.toInt ≠ 0 := fun isZero => can.1 (toInt_eq_zero_iff.1 isZero)
  have notExtreme : ¬ (l.toInt = -9223372036854775808 ∧ r.toInt = -1) := by
    rintro ⟨isMin, isMinusOne⟩
    exact can.2 ⟨Int64.toInt_inj.1 isMin, Int64.toInt_inj.1 isMinusOne⟩
  have fits := fdiv_within nonzero l.minValue_le_toInt (Int.lt_add_one_of_le l.toInt_le) notExtreme
  rw [flooredDiv?_eq can.1]
  exact narrow?_of_fits ⟨fits.1, Int.le_of_lt_add_one fits.2⟩

theorem flooredDiv?_eq_none_iff :
    flooredDiv? l r = none ↔ r = 0 ∨ l = Int64.minValue ∧ r = -1 := by
  constructor
  · intro refused
    by_contra can
    obtain ⟨q, found, -⟩ := flooredDiv?_of_canDivide (canDivide_iff.2 can)
    rw [refused] at found
    cases found
  · intro cannot
    rw [flooredDiv?, if_pos cannot]

theorem flooredDivSteps_eq (l r : Int64) : flooredDivSteps l r = .ok (flooredDiv? l r) := by
  by_cases can : CanDivide l r
  next =>
    rw [flooredDivSteps, checkedDiv?, uncheckedRem, if_pos can, if_pos can, flooredDiv?,
      if_neg (canDivide_iff.1 can)]
    by_cases tooHigh : l % r ≠ 0 ∧ decide (l < 0) ≠ decide (r < 0)
    next =>
      rw [if_pos tooHigh]
      exact if_pos tooHigh
    next =>
      rw [if_neg tooHigh]
      exact if_neg tooHigh
  next =>
    have cannot : r = 0 ∨ l = Int64.minValue ∧ r = -1 := by
      rwa [canDivide_iff, not_not] at can
    rw [flooredDivSteps, checkedDiv?, if_neg can, flooredDiv?, if_pos cannot]
    rfl

theorem checkedSub?_of_tooHigh {quotient : Int64} (divided : checkedDiv? l r = some quotient)
    (tooHigh : l % r ≠ 0 ∧ decide (l < 0) ≠ decide (r < 0)) :
    checkedSub? quotient 1 = flooredDiv? l r := by
  obtain ⟨can, ⟨⟩⟩ := Option.ite_none_right_eq_some.1 divided
  rw [flooredDiv?, if_neg (canDivide_iff.1 can), if_pos tooHigh]
  rfl

theorem integerDiv_integer (l r : Int64) : integerDiv (.integer l) (.integer r) =
    if r = 0 then .error .divisionByZero else fitted .division (flooredDiv? l r) := by
  by_cases isZero : r = 0
  next =>
    rw [if_pos isZero]
    exact if_pos (beq_iff_eq.2 isZero)
  next =>
    rw [if_neg isZero]
    exact if_neg fun isZero' => isZero (beq_iff_eq.1 isZero')

theorem integerDiv_error_iff {e : ArithmeticError} :
    integerDiv (.integer l) (.integer r) = .error e ↔
      e = .divisionByZero ∧ r = 0 ∨ e = .overflow .division ∧ l = Int64.minValue ∧ r = -1 := by
  rw [integerDiv_integer]
  by_cases isZero : r = 0
  next => simp [isZero, eq_comm]
  next =>
    rw [if_neg isZero]
    cases found : flooredDiv? l r with
    | none =>
      have extreme := (flooredDiv?_eq_none_iff.1 found).resolve_left isZero
      simp [fitted, extreme, eq_comm]
    | some q =>
      have notExtreme : ¬ (l = Int64.minValue ∧ r = -1) := fun extreme => by
        rw [flooredDiv?_eq_none_iff.2 (.inr extreme)] at found
        cases found
      simp [fitted, isZero, notExtreme]

end Machine

/-- Integer division is the floor of the exact quotient. There is none exactly for a zero divisor and for
the one quotient that does not fit, which are the two errors of the operation. The remainder is computed
only where it is defined, and the correction of the machine's quotient never leaves the range. -/
theorem integer_division_floored (l r : Int64) :
    (flooredDiv? l r = none ↔ r = 0 ∨ l = Int64.minValue ∧ r = -1) ∧
    (∀ q, flooredDiv? l r = some q →
      q.toInt = ⌊(l.toInt : ℚ) / r.toInt⌋ ∧
      (∃ m, l.toInt = q.toInt * r.toInt + m ∧ (m = 0 ∨ m.sign = r.toInt.sign) ∧ |m| < |r.toInt|) ∧
      integerDiv (.integer l) (.integer r) = .ok (.integer q)) ∧
    flooredDivSteps l r = .ok (flooredDiv? l r) ∧
    (∀ quotient, checkedDiv? l r = some quotient →
      l % r ≠ 0 ∧ decide (l < 0) ≠ decide (r < 0) →
      ∃ corrected, checkedSub? quotient 1 = some corrected) ∧
    ∀ e, integerDiv (.integer l) (.integer r) = .error e ↔
      e = .divisionByZero ∧ r = 0 ∨ e = .overflow .division ∧ l = Int64.minValue ∧ r = -1 := by
  refine ⟨flooredDiv?_eq_none_iff, fun q found => ?_, flooredDivSteps_eq l r,
    fun quotient divided tooHigh => ?_, fun e => integerDiv_error_iff⟩
  · have can : CanDivide l r := canDivide_iff.2 fun cannot => by
      rw [flooredDiv?_eq_none_iff.2 cannot] at found
      cases found
    have nonzero : r.toInt ≠ 0 := fun isZero => can.1 (toInt_eq_zero_iff.1 isZero)
    obtain ⟨q', found', value⟩ := flooredDiv?_of_canDivide can
    obtain rfl : q' = q := Option.some.inj (found'.symm.trans found)
    rw [value, floor_div_eq_fdiv nonzero, integerDiv_integer, if_neg can.1, found]
    exact ⟨rfl, exists_remainder nonzero, rfl⟩
  · obtain ⟨can, -⟩ := Option.ite_none_right_eq_some.1 divided
    obtain ⟨q, found, -⟩ := flooredDiv?_of_canDivide can
    exact ⟨q, (checkedSub?_of_tooHigh divided tooHigh).trans found⟩

end Number

end MiniPascal
