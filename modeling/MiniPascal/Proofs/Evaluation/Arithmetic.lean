import MiniPascal.Number

set_option autoImplicit false

namespace MiniPascal

namespace Number

theorem narrow?_of_fits {n : Int} (fits : Int64.minValue.toInt ≤ n ∧ n ≤ Int64.maxValue.toInt) :
    ∃ v : Int64, narrow? n = some v ∧ v.toInt = n :=
  ⟨Int64.ofInt n, if_pos fits, Int64.toInt_ofInt_of_le fits.1 (Int.lt_add_one_of_le fits.2)⟩

theorem narrow?_toInt (v : Int64) : narrow? v.toInt = some v := by
  obtain ⟨w, narrowed, same⟩ := narrow?_of_fits ⟨v.minValue_le_toInt, v.toInt_le⟩
  rw [narrowed, Int64.toInt_inj.1 same]

theorem toInt_eq_zero_iff {v : Int64} : v.toInt = 0 ↔ v = 0 := by
  rw [← Int64.toInt_inj]
  rfl

-- Rounding towards zero is one too high for a remainder under operands of different signs.
theorem fdiv_eq_tdiv_sub {a b : Int} (nonzero : b ≠ 0) :
    a.fdiv b = a.tdiv b - if a.tmod b ≠ 0 ∧ decide (a < 0) ≠ decide (b < 0) then 1 else 0 := by
  rw [Int.fdiv_eq_tdiv]
  by_cases divides : b ∣ a
  next =>
    have noRemainder : a.tmod b = 0 := Int.tmod_eq_zero_of_dvd divides
    simp [divides, noRemainder]
  next =>
    have remainder : a.tmod b ≠ 0 := fun none => divides (Int.dvd_of_tmod_eq_zero none)
    rw [if_neg divides]
    rcases Int.lt_or_gt_of_ne nonzero with negative | positive
    · by_cases below : a < 0
      next => simp [below, negative, Int.not_le.2 below, Int.not_le.2 negative,
        Int.sign_eq_neg_one_of_neg negative]
      next => simp [below, negative, remainder, Int.not_lt.1 below, Int.not_le.2 negative]
    · have notBelow : ¬ b < 0 := by omega
      by_cases below : a < 0
      next => simp [below, notBelow, remainder, Int.not_le.2 below, Int.le_of_lt positive,
        Int.sign_eq_one_of_pos positive]
      next => simp [below, notBelow, Int.not_lt.1 below, Int.le_of_lt positive]

theorem flooredDiv?_eq {l r : Int64} (nonzero : r ≠ 0) :
    flooredDiv? l r = narrow? (l.toInt.fdiv r.toInt) := by
  have nonzero' : r.toInt ≠ 0 := fun isZero => nonzero (toInt_eq_zero_iff.1 isZero)
  by_cases extreme : l = Int64.minValue ∧ r = -1
  next =>
    obtain ⟨rfl, rfl⟩ := extreme
    decide
  next =>
    have quotient : (l / r).toInt = l.toInt.tdiv r.toInt := by
      rcases Decidable.not_and_iff_or_not.1 extreme with notMin | notMinusOne
      · exact Int64.toInt_div_of_ne_left l r notMin
      · exact Int64.toInt_div_of_ne_right l r notMinusOne
    have negative (v : Int64) : decide (v < 0) = decide (v.toInt < 0) :=
      decide_eq_decide.2 Int64.lt_iff_toInt_lt
    have corrected : (l % r ≠ 0 ∧ decide (l < 0) ≠ decide (r < 0)) ↔
        (l.toInt.tmod r.toInt ≠ 0 ∧ decide (l.toInt < 0) ≠ decide (r.toInt < 0)) := by
      rw [negative, negative, ← Int64.toInt_mod]
      exact and_congr_left fun _ => not_congr toInt_eq_zero_iff.symm
    rw [flooredDiv?, if_neg (by simp [nonzero, extreme]), fdiv_eq_tdiv_sub nonzero', ← quotient]
    by_cases differ : l % r ≠ 0 ∧ decide (l < 0) ≠ decide (r < 0)
    next => rw [if_pos differ, if_pos (corrected.1 differ)]
    next =>
      rw [if_neg differ, if_neg fun h => differ (corrected.2 h), Int.sub_zero, narrow?_toInt]

end Number

end MiniPascal
