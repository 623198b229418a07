import MiniPascal.Number

set_option autoImplicit false

namespace MiniPascal

def Unbroken (text : String) : Prop :=
  '\n' ∉ text.toList

instance (text : String) : Decidable (Unbroken text) :=
  inferInstanceAs (Decidable ('\n' ∉ text.toList))

section Unbroken

theorem unbroken_append {first second : String} :
    Unbroken (first ++ second) ↔ Unbroken first ∧ Unbroken second := by
  simp [Unbroken]

theorem unbroken_ofList {text : List Char} : Unbroken (String.ofList text) ↔ '\n' ∉ text := by
  simp [Unbroken]

theorem unbroken_natText (n : Nat) : Unbroken (toString n) := by
  rw [Unbroken, Nat.toString_eq_repr, Nat.toList_repr]
  intro among
  cases Nat.isDigit_of_mem_toDigits (by decide) (by decide) among

theorem unbroken_intText (n : Int) : Unbroken (toString n) := by
  rw [Int.toString_eq_repr, Int.repr_eq_if]
  split
  · exact unbroken_natText _
  · exact unbroken_append.2 ⟨by decide, unbroken_natText _⟩

end Unbroken

namespace Decimal

variable (d : Decimal)

theorem unbroken_zeros (n : Nat) : Unbroken (zeros n) := by
  simp [Unbroken, zeros, List.mem_replicate]

theorem unbroken_positionalText {wholeMark : String} (unbroken : Unbroken wholeMark) :
    Unbroken (d.positionalText wholeMark) := by
  have digits := unbroken_natText d.digits
  have dots : Unbroken "." ∧ Unbroken "0." := by decide
  unfold positionalText
  split
  next =>
    simp only [unbroken_append, unbroken_ofList, unbroken_zeros, unbroken, and_true]
    exact digits
  next =>
    split
    next =>
      simp only [unbroken_append, unbroken_ofList, dots, and_true]
      exact ⟨fun among => digits (List.mem_of_mem_take among),
        fun among => digits (List.mem_of_mem_drop among)⟩
    next =>
      simp only [unbroken_append, unbroken_ofList, unbroken_zeros, dots, true_and]
      exact digits

theorem unbroken_exponentText : Unbroken d.exponentText := by
  have digits : '\n' ∉ (toString d.digits).toList := unbroken_natText d.digits
  have marks : Unbroken "e" ∧ Unbroken "." := by decide
  unfold exponentText
  split
  next => decide
  next first isText =>
    rw [isText] at digits
    simp only [unbroken_append, marks, unbroken_intText, and_true]
    simpa [Unbroken] using digits
  next first others _ isText =>
    rw [isText] at digits
    simp only [unbroken_append, unbroken_ofList, marks, unbroken_intText, and_true]
    simpa [Unbroken] using digits

theorem unbroken_text (style : RealStyle) (unbroken : Unbroken style.wholeMark) :
    Unbroken (d.text style) := by
  unfold text
  split
  · exact d.unbroken_positionalText unbroken
  · exact d.unbroken_exponentText

end Decimal

theorem RealStyle.unbroken_text (style : RealStyle) (unbroken : Unbroken style.wholeMark) (x : Float) :
    Unbroken (style.text x) := by
  have magnitude (m : Magnitude) : Unbroken (m.text style) := by
    cases m with
    | zero => exact Decimal.unbroken_text _ style unbroken
    | finite value => exact Decimal.unbroken_text _ style unbroken
    | infinite =>
      change Unbroken "inf"
      decide
    | nan =>
      change Unbroken "NaN"
      decide
  unfold RealStyle.text
  simp only
  split
  next => exact magnitude _
  next =>
    refine unbroken_append.2 ⟨?_, magnitude _⟩
    split <;> decide

theorem Number.unbroken_text (n : Number) : Unbroken n.text := by
  cases n with
  | integer value => exact unbroken_intText _
  | real value => exact RealStyle.unbroken_text _ (by decide) value

end MiniPascal
