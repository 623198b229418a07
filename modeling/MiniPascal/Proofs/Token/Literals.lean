import Mathlib.Algebra.Group.Nat.Defs
import MiniPascal.Proofs.Token.Layout
import MiniPascal.Proofs.Token.Scan

set_option autoImplicit false

namespace MiniPascal

namespace Lexer

structure BeforeDigits (lexer : Lexer) (gap digits after : List Char) : Prop where
  text : lexer.cursor.rest = gap ++ (digits ++ after)
  isGap : Gap gap
  nonempty : digits ≠ []
  areDigits : digits.all Char.isDigit
  ends : goesOn Char.isDigit after = false

def Finds (lexer : Lexer) (gap taken left : List Char) (found : Except LexFault Lexeme) : Prop :=
  lexer.cursor.rest = gap ++ (taken ++ left) ∧
    lexer.nextToken = (placed (lexer.cursor.position.after gap) found,
      { lexer with cursor := ⟨left, lexer.cursor.position.after (gap ++ taken)⟩ })

theorem finds_of_scan {lexer : Lexer} {gap taken left : List Char} {found : Except LexFault Lexeme}
    (text : lexer.cursor.rest = gap ++ (taken ++ left)) (scan : Scan gap taken left found) :
    lexer.Finds gap taken left found := by
  obtain ⟨⟨rest, position⟩, finished⟩ := lexer
  subst text
  exact ⟨rfl, by rw [nextToken, scan.nextToken]⟩

namespace BeforeDigits

variable {lexer : Lexer} {gap digits after : List Char}

theorem finds_real (before : lexer.BeforeDigits gap digits after) (isReal : goesOnAsReal after) :
    ∃ places left, after = '.' :: (places ++ left) ∧ places ≠ [] ∧ places.all Char.isDigit ∧
      goesOn Char.isDigit left = false ∧
      lexer.Finds gap (digits ++ '.' :: places) left (.ok (.real
        (Float.ofScientific (Nat.ofDigitChars 10 (digits ++ places) 0) true places.length))) := by
  cases isFraction : Munch.fraction after with
  | nil =>
    rw [fraction_eq_nil_iff, isReal] at isFraction
    cases isFraction
  | cons place places =>
    obtain ⟨text, rfl, isRun⟩ := exists_of_fraction isFraction
    have whole : text = (place :: places) ++ text.dropWhile Char.isDigit := by
      rw [← isRun, List.takeWhile_append_dropWhile]
    have placesDigits : (place :: places).all Char.isDigit := isRun ▸ List.all_takeWhile
    have ends : goesOn Char.isDigit (text.dropWhile Char.isDigit) = false := goesOn_dropWhile
    have spells := Spells.real before.nonempty before.areDigits (List.cons_ne_nil place places)
      placesDigits ends
    refine ⟨place :: places, text.dropWhile Char.isDigit, by rw [← whole], List.cons_ne_nil _ _,
      placesDigits, ends, finds_of_scan ?_ (.lexeme before.isGap spells)⟩
    rw [before.text, List.append_assoc digits, List.cons_append, ← whole]

theorem finds_integer (before : lexer.BeforeDigits gap digits after)
    (notReal : goesOnAsReal after = false)
    (fits : Nat.ofDigitChars 10 digits 0 ≤ 9223372036854775807) :
    ∃ value : Int64, value.toInt = Nat.ofDigitChars 10 digits 0 ∧
      lexer.Finds gap digits after (.ok (.integer value)) := by
  have value : (Int64.ofNat (Nat.ofDigitChars 10 digits 0)).toInt = Nat.ofDigitChars 10 digits 0 :=
    Int64.toInt_ofNat_of_lt (Nat.lt_succ_of_le fits)
  have spells := Spells.integer before.nonempty before.areDigits value before.ends notReal
  exact ⟨_, value, finds_of_scan before.text (.lexeme before.isGap spells)⟩

theorem finds_tooLarge (before : lexer.BeforeDigits gap digits after)
    (notReal : goesOnAsReal after = false)
    (large : 9223372036854775807 < Nat.ofDigitChars 10 digits 0) :
    lexer.Finds gap digits after (.error (.invalidNumber (String.ofList digits))) :=
  finds_of_scan before.text
    (.tooLarge before.isGap before.nonempty before.areDigits large before.ends notReal)

end BeforeDigits

theorem yields_natural {n : Nat} (fits : n ≤ 9223372036854775807) :
    ∃ (value : Int64) (last : Position), value.toInt = n ∧
      (ofSource (toString n)).Yields [.ok ⟨.integer value, .start⟩, .ok ⟨.endOfInput, last⟩] := by
  have value : (Int64.ofNat n).toInt = n := Int64.toInt_ofNat_of_lt (Nat.lt_succ_of_le fits)
  have plain : (Lexeme.integer (Int64.ofNat n)).Plain := Lexeme.plain_integer (by omega)
  have text : (Lexeme.integer (Int64.ofNat n)).text = toString n := by
    rw [Lexeme.text, value]
    rfl
  have cut : Piece.Cut [⟨[], (toString n).toList, .integer (Int64.ofNat n)⟩] [] :=
    ⟨.nil, text ▸ plain, .nil⟩
  have whole : (toString n).toList =
      Piece.join [⟨[], (toString n).toList, .integer (Int64.ofNat n)⟩] [] := by
    simp [Piece.join]
  exact ⟨Int64.ofNat n, _, value, yields_tokens_iff.2 (TokenStream.ofSource_join cut whole)⟩

end Lexer

/-- Number literals are read by value. Where the next token starts with a run of digits, it is a real
literal if a dot and a digit follow, with all digits behind the dot; else it is an integer literal with
the decimal value of the run if that fits, and the run is refused with its text if it does not. Each time
just that is taken. So the decimal text of a natural number that fits is read as that number. -/
theorem number_literals_by_value :
    (∀ (lexer : Lexer) (gap digits after : List Char), lexer.BeforeDigits gap digits after →
      (goesOnAsReal after → ∃ places left, after = '.' :: (places ++ left) ∧ places ≠ [] ∧
        places.all Char.isDigit ∧ goesOn Char.isDigit left = false ∧
        lexer.Finds gap (digits ++ '.' :: places) left (.ok (.real
          (Float.ofScientific (Nat.ofDigitChars 10 (digits ++ places) 0) true places.length)))) ∧
      (goesOnAsReal after = false → Nat.ofDigitChars 10 digits 0 ≤ 2 ^ 63 - 1 →
        ∃ value : Int64, value.toInt = Nat.ofDigitChars 10 digits 0 ∧
          lexer.Finds gap digits after (.ok (.integer value))) ∧
      (goesOnAsReal after = false → 2 ^ 63 - 1 < Nat.ofDigitChars 10 digits 0 →
        lexer.Finds gap digits after (.error (.invalidNumber (String.ofList digits))))) ∧
    ∀ n : Nat, n ≤ 2 ^ 63 - 1 → ∃ (value : Int64) (last : Position), value.toInt = n ∧
      (Lexer.ofSource (toString n)).Yields [.ok ⟨.integer value, .start⟩, .ok ⟨.endOfInput, last⟩] :=
  ⟨fun _ _ _ _ before => ⟨before.finds_real, before.finds_integer, before.finds_tooLarge⟩,
    fun _ => Lexer.yields_natural⟩

theorem number_literals_by_value_tooLarge :
    (Lexer.ofSource " 09223372036854775808.").Finds [' '] "09223372036854775808".toList ['.']
      (.error (.invalidNumber "09223372036854775808")) := by
  have before : (Lexer.ofSource " 09223372036854775808.").BeforeDigits [' ']
      "09223372036854775808".toList ['.'] :=
    ⟨rfl, .blank (by decide) .nil, by decide, by decide, by decide⟩
  exact (number_literals_by_value.1 _ _ _ _ before).2.2 (by decide) (by decide)

end MiniPascal
