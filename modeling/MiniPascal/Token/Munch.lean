import MiniPascal.Text.Alphabetic
import MiniPascal.Token

set_option autoImplicit false

namespace MiniPascal

inductive LexFault where
  | invalidCharacter (character : Char)
  | unterminatedComment
  | invalidNumber (digits : String)
deriving DecidableEq

structure Munch where
  lexeme : Except LexFault Lexeme
  length : Nat

namespace Munch

def digitValue (c : Char) : Nat :=
  c.toNat - '0'.toNat

def decimalValue (digits : List Char) : Nat :=
  digits.foldl (fun value c => 10 * value + digitValue c) 0

def wordLexeme (word : String) : Lexeme :=
  match Keyword.ofSpelling? word with
  | some keyword => .keyword keyword
  | none => .identifier word

def word (text : List Char) : Munch :=
  let run := text.takeWhile Text.isAlphanumeric
  ⟨.ok (wordLexeme (String.ofList run)), run.length⟩

-- An integer literal that no 64-bit integer holds is refused with its digits.
def integerLexeme (digits : List Char) : Except LexFault Lexeme :=
  let value := decimalValue digits
  if value ≤ 0x7FFFFFFFFFFFFFFF then .ok (.integer (Int64.ofNat value))
  else .error (.invalidNumber (String.ofList digits))

def realLexeme (whole fraction : List Char) : Lexeme :=
  .real (Float.ofScientific (decimalValue (whole ++ fraction)) true fraction.length)

def fraction : List Char → List Char
  | '.' :: text => text.takeWhile Char.isDigit
  | _ => []

def number (text : List Char) : Munch :=
  let whole := text.takeWhile Char.isDigit
  match fraction (text.dropWhile Char.isDigit) with
  | [] => ⟨integerLexeme whole, whole.length⟩
  | places => ⟨.ok (realLexeme whole places), whole.length + 1 + places.length⟩

def ofMark (mark : Mark) : Munch :=
  ⟨.ok (.mark mark), mark.spelling.length⟩

def colon : List Char → Munch
  | ':' :: '=' :: _ => ofMark .assign
  | _ => ofMark .colon

end Munch

/-- Reads the lexeme at the start of a text. A character that starts none is refused and not taken. -/
def munch : List Char → Munch
  | [] => ⟨.ok .endOfInput, 0⟩
  | c :: rest =>
    if Text.isAlphabetic c then Munch.word (c :: rest)
    else if c.isDigit then Munch.number (c :: rest)
    else if c = ':' then Munch.colon (c :: rest)
    else
      match Mark.ofChar? c with
      | some mark => Munch.ofMark mark
      | none => ⟨.error (.invalidCharacter c), 0⟩

namespace Munch

theorem length_ofMark_pos (mark : Mark) : 0 < (ofMark mark).length := by
  cases mark <;> decide

theorem length_colon_pos (text : List Char) : 0 < (colon text).length := by
  unfold colon
  split <;> exact length_ofMark_pos _

theorem length_word_pos {c : Char} (h : Text.isAlphabetic c) (rest : List Char) :
    0 < (word (c :: rest)).length := by
  simp [word, Text.isAlphanumeric, h]

theorem length_number_pos {c : Char} (h : c.isDigit) (rest : List Char) :
    0 < (number (c :: rest)).length := by
  unfold number
  simp only
  split
  next => simp [h]
  next => exact Nat.lt_of_lt_of_le (Nat.succ_pos _) (Nat.le_add_right _ _)

end Munch

theorem length_munch_pos {text : List Char} {lexeme : Lexeme}
    (h : (munch text).lexeme = .ok lexeme) (notEnd : lexeme ≠ .endOfInput) :
    0 < (munch text).length := by
  cases text with
  | nil =>
    simp only [munch, Except.ok.injEq] at h
    exact absurd h.symm notEnd
  | cons c rest =>
    rw [munch] at h ⊢
    split at h
    next letter => rw [if_pos letter]; exact Munch.length_word_pos letter rest
    next letter =>
      rw [if_neg letter]
      split at h
      next digit => rw [if_pos digit]; exact Munch.length_number_pos digit rest
      next digit =>
        rw [if_neg digit]
        split at h
        next colon => rw [if_pos colon]; exact Munch.length_colon_pos _
        next colon =>
          rw [if_neg colon]
          split at h
          next mark found => exact Munch.length_ofMark_pos mark
          next => simp at h

theorem text_ne_nil_of_munch {text : List Char} {lexeme : Lexeme}
    (h : (munch text).lexeme = .ok lexeme) (notEnd : lexeme ≠ .endOfInput) : text ≠ [] := by
  rintro rfl
  simp only [munch, Except.ok.injEq] at h
  exact notEnd h.symm

end MiniPascal
