import MiniPascal.Proofs.Token.Spelling
import MiniPascal.Token.Cursor

set_option autoImplicit false

namespace MiniPascal

inductive Gap : List Char → Prop where
  | nil : Gap []
  | blank {c : Char} {rest : List Char} (isBlank : Text.isWhiteSpace c) (more : Gap rest) :
      Gap (c :: rest)
  | comment {body rest : List Char} (noClose : '}' ∉ body) (more : Gap rest) :
      Gap ('{' :: (body ++ '}' :: rest))

def opensGap (c : Char) : Bool :=
  Text.isWhiteSpace c || c == '{'

-- What is left of a gap, from inside a comment if there is a brace.
def GapFrom : Option Position → List Char → Prop
  | none, gap => Gap gap
  | some _, gap => ∃ body rest, gap = body ++ '}' :: rest ∧ '}' ∉ body ∧ Gap rest

theorem isAlphanumeric_of_opensGap {c : Char} (opens : opensGap c) :
    Text.isAlphanumeric c = false := by
  rcases Bool.or_eq_true_iff.1 opens with blank | brace
  · exact Text.isAlphanumeric_of_isWhiteSpace blank
  · rw [beq_iff_eq.1 brace]
    rfl

theorem isDigit_of_opensGap {c : Char} (opens : opensGap c) : c.isDigit = false := by
  rcases Bool.or_eq_true_iff.1 opens with blank | brace
  · exact Text.isDigit_of_isWhiteSpace blank
  · rw [beq_iff_eq.1 brace]
    rfl

theorem opensGap_of_isAlphabetic {c : Char} (letter : Text.isAlphabetic c) : opensGap c = false := by
  cases opens : opensGap c with
  | false => rfl
  | true => simpa [Text.isAlphanumeric, letter] using isAlphanumeric_of_opensGap opens

theorem opensGap_of_isDigit {c : Char} (digit : c.isDigit) : opensGap c = false := by
  cases opens : opensGap c with
  | false => rfl
  | true => simpa [digit] using isDigit_of_opensGap opens

theorem Spells.head {after spelling : List Char} {l : Lexeme} (spells : Spells after l spelling) :
    ∃ c rest, spelling = c :: rest ∧ opensGap c = false := by
  cases spells with
  | keyword word _ =>
    obtain ⟨c, rest, same, letter, -⟩ := word.isWord
    exact ⟨c, rest, same, opensGap_of_isAlphabetic letter⟩
  | identifier isName _ =>
    obtain ⟨c, rest, same, letter, -⟩ := isName.isWord
    exact ⟨c, rest, same, opensGap_of_isAlphabetic letter⟩
  | integer nonempty areDigits _ _ _ =>
    obtain ⟨c, rest, rfl⟩ := List.exists_cons_of_ne_nil nonempty
    exact ⟨c, rest, rfl, opensGap_of_isDigit (List.all_eq_true.1 areDigits c List.mem_cons_self)⟩
  | @real whole places nonempty areDigits _ _ _ =>
    obtain ⟨c, rest, rfl⟩ := List.exists_cons_of_ne_nil nonempty
    exact ⟨c, rest ++ '.' :: places, rfl,
      opensGap_of_isDigit (List.all_eq_true.1 areDigits c List.mem_cons_self)⟩
  | colon _ => exact ⟨':', [], rfl, rfl⟩
  | @mark m _ => cases m <;> exact ⟨_, _, rfl, rfl⟩

theorem Spells.ends_gap {after spelling : List Char} {l : Lexeme} (spells : Spells after l spelling)
    (more : List Char) : goesOn opensGap (spelling ++ more) = false := by
  obtain ⟨c, rest, rfl, closed⟩ := spells.head
  exact closed

namespace Cursor

theorem skipGap_comment {brace position : Position} {body : List Char} (noClose : '}' ∉ body)
    (rest : List Char) :
    skipGap (some brace) (body ++ '}' :: rest) position =
      skipGap none rest (position.after (body ++ ['}'])) := by
  induction body generalizing position with
  | nil => rfl
  | cons c body ih =>
    have notClose : c ≠ '}' := fun same => noClose (same ▸ List.mem_cons_self)
    have noCloseBehind : '}' ∉ body := fun among => noClose (List.mem_cons_of_mem _ among)
    rw [List.cons_append, skipGap, if_neg notClose, ih noCloseBehind]
    rfl

theorem skipGap_gap {gap text : List Char} (isGap : Gap gap) (ends : goesOn opensGap text = false)
    (position : Position) :
    skipGap none (gap ++ text) position = (none, ⟨text, position.after gap⟩) := by
  induction isGap generalizing position with
  | nil =>
    cases text with
    | nil => rfl
    | cons c text =>
      have stops : opensGap c = false := ends
      simp only [opensGap, Bool.or_eq_false_iff, beq_eq_false_iff_ne] at stops
      rw [List.nil_append, skipGap, if_neg (by simp [stops.1]), if_neg stops.2]
      rfl
  | blank isBlank more ih =>
    rw [List.cons_append, skipGap, if_pos isBlank, ih]
    rfl
  | @comment body rest noClose more ih =>
    have brace : Text.isWhiteSpace '{' = false := rfl
    rw [List.cons_append, skipGap, if_neg (by simp [brace]), if_pos rfl, List.append_assoc,
      List.cons_append, skipGap_comment noClose, ih]
    simp

theorem gap_unique {gap gap' text text' : List Char} (isGap : Gap gap) (isGap' : Gap gap')
    (ends : goesOn opensGap text = false) (ends' : goesOn opensGap text' = false)
    (same : gap ++ text = gap' ++ text') : gap = gap' ∧ text = text' := by
  have skipped := skipGap_gap isGap ends .start
  rw [same, skipGap_gap isGap' ends' .start] at skipped
  have behind : text = text' := congrArg (fun result => result.2.rest) skipped.symm
  exact ⟨List.append_cancel_right (behind ▸ same), behind⟩

theorem gap_of_skipGap {brace : Option Position} {text : List Char} {position : Position}
    {next : Cursor} (skipped : skipGap brace text position = (none, next)) :
    ∃ gap, GapFrom brace gap ∧ text = gap ++ next.rest ∧ next.position = position.after gap ∧
      goesOn opensGap next.rest = false := by
  induction text generalizing brace position with
  | nil =>
    cases skipped
    exact ⟨[], .nil, rfl, rfl, rfl⟩
  | cons c text ih =>
    unfold skipGap at skipped
    split at skipped
    next brace =>
      by_cases closes : c = '}'
      next =>
        rw [if_pos closes] at skipped
        obtain ⟨gap, isGap, rfl, place, ends⟩ := ih skipped
        exact ⟨c :: gap, ⟨[], gap, by rw [closes]; rfl, by simp, isGap⟩, rfl, place, ends⟩
      next =>
        rw [if_neg closes] at skipped
        obtain ⟨_, ⟨body, gap, rfl, noClose, isGap⟩, rfl, place, ends⟩ := ih skipped
        have stillOpen : '}' ∉ c :: body := by simp [noClose, Ne.symm closes]
        exact ⟨c :: (body ++ '}' :: gap), ⟨c :: body, gap, rfl, stillOpen, isGap⟩, rfl, place, ends⟩
    next =>
      split at skipped
      next isBlank =>
        obtain ⟨gap, isGap, rfl, place, ends⟩ := ih skipped
        exact ⟨c :: gap, .blank isBlank isGap, rfl, place, ends⟩
      next notBlank =>
        split at skipped
        next isBrace =>
          obtain ⟨_, ⟨body, gap, rfl, noClose, isGap⟩, rfl, place, ends⟩ := ih skipped
          exact ⟨c :: (body ++ '}' :: gap), isBrace ▸ .comment noClose isGap, rfl, place, ends⟩
        next notBrace =>
          cases skipped
          exact ⟨[], .nil, rfl, rfl, by simp [goesOn, opensGap, notBlank, notBrace]⟩

end Cursor

end MiniPascal
