import MiniPascal.Proofs.Token.Decomposition

set_option autoImplicit false

namespace MiniPascal

def startsLexeme (c : Char) : Bool :=
  Text.isAlphabetic c || c.isDigit || c == ':' || (Mark.ofChar? c).isSome

/-- What a call skips, takes and leaves of the text before it, and what it finds there. -/
inductive Scan : (skipped taken left : List Char) → Except LexFault Lexeme → Prop where
  | lexeme {gap spelling left : List Char} {l : Lexeme} (isGap : Gap gap)
      (spells : Spells left l spelling) : Scan gap spelling left (.ok l)
  | atEnd {gap : List Char} (isGap : Gap gap) : Scan gap [] [] (.ok .endOfInput)
  -- All digits are taken, although no 64-bit integer has their value.
  | tooLarge {gap digits left : List Char} (isGap : Gap gap) (nonempty : digits ≠ [])
      (areDigits : digits.all Char.isDigit)
      (large : 0x7FFFFFFFFFFFFFFF < Nat.ofDigitChars 10 digits 0)
      (ends : goesOn Char.isDigit left = false) (notReal : goesOnAsReal left = false) :
      Scan gap digits left (.error (.invalidNumber (String.ofList digits)))
  -- The character is not taken.
  | noLexeme {gap left : List Char} {c : Char} (isGap : Gap gap) (closed : opensGap c = false)
      (startsNone : startsLexeme c = false) :
      Scan gap [] (c :: left) (.error (.invalidCharacter c))
  -- The comment goes to the end of the text.
  | unclosed {gap body : List Char} (isGap : Gap gap) (noClose : '}' ∉ body) :
      Scan gap ('{' :: body) [] (.error .unterminatedComment)

def placed (position : Position) : Except LexFault Lexeme → Except LexError Token
  | .ok l => .ok ⟨l, position⟩
  | .error fault => .error ⟨fault, position⟩

section Munch

variable {left : List Char}

theorem munch_tooLarge {digits : List Char} (nonempty : digits ≠ []) (areDigits : digits.all Char.isDigit)
    (large : 0x7FFFFFFFFFFFFFFF < Nat.ofDigitChars 10 digits 0)
    (ends : goesOn Char.isDigit left = false) (notReal : goesOnAsReal left = false) :
    munch (digits ++ left) = ⟨.error (.invalidNumber (String.ofList digits)), digits.length⟩ := by
  have refused : Munch.integerLexeme digits = .error (.invalidNumber (String.ofList digits)) :=
    if_neg (Nat.not_le.2 large)
  rw [munch_number nonempty areDigits, Munch.number]
  simp only [takeWhile_run areDigits ends, dropWhile_run areDigits ends,
    fraction_eq_nil_iff.2 notReal, refused]

theorem munch_noLexeme {c : Char} (startsNone : startsLexeme c = false) :
    munch (c :: left) = ⟨.error (.invalidCharacter c), 0⟩ := by
  simp only [startsLexeme, Bool.or_eq_false_iff, beq_eq_false_iff_ne, Option.isSome_eq_false_iff,
    Option.isNone_iff_eq_none] at startsNone
  obtain ⟨⟨⟨notLetter, notDigit⟩, notColon⟩, noMark⟩ := startsNone
  rw [munch, if_neg (by simp [notLetter]), if_neg (by simp [notDigit]), if_neg notColon, noMark]

theorem tooLarge_of_number {c : Char} {rest : List Char} {fault : LexFault} (digit : c.isDigit)
    (found : (Munch.number (c :: rest)).lexeme = .error fault) :
    ∃ digits left, c :: rest = digits ++ left ∧ Scan [] digits left (.error fault) := by
  generalize isWhole : (c :: rest).takeWhile Char.isDigit = whole
  generalize isBehind : (c :: rest).dropWhile Char.isDigit = behind
  have split : c :: rest = whole ++ behind := by
    rw [← isWhole, ← isBehind, List.takeWhile_append_dropWhile]
  have nonempty : whole ≠ [] := by simp [← isWhole, digit]
  have areDigits : whole.all Char.isDigit := isWhole ▸ List.all_takeWhile
  have ends : goesOn Char.isDigit behind = false := isBehind ▸ goesOn_dropWhile
  simp only [Munch.number, isWhole, isBehind] at found
  cases isFraction : Munch.fraction behind with
  | nil =>
    simp only [isFraction, Munch.integerLexeme] at found
    split at found
    next => cases found
    next large =>
      cases found
      exact ⟨whole, behind, split, .tooLarge .nil nonempty areDigits (Nat.not_le.1 large) ends
        (fraction_eq_nil_iff.1 isFraction)⟩
  | cons place places =>
    simp only [isFraction] at found
    cases found

theorem scan_of_munch_error {c : Char} {rest : List Char} {fault : LexFault} (closed : opensGap c = false)
    (found : (munch (c :: rest)).lexeme = .error fault) :
    ∃ taken left, c :: rest = taken ++ left ∧ Scan [] taken left (.error fault) := by
  by_cases digit : c.isDigit
  next =>
    rw [munch_digits digit] at found
    exact tooLarge_of_number digit found
  next =>
    cases starts : startsLexeme c with
    | false =>
      rw [munch_noLexeme starts] at found
      cases found
      exact ⟨[], c :: rest, rfl, .noLexeme .nil closed starts⟩
    | true =>
      simp only [startsLexeme, digit, Bool.or_false, Bool.or_eq_true, beq_iff_eq] at starts
      rcases starts with (letter | rfl) | isMark
      · rw [munch, if_pos letter] at found
        cases found
      · rw [munch_colon] at found
        split at found <;> cases found
      · obtain ⟨m, isMark⟩ := Option.isSome_iff_exists.1 isMark
        rw [(munch_mark isMark rest).1] at found
        cases found

end Munch

namespace Cursor

theorem skipGap_unclosed {body : List Char} (noClose : '}' ∉ body) (brace position : Position) :
    skipGap (some brace) body position = (some brace, ⟨[], position.after body⟩) := by
  induction body generalizing position with
  | nil => rfl
  | cons c body ih =>
    have notClose : c ≠ '}' := fun same => noClose (same ▸ List.mem_cons_self)
    have noCloseBehind : '}' ∉ body := fun among => noClose (List.mem_cons_of_mem _ among)
    rw [skipGap, if_neg notClose, ih noCloseBehind]
    rfl

theorem skipGap_open {gap body : List Char} (isGap : Gap gap) (noClose : '}' ∉ body)
    (position : Position) :
    skipGap none (gap ++ '{' :: body) position =
      (some (position.after gap), ⟨[], position.after (gap ++ '{' :: body)⟩) := by
  have brace : ¬ Text.isWhiteSpace '{' := by decide
  induction isGap generalizing position with
  | nil =>
    rw [List.nil_append, skipGap, if_neg brace, if_pos rfl, skipGap_unclosed noClose]
    rfl
  | blank isBlank more ih =>
    rw [List.cons_append, skipGap, if_pos isBlank, ih]
    rfl
  | @comment inner rest closes more ih =>
    rw [List.cons_append, skipGap, if_neg brace, if_pos rfl, List.append_assoc, List.cons_append,
      skipGap_comment closes, ih]
    simp

end Cursor

namespace Scan

variable {skipped taken left : List Char} {found : Except LexFault Lexeme}

theorem behind {gap : List Char} (scan : Scan skipped taken left found)
    (isGap : Gap skipped → Gap (gap ++ skipped)) : Scan (gap ++ skipped) taken left found := by
  cases scan with
  | lexeme inner spells => exact .lexeme (isGap inner) spells
  | atEnd inner => exact .atEnd (isGap inner)
  | tooLarge inner nonempty areDigits large ends notReal =>
    exact .tooLarge (isGap inner) nonempty areDigits large ends notReal
  | noLexeme inner closed startsNone => exact .noLexeme (isGap inner) closed startsNone
  | unclosed inner noClose => exact .unclosed (isGap inner) noClose

theorem nextToken (scan : Scan skipped taken left found) (position : Position) :
    Cursor.nextToken ⟨skipped ++ (taken ++ left), position⟩ =
      (placed (position.after skipped) found, ⟨left, position.after (skipped ++ taken)⟩) := by
  cases scan with
  | lexeme isGap spells => exact Cursor.nextToken_of_spells isGap spells position
  | atEnd isGap =>
    simp only [List.append_nil]
    exact Cursor.nextToken_of_gap isGap position
  | tooLarge isGap nonempty areDigits large ends notReal =>
    have stops : goesOn opensGap (taken ++ left) = false := by
      obtain ⟨c, rest, rfl⟩ := List.exists_cons_of_ne_nil nonempty
      exact opensGap_of_isDigit (List.all_eq_true.1 areDigits c List.mem_cons_self)
    simp [Cursor.nextToken, Cursor.skipGap_gap isGap stops, Cursor.advance, placed,
      munch_tooLarge nonempty areDigits large ends notReal]
  | @noLexeme left c isGap closed startsNone =>
    have stops : goesOn opensGap (c :: left) = false := closed
    simp [Cursor.nextToken, Cursor.skipGap_gap isGap stops, munch_noLexeme startsNone, Cursor.advance,
      placed]
  | unclosed isGap noClose =>
    simp only [List.append_nil, Cursor.nextToken, Cursor.skipGap_open isGap noClose, placed]

end Scan

theorem exists_scan : ∀ text : List Char, ∃ skipped taken left found,
    text = skipped ++ (taken ++ left) ∧ Scan skipped taken left found
  | [] => ⟨[], [], [], _, rfl, .atEnd .nil⟩
  | c :: rest => by
    by_cases isBlank : Text.isWhiteSpace c
    next =>
      obtain ⟨skipped, taken, left, found, same, scan⟩ := exists_scan rest
      have behind : Scan ([c] ++ skipped) taken left found := scan.behind (.blank isBlank)
      exact ⟨c :: skipped, taken, left, found, by rw [same]; rfl, behind⟩
    next =>
      by_cases isBrace : c = '{'
      next =>
        subst isBrace
        by_cases closes : '}' ∈ rest
        next =>
          obtain ⟨body, behind, rfl, noClose⟩ := List.eq_append_cons_of_mem closes
          have shorter : behind.length < (body ++ '}' :: behind).length := by simp; omega
          obtain ⟨skipped, taken, left, found, rfl, scan⟩ := exists_scan behind
          have isGap (inner : Gap skipped) : Gap (('{' :: (body ++ ['}'])) ++ skipped) := by
            simpa using Gap.comment noClose inner
          exact ⟨_, taken, left, found, by simp, scan.behind isGap⟩
        next => exact ⟨[], '{' :: rest, [], _, by simp, .unclosed .nil closes⟩
      next =>
        have closed : opensGap c = false := by simp [opensGap, isBlank, isBrace]
        cases found : (munch (c :: rest)).lexeme with
        | ok l =>
          obtain ⟨spelling, left, same, spells⟩ := spells_of_munch found
          exact ⟨[], spelling, left, .ok l, same, .lexeme .nil spells⟩
        | error fault =>
          obtain ⟨taken, left, same, scan⟩ := scan_of_munch_error closed found
          exact ⟨[], taken, left, .error fault, same, scan⟩
termination_by text => text.length

theorem Cursor.nextToken_scans (cursor : Cursor) : ∃ skipped taken left found,
    cursor.rest = skipped ++ (taken ++ left) ∧ Scan skipped taken left found ∧
      cursor.nextToken =
        (placed (cursor.position.after skipped) found, ⟨left, cursor.position.after (skipped ++ taken)⟩) := by
  obtain ⟨rest, position⟩ := cursor
  obtain ⟨skipped, taken, left, found, rfl, scan⟩ := exists_scan rest
  exact ⟨skipped, taken, left, found, rfl, scan, scan.nextToken position⟩

end MiniPascal
