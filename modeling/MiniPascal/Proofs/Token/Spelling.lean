import MiniPascal.Text.WhiteSpace
import MiniPascal.Token.Munch

set_option autoImplicit false

namespace MiniPascal

namespace Text

def CodeRanges.disjoint (these those : CodeRanges) : Bool :=
  these.all fun here => those.all fun there => here.2 < there.1 || there.2 < here.1

theorem CodeRanges.exists_of_contains {ranges : CodeRanges} {code : Nat} (h : ranges.contains code) :
    ∃ range ∈ ranges, range.1 ≤ code ∧ code ≤ range.2 := by
  induction ranges with
  | nil => cases h
  | cons range rest ih =>
    unfold CodeRanges.contains at h
    split at h
    next => cases h
    next notBefore =>
      split at h
      next notAfter => exact ⟨range, List.mem_cons_self, Nat.le_of_not_lt notBefore, notAfter⟩
      next =>
        obtain ⟨found, among, within⟩ := ih h
        exact ⟨found, List.mem_cons_of_mem _ among, within⟩

theorem CodeRanges.not_contains {these those : CodeRanges} {code : Nat}
    (apart : disjoint these those) (here : these.contains code) : those.contains code = false := by
  cases there : those.contains code with
  | false => rfl
  | true =>
    obtain ⟨range, among, within⟩ := exists_of_contains here
    obtain ⟨range', among', within'⟩ := exists_of_contains there
    have separate := List.all_eq_true.1 (List.all_eq_true.1 apart range among) range' among'
    simp only [Bool.or_eq_true, decide_eq_true_eq] at separate
    omega

theorem isAlphanumeric_of_isWhiteSpace {c : Char} (blank : isWhiteSpace c) :
    isAlphanumeric c = false := by
  have noLetter : isAlphabetic c = false := CodeRanges.not_contains (by decide +kernel) blank
  have noNumeral : isNumeric c = false := CodeRanges.not_contains (by decide +kernel) blank
  rw [isAlphanumeric, noLetter, noNumeral]
  rfl

theorem isDigit_of_isWhiteSpace {c : Char} (blank : isWhiteSpace c) : c.isDigit = false := by
  have apart : CodeRanges.contains [('0'.toNat, '9'.toNat)] c.toNat = false :=
    CodeRanges.not_contains (by decide) blank
  cases digit : c.isDigit with
  | false => rfl
  | true =>
    obtain ⟨least, most⟩ := Char.isDigit_iff_toNat.1 digit
    rw [CodeRanges.contains, if_neg (Nat.not_lt.2 least), if_pos most] at apart
    exact apart

-- The letters come behind the digits.
theorem isAlphabetic_of_isDigit {c : Char} (digit : c.isDigit) : isAlphabetic c = false :=
  if_pos (Nat.lt_of_le_of_lt (Char.isDigit_iff_toNat.1 digit).2 (by decide))

end Text

def goesOn (test : Char → Bool) (text : List Char) : Bool :=
  text.head?.any test

def goesOnAsReal : List Char → Bool
  | '.' :: text => goesOn Char.isDigit text
  | _ => false

structure IsIdentifier (name : String) : Prop where
  isWord : ∃ c rest, name.toList = c :: rest ∧ Text.isAlphabetic c ∧ rest.all Text.isAlphanumeric
  notReserved : ∀ word : Keyword, word.spelling ≠ name

/-- The lexeme is spelled like this where the text goes on with `after`. An integer literal has the
value of its digits, and there is none where no machine integer has that value. -/
inductive Spells (after : List Char) : Lexeme → List Char → Prop where
  | keyword (word : Keyword) (ends : goesOn Text.isAlphanumeric after = false) :
      Spells after (.keyword word) word.spelling.toList
  | identifier {name : String} (isName : IsIdentifier name)
      (ends : goesOn Text.isAlphanumeric after = false) :
      Spells after (.identifier name) name.toList
  | integer {digits : List Char} {value : Int64} (nonempty : digits ≠ [])
      (areDigits : digits.all Char.isDigit) (means : value.toInt = Nat.ofDigitChars 10 digits 0)
      (ends : goesOn Char.isDigit after = false) (notReal : goesOnAsReal after = false) :
      Spells after (.integer value) digits
  | real {whole places : List Char} (nonempty : whole ≠ []) (areDigits : whole.all Char.isDigit)
      (hasPlaces : places ≠ []) (placesDigits : places.all Char.isDigit)
      (ends : goesOn Char.isDigit after = false) :
      Spells after
        (.real (Float.ofScientific (Nat.ofDigitChars 10 (whole ++ places) 0) true places.length))
        (whole ++ '.' :: places)
  | colon (ends : goesOn (· == '=') after = false) : Spells after (.mark .colon) [':']
  | mark {m : Mark} (notColon : m ≠ .colon) : Spells after (.mark m) m.spelling.toList

theorem Spells.notEnd {after spelling : List Char} {l : Lexeme} (spells : Spells after l spelling) :
    l.kind ≠ .endOfInput := by
  cases spells <;> simp [Lexeme.kind]

theorem Spells.text {after spelling : List Char} {l : Lexeme} (spells : Spells after l spelling)
    (noNumber : l.number? = none) : l.text.toList = spelling := by
  cases spells with
  | integer | real => cases noNumber
  | _ => rfl

section Runs

variable {test : Char → Bool} {run after text : List Char}

theorem takeWhile_run (all : run.all test) (ends : goesOn test after = false) :
    (run ++ after).takeWhile test = run := by
  rw [List.takeWhile_append_of_pos (List.all_eq_true.1 all)]
  cases after with
  | nil => simp
  | cons c after =>
    have stops : test c = false := ends
    simp [stops]

theorem dropWhile_run (all : run.all test) (ends : goesOn test after = false) :
    (run ++ after).dropWhile test = after := by
  have whole := List.takeWhile_append_dropWhile (p := test) (l := run ++ after)
  rw [takeWhile_run all ends] at whole
  exact List.append_cancel_left whole

theorem goesOn_dropWhile : goesOn test (text.dropWhile test) = false := by
  have stops := List.head?_dropWhile_not test text
  unfold goesOn
  cases h : (text.dropWhile test).head? with
  | none => rfl
  | some c =>
    rw [h] at stops
    exact stops

end Runs

namespace Keyword

theorem ofSpelling?_spelling (word : Keyword) : ofSpelling? word.spelling = some word := by
  cases word <;> rfl

theorem spelling_of_ofSpelling? {word : Keyword} {spelled : String}
    (found : ofSpelling? spelled = some word) : word.spelling = spelled := by
  simpa using List.find?_some found

theorem ofSpelling?_eq_none_iff {spelled : String} :
    ofSpelling? spelled = none ↔ ∀ word : Keyword, word.spelling ≠ spelled := by
  constructor
  · intro unknown word same
    rw [← same, ofSpelling?_spelling] at unknown
    cases unknown
  · intro other
    exact List.find?_eq_none.2 fun word _ => by simpa using other word

theorem isWord (word : Keyword) : ∃ c rest, word.spelling.toList = c :: rest ∧
    Text.isAlphabetic c ∧ rest.all Text.isAlphanumeric := by
  cases word <;> exact ⟨_, _, rfl, rfl, rfl⟩

end Keyword

theorem isIdentifier_iff {name : String} :
    IsIdentifier name ↔
      name.toList.head?.any Text.isAlphabetic ∧ name.toList.all Text.isAlphanumeric ∧
        Keyword.ofSpelling? name = none := by
  rw [Keyword.ofSpelling?_eq_none_iff]
  constructor
  · intro isName
    obtain ⟨c, rest, same, letter, others⟩ := isName.isWord
    rw [same]
    exact ⟨letter, by simpa [Text.isAlphanumeric, letter] using others, isName.notReserved⟩
  · rintro ⟨starts, all, notReserved⟩
    refine ⟨?_, notReserved⟩
    cases same : name.toList with
    | nil =>
      rw [same] at starts
      cases starts
    | cons c rest =>
      rw [same] at starts all
      rw [List.all_cons, Bool.and_eq_true] at all
      exact ⟨c, rest, rfl, starts, all.2⟩

instance (name : String) : Decidable (IsIdentifier name) :=
  decidable_of_iff' _ isIdentifier_iff

section Munch

variable {after : List Char}

theorem munch_word {word : String}
    (isWord : ∃ c rest, word.toList = c :: rest ∧ Text.isAlphabetic c ∧ rest.all Text.isAlphanumeric)
    (ends : goesOn Text.isAlphanumeric after = false) :
    munch (word.toList ++ after) = ⟨.ok (Munch.wordLexeme word), word.toList.length⟩ := by
  obtain ⟨c, rest, spelling, letter, others⟩ := isWord
  have run : (word.toList ++ after).takeWhile Text.isAlphanumeric = word.toList := by
    refine takeWhile_run ?_ ends
    rw [spelling, List.all_cons, others]
    simp [Text.isAlphanumeric, letter]
  have asWord : munch (word.toList ++ after) = Munch.word (word.toList ++ after) := by
    rw [spelling, List.cons_append, munch, if_pos letter]
  rw [asWord, Munch.word, run, String.ofList_toList]

theorem munch_digits {c : Char} (digit : c.isDigit) (rest : List Char) :
    munch (c :: rest) = Munch.number (c :: rest) := by
  rw [munch, if_neg (by simp [Text.isAlphabetic_of_isDigit digit]), if_pos digit]

theorem munch_number {whole : List Char} (some : whole ≠ []) (areDigits : whole.all Char.isDigit) :
    munch (whole ++ after) = Munch.number (whole ++ after) := by
  obtain ⟨c, rest, rfl⟩ := List.exists_cons_of_ne_nil some
  exact munch_digits (List.all_eq_true.1 areDigits c List.mem_cons_self) _

theorem fraction_eq_nil_iff : Munch.fraction after = [] ↔ goesOnAsReal after = false := by
  unfold Munch.fraction goesOnAsReal
  split
  next text =>
    cases text with
    | nil => simp [goesOn]
    | cons c text => cases digit : c.isDigit <;> simp [goesOn, digit]
  next => simp

theorem exists_of_fraction {place : Char} {places : List Char}
    (found : Munch.fraction after = place :: places) :
    ∃ text, after = '.' :: text ∧ text.takeWhile Char.isDigit = place :: places := by
  unfold Munch.fraction at found
  split at found
  next text => exact ⟨text, rfl, found⟩
  next => cases found

theorem integerLexeme_of_value {digits : List Char} {value : Int64}
    (means : value.toInt = Nat.ofDigitChars 10 digits 0) :
    Munch.integerLexeme digits = .ok (.integer value) := by
  have most : value.toInt ≤ 0x7FFFFFFFFFFFFFFF := value.toInt_le
  have fits : Nat.ofDigitChars 10 digits 0 ≤ 0x7FFFFFFFFFFFFFFF := by omega
  have same : Int64.ofNat (Nat.ofDigitChars 10 digits 0) = value := by
    rw [← Int64.toInt_inj, means]
    exact Int64.toInt_ofNat_of_lt (Nat.lt_succ_of_le fits)
  exact (if_pos fits).trans (congrArg (fun v => Except.ok (Lexeme.integer v)) same)

theorem value_of_integerLexeme {digits : List Char} {l : Lexeme}
    (found : Munch.integerLexeme digits = .ok l) :
    ∃ value : Int64, l = .integer value ∧ value.toInt = Nat.ofDigitChars 10 digits 0 := by
  simp only [Munch.integerLexeme] at found
  split at found
  next fits =>
    cases found
    exact ⟨_, rfl, Int64.toInt_ofNat_of_lt (Nat.lt_succ_of_le fits)⟩
  next => cases found

theorem munch_colon (after : List Char) :
    munch (':' :: after) =
      if goesOn (· == '=') after then Munch.ofMark .assign else Munch.ofMark .colon := by
  have asColon : munch (':' :: after) = Munch.colon (':' :: after) := rfl
  rw [asColon]
  unfold Munch.colon
  split
  next rest same =>
    cases same
    rfl
  next other =>
    have noEquals : ¬ goesOn (· == '=') after := by
      cases after with
      | nil => simp [goesOn]
      | cons c rest => simpa [goesOn] using fun isEquals => other rest (by rw [isEquals])
    rw [if_neg noEquals]

theorem munch_mark {c : Char} {m : Mark} (found : Mark.ofChar? c = some m) (after : List Char) :
    munch (c :: after) = Munch.ofMark m ∧ m ≠ .colon ∧ m.spelling.toList = [c] := by
  unfold Mark.ofChar? at found
  split at found <;> cases found <;> exact ⟨rfl, by decide, rfl⟩

theorem munch_of_spells {l : Lexeme} {spelling : List Char} (spells : Spells after l spelling) :
    munch (spelling ++ after) = ⟨.ok l, spelling.length⟩ := by
  cases spells with
  | keyword word ends =>
    rw [munch_word word.isWord ends, Munch.wordLexeme, Keyword.ofSpelling?_spelling]
  | identifier isName ends =>
    have unknown := Keyword.ofSpelling?_eq_none_iff.2 isName.notReserved
    rw [munch_word isName.isWord ends, Munch.wordLexeme, unknown]
  | integer nonempty areDigits means ends notReal =>
    rw [munch_number nonempty areDigits, Munch.number]
    simp only [takeWhile_run areDigits ends, dropWhile_run areDigits ends,
      fraction_eq_nil_iff.2 notReal, integerLexeme_of_value means]
  | @real whole places nonempty areDigits hasPlaces placesDigits ends =>
    have dot : goesOn Char.isDigit ('.' :: (places ++ after)) = false := rfl
    have fraction : Munch.fraction ('.' :: (places ++ after)) = places :=
      takeWhile_run placesDigits ends
    have length : whole.length + 1 + places.length = (whole ++ '.' :: places).length := by
      simp only [List.length_append, List.length_cons]
      omega
    rw [List.append_assoc, List.cons_append, munch_number nonempty areDigits, Munch.number]
    simp only [takeWhile_run areDigits dot, dropWhile_run areDigits dot, fraction, length]
    rfl
  | colon ends =>
    rw [List.singleton_append, munch_colon, ends]
    rfl
  | @mark m notColon =>
    cases m with
    | colon => exact absurd rfl notColon
    | _ => rfl

theorem spells_unique {after' spelling spelling' : List Char} {l l' : Lexeme}
    (spells : Spells after l spelling) (spells' : Spells after' l' spelling')
    (same : spelling ++ after = spelling' ++ after') :
    l = l' ∧ spelling = spelling' ∧ after = after' := by
  have read := munch_of_spells spells
  rw [same, munch_of_spells spells'] at read
  simp only [Munch.mk.injEq, Except.ok.injEq] at read
  exact ⟨read.1.symm, List.append_inj same read.2.symm⟩

theorem spells_of_word {c : Char} {rest : List Char} {l : Lexeme} (letter : Text.isAlphabetic c)
    (found : (Munch.word (c :: rest)).lexeme = .ok l) :
    ∃ spelling after, c :: rest = spelling ++ after ∧ Spells after l spelling := by
  let run := (c :: rest).takeWhile Text.isAlphanumeric
  let after := (c :: rest).dropWhile Text.isAlphanumeric
  have whole : c :: rest = run ++ after := List.takeWhile_append_dropWhile.symm
  have ends : goesOn Text.isAlphanumeric after = false := goesOn_dropWhile
  refine ⟨run, after, whole, ?_⟩
  have same : Munch.wordLexeme (String.ofList run) = l := Except.ok.inj found
  unfold Munch.wordLexeme at same
  split at same
  next word reserved =>
    have spelled : word.spelling.toList = run := by
      rw [Keyword.spelling_of_ofSpelling? reserved, String.toList_ofList]
    rw [← same, ← spelled]
    exact .keyword word ends
  next notReserved =>
    have isName : IsIdentifier (String.ofList run) := by
      refine ⟨⟨c, rest.takeWhile Text.isAlphanumeric, ?_, letter, List.all_takeWhile⟩, ?_⟩
      · simp [run, Text.isAlphanumeric, letter]
      · exact Keyword.ofSpelling?_eq_none_iff.1 notReserved
    have spelled := Spells.identifier isName ends
    rw [String.toList_ofList, same] at spelled
    exact spelled

theorem spells_of_number {c : Char} {rest : List Char} {l : Lexeme} (digit : c.isDigit)
    (found : (Munch.number (c :: rest)).lexeme = .ok l) :
    ∃ spelling after, c :: rest = spelling ++ after ∧ Spells after l spelling := by
  generalize isWhole : (c :: rest).takeWhile Char.isDigit = whole
  generalize isBehind : (c :: rest).dropWhile Char.isDigit = behind
  have split : c :: rest = whole ++ behind := by
    rw [← isWhole, ← isBehind, List.takeWhile_append_dropWhile]
  have nonempty : whole ≠ [] := by simp [← isWhole, digit]
  have areDigits : whole.all Char.isDigit := isWhole ▸ List.all_takeWhile
  simp only [Munch.number, isWhole, isBehind] at found
  cases isFraction : Munch.fraction behind with
  | nil =>
    simp only [isFraction] at found
    obtain ⟨value, rfl, means⟩ := value_of_integerLexeme found
    have ends : goesOn Char.isDigit behind = false := isBehind ▸ goesOn_dropWhile
    exact ⟨whole, behind, split, .integer nonempty areDigits means ends
      (fraction_eq_nil_iff.1 isFraction)⟩
  | cons place places =>
    simp only [isFraction, Except.ok.injEq] at found
    obtain ⟨text, rfl, isRun⟩ := exists_of_fraction isFraction
    have whole' : text = (place :: places) ++ text.dropWhile Char.isDigit := by
      rw [← isRun, List.takeWhile_append_dropWhile]
    have placesDigits : (place :: places).all Char.isDigit := isRun ▸ List.all_takeWhile
    refine ⟨whole ++ '.' :: place :: places, text.dropWhile Char.isDigit, ?_, ?_⟩
    · rw [split, List.append_assoc, List.cons_append, ← whole']
    · exact found ▸ .real nonempty areDigits (List.cons_ne_nil _ _) placesDigits goesOn_dropWhile

theorem spells_of_colon {rest : List Char} {l : Lexeme} (found : (munch (':' :: rest)).lexeme = .ok l) :
    ∃ spelling after, ':' :: rest = spelling ++ after ∧ Spells after l spelling := by
  rw [munch_colon] at found
  cases equals : goesOn (· == '=') rest with
  | true =>
    cases rest with
    | nil => cases equals
    | cons c after =>
      obtain rfl : c = '=' := by simpa [goesOn] using equals
      cases found
      exact ⟨[':', '='], after, rfl, .mark (m := .assign) (by decide)⟩
  | false =>
    rw [equals] at found
    cases found
    exact ⟨[':'], rest, rfl, .colon equals⟩

theorem spells_of_munch {c : Char} {rest : List Char} {l : Lexeme}
    (found : (munch (c :: rest)).lexeme = .ok l) :
    ∃ spelling after, c :: rest = spelling ++ after ∧ Spells after l spelling := by
  by_cases letter : Text.isAlphabetic c
  next =>
    have asWord : munch (c :: rest) = Munch.word (c :: rest) := if_pos letter
    rw [asWord] at found
    exact spells_of_word letter found
  next =>
    by_cases digit : c.isDigit
    next =>
      rw [munch_digits digit] at found
      exact spells_of_number digit found
    next =>
      by_cases isColon : c = ':'
      next =>
        subst isColon
        exact spells_of_colon found
      next =>
        cases isMark : Mark.ofChar? c with
        | some m =>
          obtain ⟨same, notColon, spelling⟩ := munch_mark isMark rest
          rw [same] at found
          refine ⟨m.spelling.toList, rest, by rw [spelling]; rfl, ?_⟩
          exact Except.ok.inj found ▸ .mark notColon
        | none =>
          rw [munch, if_neg letter, if_neg digit, if_neg isColon, isMark] at found
          cases found

end Munch

end MiniPascal
