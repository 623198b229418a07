import MiniPascal.Proofs.Token.Consumption

set_option autoImplicit false

namespace MiniPascal

def atRest : Except LexError Token → Bool
  | .ok token => token.kind == .endOfInput
  | .error ⟨.invalidCharacter _, _⟩ => true
  | .error _ => false

namespace Cursor

variable {cursor : Cursor}

theorem length_lt_of_not_atRest (moves : atRest cursor.nextToken.1 = false) :
    cursor.nextToken.2.rest.length < cursor.rest.length := by
  obtain ⟨skipped, taken, left, found, split, scan, read⟩ := cursor.nextToken_scans
  rw [read] at moves ⊢
  have takes : taken ≠ [] := by
    cases scan with
    | lexeme _ spells =>
      obtain ⟨c, rest, same, -⟩ := spells.head
      simp [same]
    | atEnd _ | noLexeme _ _ _ => cases moves
    | tooLarge _ nonempty _ _ _ _ => exact nonempty
    | unclosed _ _ => simp
  have some := List.length_pos_iff.2 takes
  simp only [split, List.length_append]
  omega

-- The call that comes to rest has skipped the gap, so the next one starts where this one stops.
theorem nextToken_again (rests : atRest cursor.nextToken.1) :
    cursor.nextToken.2.nextToken = cursor.nextToken := by
  obtain ⟨skipped, taken, left, found, split, scan, read⟩ := cursor.nextToken_scans
  rw [read] at rests ⊢
  cases scan with
  | lexeme _ spells => exact absurd (beq_iff_eq.1 rests) spells.notEnd
  | atEnd _ =>
    rw [List.append_nil]
    exact (Scan.atEnd .nil).nextToken _
  | noLexeme _ closed startsNone =>
    rw [List.append_nil]
    exact (Scan.noLexeme .nil closed startsNone).nextToken _
  | tooLarge _ _ _ _ _ _ | unclosed _ _ => cases rests

theorem tokens_ofCursor_le (cursor : Cursor) :
    (TokenStream.ofCursor cursor).tokens.length ≤ cursor.rest.length := by
  induction cursor using TokenStream.ofCursor.induct with
  | case1 cursor e after read =>
    rw [TokenStream.ofCursor_of_error read]
    exact Nat.zero_le _
  | case2 cursor token after read last =>
    rw [TokenStream.ofCursor_of_end read last]
    exact Nat.zero_le _
  | case3 cursor token after read notLast _ ih =>
    rw [TokenStream.ofCursor_of_token read notLast]
    exact Nat.lt_of_le_of_lt ih (length_nextToken_lt read notLast)

end Cursor

theorem TokenStream.tokens_ofSource_le (source : String) :
    (ofSource source).tokens.length ≤ source.length := by
  rw [← String.length_toList]
  exact Cursor.tokens_ofCursor_le _

namespace Lexer

def afterTokens (lexer : Lexer) (n : Nat) : Lexer :=
  (lexer.perform (List.replicate n .nextToken)).2

def tokenAt (lexer : Lexer) (n : Nat) : Except LexError Token :=
  (lexer.afterTokens n).nextToken.1

theorem afterTokens_succ (lexer : Lexer) (n : Nat) :
    lexer.afterTokens (n + 1) = lexer.nextToken.2.afterTokens n := rfl

theorem afterTokens_add (lexer : Lexer) (m n : Nat) :
    lexer.afterTokens (m + n) = (lexer.afterTokens m).afterTokens n := by
  induction m generalizing lexer with
  | zero => rw [Nat.zero_add]; rfl
  | succ m ih => rw [Nat.add_right_comm, afterTokens_succ, afterTokens_succ, ih]

theorem tokenAt_add (lexer : Lexer) (m n : Nat) :
    lexer.tokenAt (m + n) = (lexer.afterTokens m).tokenAt n := by
  rw [tokenAt, tokenAt, afterTokens_add]

theorem tokenAt_of_atRest {lexer : Lexer} (rests : atRest lexer.nextToken.1) (n : Nat) :
    lexer.tokenAt n = lexer.nextToken.1 := by
  induction n generalizing lexer with
  | zero => rfl
  | succ n ih =>
    have sameCall := congrArg Prod.fst (Cursor.nextToken_again rests)
    have again : lexer.nextToken.2.nextToken.1 = lexer.nextToken.1 := sameCall
    rw [Nat.add_comm, tokenAt_add]
    exact (ih (again ▸ rests)).trans again

theorem exists_atRest (lexer : Lexer) : ∃ n ≤ lexer.cursor.rest.length,
    (∀ i < n, atRest (lexer.tokenAt i) = false) ∧ atRest (lexer.tokenAt n) := by
  induction size : lexer.cursor.rest.length using Nat.strongRecOn generalizing lexer with
  | ind most ih =>
    cases rests : atRest lexer.nextToken.1 with
    | true => exact ⟨0, Nat.zero_le _, fun i small => absurd small (Nat.not_lt_zero i), rests⟩
    | false =>
      have smaller : lexer.nextToken.2.cursor.rest.length < most :=
        size ▸ Cursor.length_lt_of_not_atRest rests
      obtain ⟨n, few, moving, resting⟩ := ih _ smaller lexer.nextToken.2 rfl
      refine ⟨n + 1, Nat.succ_le_of_lt (Nat.lt_of_le_of_lt few smaller), fun i small => ?_, ?_⟩
      · cases i with
        | zero => exact rests
        | succ i => exact moving i (Nat.lt_of_succ_lt_succ small)
      · exact resting

section Source

variable {source : String} {lexer : Lexer} {consumed : List Char}

theorem Consumed.nextToken (before : Consumed source lexer consumed) :
    ∃ skipped taken found, Scan skipped taken lexer.nextToken.2.cursor.rest found ∧
      lexer.nextToken.1 = placed (.behind (consumed ++ skipped)) found ∧
      Consumed source lexer.nextToken.2 (consumed ++ skipped ++ taken) := by
  have gives : Call.nextToken.run lexer = (some lexer.nextToken.1, lexer.nextToken.2) := rfl
  exact before.run gives

theorem consumed_afterTokens (source : String) (n : Nat) :
    ∃ consumed, Consumed source ((ofSource source).afterTokens n) consumed :=
  consumed_perform (consumed_ofSource source) _

theorem Consumed.of_atRest (before : Consumed source lexer consumed) (rests : atRest lexer.nextToken.1) :
    lexer.nextToken.1 = .ok ⟨.endOfInput, .behind source.toList⟩ ∨
      ∃ front c left, source.toList = front ++ c :: left ∧
        lexer.nextToken.1 = .error ⟨.invalidCharacter c, .behind front⟩ := by
  obtain ⟨skipped, taken, found, scan, result, after⟩ := before.nextToken
  have whole := after.isFront
  generalize lexer.nextToken.2.cursor.rest = left at scan whole
  rw [result] at rests ⊢
  cases scan with
  | lexeme _ spells => exact absurd (beq_iff_eq.1 rests) spells.notEnd
  | atEnd _ =>
    rw [List.append_nil, List.append_nil] at whole
    exact .inl (by rw [whole]; rfl)
  | noLexeme _ _ _ => exact .inr ⟨consumed ++ skipped, _, _, by rw [whole, List.append_nil], rfl⟩
  | tooLarge _ _ _ _ _ _ | unclosed _ _ => cases rests

theorem Consumed.of_unclosed (before : Consumed source lexer consumed) {brace : Position}
    (unclosed : lexer.nextToken.1 = .error ⟨.unterminatedComment, brace⟩) (n : Nat) :
    lexer.nextToken.2.tokenAt n = .ok ⟨.endOfInput, .behind source.toList⟩ := by
  obtain ⟨skipped, taken, found, scan, result, after⟩ := before.nextToken
  obtain ⟨inside, place⟩ := after
  generalize lexer.nextToken.2 = next at scan inside place ⊢
  rw [unclosed] at result
  have atEnd : next.cursor = ⟨[], .behind source.toList⟩ := by
    generalize left : next.cursor.rest = rest at scan
    cases scan with
    | unclosed _ _ =>
      rw [left, List.append_nil] at inside
      rw [← inside] at place
      exact congrArg₂ Cursor.mk left place
    | _ => cases result
  have ends : next.nextToken.1 = .ok ⟨.endOfInput, .behind source.toList⟩ := by
    rw [Lexer.nextToken, atEnd]
    rfl
  have rests : atRest next.nextToken.1 := by rw [ends]; rfl
  rw [tokenAt_of_atRest rests, ends]

theorem Consumed.of_tooLarge (before : Consumed source lexer consumed) {digits : String}
    {place : Position} (refused : lexer.nextToken.1 = .error ⟨.invalidNumber digits, place⟩) :
    ∃ gap, Gap gap ∧ lexer.cursor.rest = gap ++ (digits.toList ++ lexer.nextToken.2.cursor.rest) ∧
      digits.toList ≠ [] ∧ digits.toList.all Char.isDigit ∧
      goesOn Char.isDigit lexer.nextToken.2.cursor.rest = false := by
  obtain ⟨skipped, taken, found, scan, result, after⟩ := before.nextToken
  have split : lexer.cursor.rest = skipped ++ (taken ++ lexer.nextToken.2.cursor.rest) := by
    have whole := before.isFront.symm.trans after.isFront
    simpa using whole
  generalize lexer.nextToken.2.cursor.rest = left at scan split ⊢
  rw [refused] at result
  cases scan with
  | tooLarge isGap nonempty areDigits _ ends _ =>
    cases result
    rw [String.toList_ofList]
    exact ⟨skipped, isGap, split, nonempty, areDigits, ends⟩
  | _ => cases result

end Source

theorem toList_ofCursor (cursor : Cursor) (finished : Bool) :
    (TokenStream.ofCursor cursor).toList =
      (List.range (TokenStream.ofCursor cursor).toList.length).map (mk cursor finished).tokenAt := by
  induction cursor using TokenStream.ofCursor.induct with
  | case1 cursor e after read =>
    have first : (mk cursor finished).tokenAt 0 = .error e := congrArg Prod.fst read
    rw [TokenStream.ofCursor_of_error read]
    exact congrArg ([·]) first.symm
  | case2 cursor token after read last =>
    have first : (mk cursor finished).tokenAt 0 = .ok token := congrArg Prod.fst read
    rw [TokenStream.ofCursor_of_end read last, TokenStream.toList, ← Token.eq_endOfInput last]
    exact congrArg ([·]) first.symm
  | case3 cursor token after read notLast _ ih =>
    have first : (mk cursor finished).tokenAt 0 = .ok token := congrArg Prod.fst read
    have second : (mk cursor finished).nextToken.2 = ⟨after, finished⟩ := by rw [nextToken, read]
    have behind (i : Nat) : (mk cursor finished).tokenAt (i + 1) = (mk after finished).tokenAt i :=
      congrArg (tokenAt · i) second
    rw [TokenStream.ofCursor_of_token read notLast, TokenStream.toList, List.length_cons,
      List.range_succ_eq_map, List.map_cons, List.map_map, first]
    refine congrArg (List.cons _) (ih.trans ?_)
    exact List.map_congr_left fun i _ => (behind i).symm

theorem eq_map_tokenAt {text : String} {front rest : List (Except LexError Token)}
    (parts : (TokenStream.ofSource text).toList = front ++ rest) :
    front = (List.range front.length).map (ofSource text).tokenAt := by
  have few : front.length ≤ (TokenStream.ofSource text).toList.length := by
    rw [parts, List.length_append]
    exact Nat.le_add_right _ _
  have all : (TokenStream.ofSource text).toList =
      (List.range (TokenStream.ofSource text).toList.length).map (ofSource text).tokenAt :=
    toList_ofCursor _ false
  calc
    front = (TokenStream.ofSource text).toList.take front.length := by rw [parts, List.take_left]
    _ = (List.range front.length).map (ofSource text).tokenAt := by
      rw [all, ← List.map_take, List.take_range, Nat.min_eq_left few]

theorem yields_tokens_and_last (source : String) :
    ∃ (tokens : List Token) (last : Except LexError Token),
    (ofSource source).Yields (tokens.map .ok ++ [last]) ∧ tokens.length ≤ source.length ∧
      (∀ token ∈ tokens, token.kind ≠ .endOfInput) ∧ isLast last := by
  have few := TokenStream.tokens_ofSource_le source
  have proper := TokenStream.proper_ofSource source
  rcases (TokenStream.ofSource source).eq_prepend_tokens with ⟨position, same⟩ | ⟨e, same⟩
  · refine ⟨_, .ok ⟨.endOfInput, position⟩, yields_iff.2 ?_, few, proper, rfl⟩
    conv_rhs => rw [same]
    rw [TokenStream.toList_prepend]
    rfl
  · refine ⟨_, .error e, yields_iff.2 ?_, few, proper, rfl⟩
    conv_rhs => rw [same]
    rw [TokenStream.toList_prepend]
    rfl

end Lexer

/-- A call that does not come to rest consumes a character at least. So after no more such calls than
there are characters all further ones give the same: the end of the input at the end of the source, or
one character that starts no lexeme, with its place. Behind an unclosed comment there is only the end,
and behind a number that is refused the text goes on with what follows its digits. As an iterator the
lexer gives at most one item more than there are characters, and only the last is an end or an error. -/
theorem lexer_settles (source : String) :
    (∀ lexer : Lexer, atRest lexer.nextToken.1 = false →
      lexer.nextToken.2.cursor.rest.length < lexer.cursor.rest.length) ∧
    (∃ n ≤ source.length, ∃ last,
      (∀ i < n, atRest ((Lexer.ofSource source).tokenAt i) = false) ∧
      (∀ i, n ≤ i → (Lexer.ofSource source).tokenAt i = last) ∧
      (last = .ok ⟨.endOfInput, .behind source.toList⟩ ∨
        ∃ front c left, source.toList = front ++ c :: left ∧
          last = .error ⟨.invalidCharacter c, .behind front⟩)) ∧
    (∀ i brace, (Lexer.ofSource source).tokenAt i = .error ⟨.unterminatedComment, brace⟩ →
      ∀ j, i < j →
        (Lexer.ofSource source).tokenAt j = .ok ⟨.endOfInput, .behind source.toList⟩) ∧
    (∀ i digits place, (Lexer.ofSource source).tokenAt i = .error ⟨.invalidNumber digits, place⟩ →
      ∃ gap, Gap gap ∧
        ((Lexer.ofSource source).afterTokens i).cursor.rest =
          gap ++ (digits.toList ++ ((Lexer.ofSource source).afterTokens (i + 1)).cursor.rest) ∧
        digits.toList ≠ [] ∧ digits.toList.all Char.isDigit ∧
        goesOn Char.isDigit ((Lexer.ofSource source).afterTokens (i + 1)).cursor.rest = false) ∧
    ∃ (tokens : List Token) (last : Except LexError Token),
      (Lexer.ofSource source).Yields (tokens.map .ok ++ [last]) ∧
      tokens.length ≤ source.length ∧ (∀ token ∈ tokens, token.kind ≠ .endOfInput) ∧
      Lexer.isLast last := by
  have behind (i : Nat) : (Lexer.ofSource source).afterTokens (i + 1) =
      ((Lexer.ofSource source).afterTokens i).nextToken.2 :=
    Lexer.afterTokens_add _ i 1
  refine ⟨fun lexer moves => Cursor.length_lt_of_not_atRest moves, ?_, ?_, ?_,
    Lexer.yields_tokens_and_last source⟩
  · obtain ⟨n, few, moving, rests⟩ := (Lexer.ofSource source).exists_atRest
    obtain ⟨consumed, before⟩ := Lexer.consumed_afterTokens source n
    have few : n ≤ source.length := by rwa [← String.length_toList]
    refine ⟨n, few, (Lexer.ofSource source).tokenAt n, moving, fun i late => ?_, before.of_atRest rests⟩
    obtain ⟨more, rfl⟩ := Nat.exists_eq_add_of_le late
    rw [Lexer.tokenAt_add]
    exact Lexer.tokenAt_of_atRest rests more
  · intro i brace unclosed j later
    obtain ⟨consumed, before⟩ := Lexer.consumed_afterTokens source i
    obtain ⟨more, rfl⟩ := Nat.exists_eq_add_of_lt later
    rw [Nat.add_right_comm, Lexer.tokenAt_add, behind]
    exact before.of_unclosed unclosed more
  · intro i digits place refused
    obtain ⟨consumed, before⟩ := Lexer.consumed_afterTokens source i
    rw [behind]
    exact before.of_tooLarge refused

end MiniPascal
