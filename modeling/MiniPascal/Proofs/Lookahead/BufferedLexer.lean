import MiniPascal.Proofs.Lookahead.PlainList
import MiniPascal.Proofs.Token.Consumption

set_option autoImplicit false

namespace MiniPascal

namespace Cursor

theorem advance_append (run after : List Char) (position : Position) :
    advance ⟨run ++ after, position⟩ run.length = ⟨after, position.after run⟩ := by
  simp [advance]

theorem advance_advance (cursor : Cursor) (m n : Nat) :
    (cursor.advance m).advance n = cursor.advance (m + n) := by
  simp [advance, List.take_add]

theorem nextToken_of_skipGap {cursor other : Cursor}
    (same : skipGap none cursor.rest cursor.position =
      skipGap none other.rest other.position) : cursor.nextToken = other.nextToken := by
  rw [nextToken, same]
  rfl

theorem nextToken_of_start {cursor : Cursor}
    (noGap : skipGap none cursor.rest cursor.position = (none, cursor)) :
    cursor.nextToken =
      (placed cursor.position (munch cursor.rest).lexeme, cursor.advance (munch cursor.rest).length) := by
  rw [nextToken, noGap]
  simp only
  cases (munch cursor.rest).lexeme <;> rfl

end Cursor

theorem isDigit_newline : Char.isDigit '\n' = false := rfl

theorem goesOnAsReal_eq (text : List Char) :
    goesOnAsReal text = (text.head?.any (· == '.') && text[1]?.any Char.isDigit) := by
  unfold goesOnAsReal goesOn
  split
  next text => simp [List.head?_eq_getElem?]
  next noDot =>
    cases text with
    | nil => rfl
    | cons c text =>
      have notDot : c ≠ '.' := fun isDot => noDot text (by rw [isDot])
      simp [notDot]

-- A cursor that reads its characters through a look-ahead.
structure BufferedCursor where
  chars : Lookahead Char
  position : Position

namespace BufferedCursor

def ofSource (source : String) : BufferedCursor :=
  ⟨.ofList source.toList, .start⟩

def toCursor (b : BufferedCursor) : Cursor :=
  ⟨b.chars.toList, b.position⟩

section Primitives

def peek (b : BufferedCursor) : Option Char × BufferedCursor :=
  let (found, chars) := b.chars.peek
  (found, { b with chars })

def nthIs (n : Nat) (test : Char → Bool) (b : BufferedCursor) : Bool × BufferedCursor :=
  let (holds, chars) := b.chars.nthIs n test
  (holds, { b with chars })

def nextIs (test : Char → Bool) (b : BufferedCursor) : Bool × BufferedCursor :=
  let (holds, chars) := b.chars.nextIs test
  (holds, { b with chars })

def advance (b : BufferedCursor) : Option Char × BufferedCursor :=
  match b.chars.next with
  | (none, chars) => (none, { b with chars })
  | (some c, chars) => (some c, { b with chars, position := b.position.next c })

def advanceWhile (test : Char → Bool) (b : BufferedCursor) : List Char × BufferedCursor :=
  let (run, chars) := b.chars.nextWhile test
  (run, { b with chars, position := ⟨b.position.line, b.position.column + run.length⟩ })

variable (b : BufferedCursor)

@[simp] theorem fst_peek : b.peek.1 = b.toCursor.rest.head? :=
  Lookahead.fst_peek b.chars

@[simp] theorem toCursor_peek : b.peek.2.toCursor = b.toCursor :=
  congrArg (Cursor.mk · b.position) (Lookahead.toList_peek b.chars)

@[simp] theorem fst_nthIs (n : Nat) (test : Char → Bool) :
    (b.nthIs n test).1 = b.toCursor.rest[n]?.any test :=
  Lookahead.fst_nthIs b.chars n test

@[simp] theorem toCursor_nthIs (n : Nat) (test : Char → Bool) :
    (b.nthIs n test).2.toCursor = b.toCursor :=
  congrArg (Cursor.mk · b.position) (Lookahead.toList_peekNth n b.chars)

@[simp] theorem fst_nextIs (test : Char → Bool) :
    (b.nextIs test).1 = b.toCursor.rest.head?.any test :=
  Lookahead.fst_nextIs b.chars test

@[simp] theorem toCursor_nextIs (test : Char → Bool) : (b.nextIs test).2.toCursor = b.toCursor :=
  congrArg (Cursor.mk · b.position) (Lookahead.toList_nextIs test b.chars)

@[simp] theorem fst_advance : b.advance.1 = b.toCursor.rest.head? := by
  rw [toCursor, ← Lookahead.fst_next, advance]
  split <;> simp_all

@[simp] theorem toCursor_advance : b.advance.2.toCursor = b.toCursor.advance 1 := by
  have first := b.chars.fst_next
  have left := b.chars.toList_next
  rw [advance]
  cases taken : b.chars.next with
  | mk found chars =>
    rw [taken] at first left
    cases found with
    | none =>
      have empty := List.head?_eq_none_iff.1 first.symm
      simp_all [toCursor, Cursor.advance]
    | some c =>
      obtain ⟨rest, whole⟩ := List.head?_eq_some_iff.1 first.symm
      simp_all [toCursor, Cursor.advance]

@[simp] theorem fst_advanceWhile (test : Char → Bool) :
    (b.advanceWhile test).1 = b.toCursor.rest.takeWhile test :=
  Lookahead.fst_nextWhile b.chars

@[simp] theorem rest_advanceWhile (test : Char → Bool) :
    (b.advanceWhile test).2.toCursor.rest = b.toCursor.rest.dropWhile test :=
  Lookahead.toList_nextWhile b.chars

-- Columns are counted by the length of the run, which is right as long as no newline is in it.
theorem toCursor_advanceWhile {test : Char → Bool} (refused : test '\n' = false) :
    (b.advanceWhile test).2.toCursor = b.toCursor.advance (b.advanceWhile test).1.length := by
  have run := b.fst_advanceWhile test
  have whole := List.takeWhile_append_dropWhile (p := test) (l := b.toCursor.rest)
  rw [← run, ← rest_advanceWhile] at whole
  have sameLine : '\n' ∉ (b.advanceWhile test).1 :=
    newline_notMem (by rw [run, List.all_takeWhile]) refused
  have moved :=
    Cursor.advance_append (b.advanceWhile test).1 (b.advanceWhile test).2.toCursor.rest b.position
  rw [whole, Position.after_line sameLine] at moved
  exact moved.symm

end Primitives

section Advance

variable {b after : BufferedCursor} {c : Char}

theorem of_advance_none (read : b.advance = (none, after)) :
    b.toCursor = ⟨[], b.position⟩ ∧ after.toCursor = b.toCursor := by
  have empty : b.toCursor.rest = [] := List.head?_eq_none_iff.1 (by rw [← fst_advance, read])
  have stays : after.toCursor = b.toCursor.advance 1 := by rw [← toCursor_advance, read]
  refine ⟨congrArg (Cursor.mk · b.position) empty, ?_⟩
  rw [stays, Cursor.advance, empty]
  exact congrArg (Cursor.mk · b.position) empty.symm

theorem of_advance_some (read : b.advance = (some c, after)) :
    b.toCursor = ⟨c :: after.toCursor.rest, b.position⟩ ∧ after.position = b.position.next c := by
  have first : b.toCursor.rest.head? = some c := by rw [← fst_advance, read]
  have moved : after.toCursor = b.toCursor.advance 1 := by rw [← toCursor_advance, read]
  obtain ⟨rest, whole⟩ := List.head?_eq_some_iff.1 first
  rw [Cursor.advance, whole] at moved
  refine ⟨?_, congrArg Cursor.position moved⟩
  rw [moved]
  exact congrArg (Cursor.mk · b.position) whole

theorem length_advance_lt (read : b.advance = (some c, after)) :
    after.chars.toList.length < b.chars.toList.length := by
  have whole : b.chars.toList = c :: after.chars.toList := congrArg Cursor.rest (of_advance_some read).1
  rw [whole]
  exact Nat.lt_succ_self _

end Advance

def skipComment (b : BufferedCursor) : Bool × BufferedCursor :=
  match read : b.advance with
  | (none, after) => (false, after)
  | (some c, after) =>
    have := length_advance_lt read
    if c = '}' then (true, after) else skipComment after
termination_by b.chars.toList.length

def identifier (b : BufferedCursor) : Except LexFault Lexeme × BufferedCursor :=
  let (word, b) := b.advanceWhile Text.isAlphanumeric
  (.ok (Munch.wordLexeme (String.ofList word)), b)

def isReal (b : BufferedCursor) : Bool × BufferedCursor :=
  match b.nextIs (· == '.') with
  | (true, b) => b.nthIs 1 Char.isDigit
  | (false, b) => (false, b)

def number (b : BufferedCursor) : Except LexFault Lexeme × BufferedCursor :=
  let (whole, b) := b.advanceWhile Char.isDigit
  match b.isReal with
  | (true, b) =>
    let (_, b) := b.advance
    let (places, b) := b.advanceWhile Char.isDigit
    (.ok (Munch.realLexeme whole places), b)
  | (false, b) => (Munch.integerLexeme whole, b)

def colon (b : BufferedCursor) : Except LexFault Lexeme × BufferedCursor :=
  match b.nthIs 1 (· == '=') with
  | (true, b) => (.ok (.mark .assign), b.advance.2.advance.2)
  | (false, b) => (.ok (.mark .colon), b.advance.2)

def lexeme (c : Char) (b : BufferedCursor) : Except LexFault Lexeme × BufferedCursor :=
  if Text.isAlphabetic c then b.identifier
  else if c.isDigit then b.number
  else if c = ':' then b.colon
  else
    match Mark.ofChar? c with
    | some mark => (.ok (.mark mark), b.advance.2)
    | none => (.error (.invalidCharacter c), b)

structure Reads (b : BufferedCursor) (read : Except LexFault Lexeme × BufferedCursor) (found : Munch) :
    Prop where
  lexeme : read.1 = found.lexeme
  moved : read.2.toCursor = b.toCursor.advance found.length

section Lexemes

variable (b : BufferedCursor)

theorem identifier_reads : Reads b b.identifier (.word b.toCursor.rest) := by
  have moved := b.toCursor_advanceWhile isAlphanumeric_newline
  rw [fst_advanceWhile] at moved
  refine ⟨?_, moved⟩
  rw [Munch.word, ← fst_advanceWhile]
  rfl

theorem isReal_spec : b.isReal.1 = goesOnAsReal b.toCursor.rest ∧ b.isReal.2.toCursor = b.toCursor := by
  have first := b.fst_nextIs (· == '.')
  have stays := b.toCursor_nextIs (· == '.')
  rw [goesOnAsReal_eq, ← first, isReal]
  cases looked : b.nextIs (· == '.') with
  | mk dot after =>
    rw [looked] at stays
    cases dot with
    | true => simp [stays]
    | false => simp [stays]

theorem advance_places {text : List Char} (starts : b.toCursor.rest = '.' :: text) :
    (b.advance.2.advanceWhile Char.isDigit).1 = text.takeWhile Char.isDigit ∧
      (b.advance.2.advanceWhile Char.isDigit).2.toCursor =
        b.toCursor.advance (1 + (text.takeWhile Char.isDigit).length) := by
  have behindDot : b.advance.2.toCursor.rest = text := by
    rw [toCursor_advance, Cursor.advance, starts]
    rfl
  have places := b.advance.2.fst_advanceWhile Char.isDigit
  rw [behindDot] at places
  refine ⟨places, ?_⟩
  rw [toCursor_advanceWhile _ isDigit_newline, places, toCursor_advance, Cursor.advance_advance]

theorem number_reads : Reads b b.number (.number b.toCursor.rest) := by
  have run := b.fst_advanceWhile Char.isDigit
  have left := b.rest_advanceWhile Char.isDigit
  have moved := b.toCursor_advanceWhile isDigit_newline
  rw [Munch.number, ← run, ← left, number]
  cases taken : b.advanceWhile Char.isDigit with
  | mk whole behind =>
    rw [taken] at moved
    obtain ⟨isReal, stays⟩ := behind.isReal_spec
    simp only
    cases looked : behind.isReal with
    | mk real after =>
      rw [looked] at isReal stays
      simp only at isReal stays
      cases real with
      | false =>
        rw [fraction_eq_nil_iff.2 isReal.symm]
        exact ⟨rfl, stays.trans moved⟩
      | true =>
        have some : Munch.fraction behind.toCursor.rest ≠ [] := by
          rw [Ne, fraction_eq_nil_iff, ← isReal]
          decide
        obtain ⟨place, places, found⟩ := List.exists_cons_of_ne_nil some
        obtain ⟨text, starts, digits⟩ := exists_of_fraction found
        obtain ⟨same, further⟩ := after.advance_places (by rw [stays, starts])
        rw [digits] at same further
        rw [found]
        refine ⟨congrArg (fun places => Except.ok (Munch.realLexeme whole places)) same, ?_⟩
        rw [stays, moved, Cursor.advance_advance, ← Nat.add_assoc] at further
        exact further

theorem colon_reads {rest : List Char} (starts : b.toCursor.rest = ':' :: rest) :
    Reads b b.colon (munch b.toCursor.rest) := by
  have second := b.fst_nthIs 1 (· == '=')
  have stays := b.toCursor_nthIs 1 (· == '=')
  rw [starts, List.getElem?_cons_succ, ← List.head?_eq_getElem?] at second
  rw [starts, munch_colon, goesOn, ← second, colon]
  cases looked : b.nthIs 1 (· == '=') with
  | mk isAssign after =>
    rw [looked] at stays
    cases isAssign with
    | true =>
      refine ⟨rfl, ?_⟩
      rw [toCursor_advance, toCursor_advance, stays, Cursor.advance_advance]
      rfl
    | false =>
      refine ⟨rfl, ?_⟩
      rw [toCursor_advance, stays]
      rfl

theorem lexeme_reads {c : Char} {rest : List Char} (starts : b.toCursor.rest = c :: rest) :
    Reads b (b.lexeme c) (munch b.toCursor.rest) := by
  rw [lexeme]
  by_cases letter : Text.isAlphabetic c
  next =>
    rw [if_pos letter, starts, munch, if_pos letter, ← starts]
    exact b.identifier_reads
  rw [if_neg letter]
  by_cases digit : c.isDigit
  next =>
    rw [if_pos digit, starts, munch_digits digit, ← starts]
    exact b.number_reads
  rw [if_neg digit]
  by_cases isColon : c = ':'
  next =>
    rw [if_pos isColon]
    exact b.colon_reads (isColon ▸ starts)
  rw [if_neg isColon, starts, munch, if_neg letter, if_neg digit, if_neg isColon]
  cases isMark : Mark.ofChar? c with
  | some mark =>
    obtain ⟨-, -, spelled⟩ := munch_mark isMark rest
    have one : mark.spelling.length = 1 := by rw [← String.length_toList, spelled]; rfl
    exact ⟨rfl, (toCursor_advance b).trans (congrArg b.toCursor.advance one.symm)⟩
  | none => exact ⟨rfl, rfl⟩

end Lexemes

section Comments

theorem skipComment_of_none {b after : BufferedCursor} (read : b.advance = (none, after)) :
    b.skipComment = (false, after) := by
  rw [skipComment]
  split
  next same => rw [read] at same; cases same; rfl
  next same => rw [read] at same; cases same

theorem skipComment_of_some {b after : BufferedCursor} {c : Char} (read : b.advance = (some c, after)) :
    b.skipComment = if c = '}' then (true, after) else after.skipComment := by
  rw [skipComment]
  split
  next same => rw [read] at same; cases same
  next same => rw [read] at same; cases same; rfl

theorem skipGap_comment (b : BufferedCursor) (brace : Position) :
    Cursor.skipGap (some brace) b.toCursor.rest b.position =
      if b.skipComment.1 then Cursor.skipGap none b.skipComment.2.toCursor.rest b.skipComment.2.position
      else (some brace, b.skipComment.2.toCursor) := by
  induction b using skipComment.induct with
  | case1 b after read =>
    obtain ⟨empty, stays⟩ := of_advance_none read
    rw [skipComment_of_none read, stays, empty]
    rfl
  | case2 b after read =>
    obtain ⟨whole, place⟩ := of_advance_some read
    rw [skipComment_of_some read, whole, if_pos rfl, if_pos rfl, place]
    rfl
  | case3 b c after read _ open' ih =>
    obtain ⟨whole, place⟩ := of_advance_some read
    rw [skipComment_of_some read, if_neg open', ← ih, whole, Cursor.skipGap, if_neg open', place]

theorem length_skipComment_le (b : BufferedCursor) :
    b.skipComment.2.chars.toList.length ≤ b.chars.toList.length := by
  induction b using skipComment.induct with
  | case1 b after read =>
    rw [skipComment_of_none read]
    exact Nat.le_of_eq (congrArg (·.rest.length) (of_advance_none read).2)
  | case2 b after read =>
    rw [skipComment_of_some read, if_pos rfl]
    exact Nat.le_of_lt (length_advance_lt read)
  | case3 b c after read _ open' ih =>
    rw [skipComment_of_some read, if_neg open']
    exact Nat.le_trans ih (Nat.le_of_lt (length_advance_lt read))

end Comments

theorem of_peek_none {b after : BufferedCursor} (looked : b.peek = (none, after)) :
    b.toCursor.rest = [] ∧ after.toCursor = b.toCursor := by
  refine ⟨List.head?_eq_none_iff.1 ?_, ?_⟩
  · rw [← fst_peek, looked]
  · rw [← toCursor_peek b, looked]

theorem of_peek_some {b after : BufferedCursor} {c : Char} (looked : b.peek = (some c, after)) :
    b.toCursor.rest = c :: after.advance.2.toCursor.rest ∧ after.toCursor = b.toCursor ∧
      after.advance.2.position = b.position.next c := by
  have first : b.toCursor.rest.head? = some c := by rw [← fst_peek, looked]
  have stays : after.toCursor = b.toCursor := by rw [← toCursor_peek b, looked]
  have place : after.position = b.position := congrArg Cursor.position stays
  rw [← stays, ← fst_advance] at first
  obtain ⟨whole, moved⟩ := of_advance_some (Prod.ext first rfl)
  exact ⟨by rw [← stays, whole], stays, by rw [moved, place]⟩

theorem length_behind_lt {b after : BufferedCursor} {c : Char} (looked : b.peek = (some c, after)) :
    after.advance.2.chars.toList.length < b.chars.toList.length := by
  have whole : b.chars.toList = c :: after.advance.2.chars.toList := (of_peek_some looked).1
  rw [whole]
  exact Nat.lt_succ_self _

def nextToken (b : BufferedCursor) : Except LexError Token × BufferedCursor :=
  match looked : b.peek with
  | (none, after) => (.ok ⟨.endOfInput, b.position⟩, after)
  | (some c, after) =>
    have := length_behind_lt looked
    have := after.advance.2.length_skipComment_le
    if Text.isWhiteSpace c then nextToken after.advance.2
    else if c = '{' then
      if after.advance.2.skipComment.1 then nextToken after.advance.2.skipComment.2
      else (.error ⟨.unterminatedComment, b.position⟩, after.advance.2.skipComment.2)
    else
      let (found, behind) := after.lexeme c
      (placed b.position found, behind)
termination_by b.chars.toList.length

section NextToken

theorem nextToken_of_none {b after : BufferedCursor} (looked : b.peek = (none, after)) :
    b.nextToken = (.ok ⟨.endOfInput, b.position⟩, after) := by
  rw [nextToken]
  split
  next same => rw [looked] at same; cases same; rfl
  next same => rw [looked] at same; cases same

theorem nextToken_of_some {b after : BufferedCursor} {c : Char} (looked : b.peek = (some c, after)) :
    b.nextToken =
      if Text.isWhiteSpace c then after.advance.2.nextToken
      else if c = '{' then
        if after.advance.2.skipComment.1 then after.advance.2.skipComment.2.nextToken
        else (.error ⟨.unterminatedComment, b.position⟩, after.advance.2.skipComment.2)
      else (placed b.position (after.lexeme c).1, (after.lexeme c).2) := by
  rw [nextToken]
  split
  next same => rw [looked] at same; cases same
  next same => rw [looked] at same; cases same; rfl

theorem skipGap_brace {b after : BufferedCursor} (looked : b.peek = (some '{', after)) :
    Cursor.skipGap none b.toCursor.rest b.toCursor.position =
      if after.advance.2.skipComment.1 then
        Cursor.skipGap none after.advance.2.skipComment.2.toCursor.rest
          after.advance.2.skipComment.2.toCursor.position
      else (some b.position, after.advance.2.skipComment.2.toCursor) := by
  obtain ⟨whole, -, place⟩ := of_peek_some looked
  have notBlank : ¬ Text.isWhiteSpace '{' := by decide
  have comment := after.advance.2.skipGap_comment b.position
  rw [place] at comment
  rw [whole, Cursor.skipGap, if_neg notBlank, if_pos rfl]
  exact comment

theorem nextToken_eq (b : BufferedCursor) :
    (b.nextToken.1, b.nextToken.2.toCursor) = b.toCursor.nextToken := by
  induction b using nextToken.induct with
  | case1 b after looked =>
    obtain ⟨empty, stays⟩ := of_peek_none looked
    have atEnd : b.toCursor = ⟨[], b.position⟩ := congrArg (Cursor.mk · b.position) empty
    rw [nextToken_of_none looked, stays, atEnd]
    rfl
  | case2 b c after looked _ _ blank ih =>
    obtain ⟨whole, -, place⟩ := of_peek_some looked
    rw [nextToken_of_some looked, if_pos blank, ih]
    apply Cursor.nextToken_of_skipGap
    rw [whole, Cursor.skipGap, if_pos blank]
    exact congrArg (Cursor.skipGap none _) place
  | case3 b after _ closed looked _ noBlank ih =>
    rw [nextToken_of_some looked, if_neg noBlank, if_pos rfl, if_pos closed, ih]
    apply Cursor.nextToken_of_skipGap
    exact ((skipGap_brace looked).trans (if_pos closed)).symm
  | case4 b after _ unclosed looked _ noBlank =>
    have gap := (skipGap_brace looked).trans (if_neg unclosed)
    rw [nextToken_of_some looked, if_neg noBlank, if_pos rfl, if_neg unclosed, Cursor.nextToken, gap]
  | case5 b c after looked _ _ noBlank noBrace found behind read =>
    obtain ⟨whole, stays, -⟩ := of_peek_some looked
    obtain ⟨lexeme, moved⟩ := after.lexeme_reads (by rw [stays, whole])
    rw [nextToken_of_some looked, if_neg noBlank, if_neg noBrace, lexeme, moved, stays]
    have noGap : Cursor.skipGap none b.toCursor.rest b.toCursor.position = (none, b.toCursor) := by
      rw [whole, Cursor.skipGap, if_neg noBlank, if_neg noBrace, ← whole]
    rw [Cursor.nextToken_of_start noGap]
    rfl

end NextToken

end BufferedCursor

structure BufferedLexer where
  cursor : BufferedCursor
  finished : Bool

namespace BufferedLexer

def ofSource (source : String) : BufferedLexer :=
  ⟨.ofSource source, false⟩

def toLexer (b : BufferedLexer) : Lexer :=
  ⟨b.cursor.toCursor, b.finished⟩

def nextToken (b : BufferedLexer) : Except LexError Token × BufferedLexer :=
  let (result, cursor) := b.cursor.nextToken
  (result, { b with cursor })

def next (b : BufferedLexer) : Option (Except LexError Token) × BufferedLexer :=
  if b.finished then (none, b)
  else
    let (result, b) := b.nextToken
    (some result, { b with finished := Lexer.isLast result })

def run : Lexer.Call → BufferedLexer → Option (Except LexError Token) × BufferedLexer
  | .nextToken, b => (some b.nextToken.1, b.nextToken.2)
  | .next, b => b.next

def perform (b : BufferedLexer) :
    List Lexer.Call → List (Option (Except LexError Token)) × BufferedLexer
  | [] => ([], b)
  | call :: rest =>
    let (given, next) := run call b
    let (others, last) := next.perform rest
    (given :: others, last)

theorem nextToken_eq (b : BufferedLexer) :
    (b.nextToken.1, b.nextToken.2.toLexer) = b.toLexer.nextToken := by
  have read := b.cursor.nextToken_eq
  change (b.cursor.nextToken.1, (⟨b.cursor.nextToken.2.toCursor, b.finished⟩ : Lexer)) =
    (b.cursor.toCursor.nextToken.1, ⟨b.cursor.toCursor.nextToken.2, b.finished⟩)
  rw [← read]

theorem run_eq (call : Lexer.Call) (b : BufferedLexer) :
    ((run call b).1, (run call b).2.toLexer) = call.run b.toLexer := by
  have read := b.nextToken_eq
  cases call with
  | nextToken =>
    rw [Lexer.Call.run, ← read]
    rfl
  | next =>
    obtain ⟨cursor, finished⟩ := b
    cases finished with
    | true => rfl
    | false =>
      rw [Lexer.Call.run, Lexer.next, ← read]
      rfl

theorem perform_eq (b : BufferedLexer) (calls : List Lexer.Call) :
    ((b.perform calls).1, (b.perform calls).2.toLexer) = b.toLexer.perform calls := by
  induction calls generalizing b with
  | nil => rfl
  | cons call rest ih =>
    rw [Lexer.perform, ← run_eq]
    simp only
    rw [← ih]
    rfl

/-- Whatever calls are made, a lexer with a look-ahead gives what a lexer on the plain text gives, and has
the same text left at the same place. -/
theorem perform_ofSource (source : String) (calls : List Lexer.Call) :
    ((ofSource source).perform calls).1 = ((Lexer.ofSource source).perform calls).1 ∧
      ((ofSource source).perform calls).2.toLexer = Lexer.afterCalls source calls := by
  have same := (ofSource source).perform_eq calls
  have start : (ofSource source).toLexer = Lexer.ofSource source := rfl
  rw [start] at same
  exact ⟨congrArg Prod.fst same, congrArg Prod.snd same⟩

end BufferedLexer

end MiniPascal
