import MiniPascal.Token.Stream

set_option autoImplicit false

namespace MiniPascal

theorem Token.eq_endOfInput {token : Token} (last : token.kind = .endOfInput) :
    token = ⟨.endOfInput, token.position⟩ := by
  obtain ⟨l, position⟩ := token
  cases l with
  | endOfInput => rfl
  | _ => cases last

namespace TokenStream

section OfCursor

variable {cursor after : Cursor} {token : Token}

theorem ofCursor_of_error {e : LexError} (read : cursor.nextToken = (.error e, after)) :
    ofCursor cursor = .broken e := by
  rw [ofCursor]
  split
  next read' => rw [read] at read'; cases read'; rfl
  next read' => rw [read] at read'; cases read'

theorem ofCursor_of_end (read : cursor.nextToken = (.ok token, after))
    (last : token.kind = .endOfInput) : ofCursor cursor = .ended token.position := by
  rw [ofCursor]
  split
  next read' => rw [read] at read'; cases read'
  next read' => rw [read] at read'; cases read'; rw [dif_pos last]

theorem ofCursor_of_token (read : cursor.nextToken = (.ok token, after))
    (notLast : token.kind ≠ .endOfInput) : ofCursor cursor = .next token (ofCursor after) := by
  rw [ofCursor]
  split
  next read' => rw [read] at read'; cases read'
  next read' => rw [read] at read'; cases read'; rw [dif_neg notLast]

end OfCursor

-- The end of the input is no token among others.
def Proper (stream : TokenStream) : Prop :=
  ∀ token ∈ stream.tokens, token.kind ≠ .endOfInput

theorem proper_ofCursor (cursor : Cursor) : (ofCursor cursor).Proper := by
  induction cursor using ofCursor.induct with
  | case1 cursor e after read =>
    rw [ofCursor_of_error read]
    simp [Proper, tokens]
  | case2 cursor token after read last =>
    rw [ofCursor_of_end read last]
    simp [Proper, tokens]
  | case3 cursor token after read notLast _ ih =>
    rw [ofCursor_of_token read notLast]
    intro other among
    rcases List.mem_cons.1 among with rfl | among
    · exact notLast
    · exact ih other among

theorem proper_ofSource (source : String) : (ofSource source).Proper :=
  proper_ofCursor _

def prepend (read : List Token) (stream : TokenStream) : TokenStream :=
  read.foldr .next stream

section Prepend

variable (read more : List Token) (stream : TokenStream)

@[simp] theorem prepend_nil : stream.prepend [] = stream := rfl

@[simp] theorem prepend_cons (token : Token) :
    stream.prepend (token :: read) = .next token (stream.prepend read) := rfl

theorem prepend_append : stream.prepend (read ++ more) = (stream.prepend more).prepend read := by
  simp [prepend]

@[simp] theorem length_prepend : (stream.prepend read).length = read.length + stream.length := by
  induction read with
  | nil => simp
  | cons token read ih => simp [length, ih]; omega

@[simp] theorem tokens_prepend : (stream.prepend read).tokens = read ++ stream.tokens := by
  induction read with
  | nil => rfl
  | cons token read ih => simp [tokens, ih]

@[simp] theorem toList_prepend : (stream.prepend read).toList = read.map .ok ++ stream.toList := by
  induction read with
  | nil => rfl
  | cons token read ih => simp [toList, ih]

end Prepend

theorem Proper.of_prepend {read : List Token} {stream : TokenStream}
    (proper : (stream.prepend read).Proper) : stream.Proper :=
  fun token among => proper token (by simp [among])

theorem of_ended_prepend_eq {position : Position} {tokens read : List Token} {stream : TokenStream}
    (same : (ended position).prepend tokens = stream.prepend read) :
    ∃ more, tokens = read ++ more ∧ stream = (ended position).prepend more := by
  induction read generalizing tokens with
  | nil => exact ⟨tokens, rfl, same.symm⟩
  | cons token read ih =>
    cases tokens with
    | nil => cases same
    | cons first tokens =>
      obtain ⟨rfl, sameRest⟩ := TokenStream.next.inj same
      obtain ⟨more, rfl, behind⟩ := ih sameRest
      exact ⟨more, rfl, behind⟩

theorem eq_prepend_tokens (stream : TokenStream) :
    (∃ position, stream = (ended position).prepend stream.tokens) ∨
      ∃ e, stream = (broken e).prepend stream.tokens := by
  induction stream with
  | ended position => exact .inl ⟨position, rfl⟩
  | broken e => exact .inr ⟨e, rfl⟩
  | next token rest ih =>
    rcases ih with ⟨position, same⟩ | ⟨e, same⟩
    · exact .inl ⟨position, congrArg (next token) same⟩
    · exact .inr ⟨e, congrArg (next token) same⟩

theorem noError_iff {stream : TokenStream} :
    (∀ e, .error e ∉ stream.toList) ↔ ∃ position, stream = (ended position).prepend stream.tokens := by
  constructor
  · intro noError
    rcases stream.eq_prepend_tokens with found | ⟨e, same⟩
    · exact found
    · exact absurd (by rw [same]; simp [toList]) (noError e)
  · rintro ⟨position, same⟩ e
    rw [same]
    simp [toList]

theorem eq_prepend_of_toList {stream : TokenStream} {tokens : List Token} {last : Position}
    (same : stream.toList = tokens.map .ok ++ [.ok ⟨.endOfInput, last⟩]) :
    stream = (ended last).prepend tokens := by
  induction stream generalizing tokens with
  | ended position =>
    cases tokens with
    | nil => simpa [toList] using same
    | cons first tokens => simp [toList] at same
  | broken e => cases tokens <;> simp [toList] at same
  | next token rest ih =>
    cases tokens with
    | nil => cases rest <;> simp [toList] at same
    | cons first tokens =>
      obtain ⟨isFirst, sameRest⟩ := List.cons.inj same
      rw [prepend_cons, ← ih sameRest, Except.ok.inj isFirst]

theorem ended_prepend_inj {position position' : Position} {these those : List Token}
    (same : (ended position).prepend these = (ended position').prepend those) :
    these = those ∧ position = position' := by
  obtain ⟨more, rfl, behind⟩ := of_ended_prepend_eq same
  cases more with
  | nil => exact ⟨List.append_nil those, (TokenStream.ended.inj behind).symm⟩
  | cons token more => cases behind

end TokenStream

namespace Lexer

inductive Yields : Lexer → List (Except LexError Token) → Prop where
  | exhausted {lexer after : Lexer} (nothing : lexer.next = (none, after)) : Yields lexer []
  | item {lexer after : Lexer} {result : Except LexError Token} {results : List (Except LexError Token)}
      (gives : lexer.next = (some result, after)) (more : Yields after results) :
      Yields lexer (result :: results)

theorem Yields.unique {lexer : Lexer} {these those : List (Except LexError Token)}
    (yields : lexer.Yields these) (yields' : lexer.Yields those) : these = those := by
  induction yields generalizing those with
  | exhausted nothing =>
    cases yields' with
    | exhausted => rfl
    | item gives more => cases nothing.symm.trans gives
  | item gives more ih =>
    cases yields' with
    | exhausted nothing => cases gives.symm.trans nothing
    | item gives' more' =>
      cases gives.symm.trans gives'
      rw [ih more']

theorem next_unfinished {cursor after : Cursor} {result : Except LexError Token}
    (read : cursor.nextToken = (result, after)) :
    next ⟨cursor, false⟩ = (some result, ⟨after, isLast result⟩) := by
  simp [next, nextToken, read]

theorem yields_finished (cursor : Cursor) : Yields ⟨cursor, true⟩ [] :=
  .exhausted (rfl : next ⟨cursor, true⟩ = (none, ⟨cursor, true⟩))

theorem yields_ofCursor (cursor : Cursor) :
    Yields ⟨cursor, false⟩ (TokenStream.ofCursor cursor).toList := by
  induction cursor using TokenStream.ofCursor.induct with
  | case1 cursor e after read =>
    rw [TokenStream.ofCursor_of_error read]
    exact .item (next_unfinished read) (yields_finished after)
  | case2 cursor token after read last =>
    have stops : isLast (.ok token) = true := beq_iff_eq.2 last
    rw [TokenStream.ofCursor_of_end read last, TokenStream.toList, ← Token.eq_endOfInput last]
    exact .item (next_unfinished read) (stops ▸ yields_finished after)
  | case3 cursor token after read notLast _ ih =>
    have goesOn : isLast (.ok token) = false := beq_eq_false_iff_ne.2 notLast
    rw [TokenStream.ofCursor_of_token read notLast]
    exact .item (next_unfinished read) (goesOn ▸ ih)

theorem yields_iff {source : String} {results : List (Except LexError Token)} :
    (ofSource source).Yields results ↔ results = (TokenStream.ofSource source).toList := by
  have yields : (ofSource source).Yields (TokenStream.ofSource source).toList := yields_ofCursor _
  exact ⟨fun yields' => yields'.unique yields, fun same => same ▸ yields⟩

theorem yields_tokens_iff {source : String} {tokens : List Token} {last : Position} :
    (ofSource source).Yields (tokens.map .ok ++ [.ok ⟨.endOfInput, last⟩]) ↔
      TokenStream.ofSource source = (TokenStream.ended last).prepend tokens := by
  rw [yields_iff]
  constructor
  · intro same
    exact TokenStream.eq_prepend_of_toList same.symm
  · intro same
    rw [same, TokenStream.toList_prepend]
    rfl

end Lexer

end MiniPascal
