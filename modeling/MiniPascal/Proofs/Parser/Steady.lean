import MiniPascal.Proofs.Parser.Phrase

set_option autoImplicit false

namespace MiniPascal

def Event.token? : Event → Option Token
  | .token t => some t
  | _ => none

def ParserState.traced (s : ParserState) : List Token :=
  s.log.reverse.filterMap Event.token?

namespace TokenStream

def head : TokenStream → Except LexError Token
  | .ended position => .ok ⟨.endOfInput, position⟩
  | .broken e => .error e
  | .next token _ => .ok token

-- What it has handed out when these tokens have been read and the head of the stream is the current one.
def pulled (read : List Token) (stream : TokenStream) : List (Except LexError Token) :=
  read.map .ok ++ [stream.head]

def behind : TokenStream → Option TokenStream
  | .ended _ | .broken _ => none
  | .next _ rest => some rest

/-- A lexer that hands out these results and then goes on as `more`. Behind an error there is nothing. -/
def supply (more : TokenStream) : List (Except LexError Token) → TokenStream
  | [] => more
  | .ok token :: results => .next token (supply more results)
  | .error e :: _ => .broken e

/-- Two streams give the same up to where one goes on with `far` and the other with `more`. If the first
never gets that far, the second goes on where the first one ends. -/
inductive Supplied (far : Option TokenStream) (more : TokenStream) :
    TokenStream → TokenStream → Prop where
  | apart {token : Token} {rest : TokenStream} (isFar : far = some rest) :
      Supplied far more (.next token rest) (.next token more)
  | next {token : Token} {rest rest' : TokenStream} (further : Supplied far more rest rest') :
      Supplied far more (.next token rest) (.next token rest')
  | ended {position : Position} (never : far = none) :
      Supplied far more (.ended position) (.next ⟨.endOfInput, position⟩ more)
  | broken {e : LexError} (never : far = none) : Supplied far more (.broken e) (.broken e)

namespace Supplied

variable {far : Option TokenStream} {more stream stream' : TokenStream}

theorem kind (supplied : Supplied far more stream stream') : stream'.kind = stream.kind := by
  cases supplied <;> rfl

theorem lexeme (supplied : Supplied far more stream stream') : stream'.lexeme = stream.lexeme := by
  cases supplied <;> rfl

theorem position (supplied : Supplied far more stream stream') :
    stream'.position = stream.position := by
  cases supplied <;> rfl

theorem literal (supplied : Supplied far more stream stream') :
    Parser.literal? stream' = Parser.literal? stream := by
  cases supplied <;> rfl

theorem length_lt {rest : TokenStream} (supplied : Supplied (some rest) more stream stream') :
    rest.length < stream.length := by
  induction supplied with
  | apart isFar =>
    cases isFar
    exact Nat.lt_succ_self _
  | next further ih => exact Nat.lt_succ_of_lt ih
  | ended never | broken never => cases never

end Supplied

variable (more stream : TokenStream)

theorem supply_tokens (tokens : List Token) : supply more (tokens.map .ok) = more.prepend tokens := by
  induction tokens with
  | nil => rfl
  | cons token tokens ih => exact congrArg (next token) ih

-- With the current token as its last result a supply is enough to go on for as long as it stays current.
theorem supplied_supply (read : List Token) :
    Supplied stream.behind more (stream.prepend read) (supply more (stream.pulled read)) := by
  induction read with
  | nil =>
    cases stream with
    | ended position => exact .ended rfl
    | broken e => exact .broken rfl
    | next token rest => exact .apart rfl
  | cons token read ih => exact .next ih

theorem supplied_prepend {read : List Token} (nonempty : read ≠ []) :
    Supplied (some stream) more (stream.prepend read) (more.prepend read) := by
  induction read with
  | nil => exact absurd rfl nonempty
  | cons token read ih =>
    cases read with
    | nil => exact .apart rfl
    | cons second read => exact .next (ih (List.cons_ne_nil _ _))

theorem length_behind {stream rest : TokenStream} (behind : stream.behind = some rest) :
    rest.length < stream.length := by
  cases stream with
  | ended position | broken e => cases behind
  | next token rest =>
    cases behind
    exact Nat.lt_succ_self _

theorem eq_of_broken_prepend {e : LexError} {read : List Token} {stream : TokenStream}
    (same : broken e = stream.prepend read) : stream = broken e := by
  cases read with
  | nil => exact same.symm
  | cons token read => cases same

end TokenStream

namespace Parser

open TokenStream (Supplied)

variable {α β : Type}

structure Follows (s s' : ParserState) : Prop where
  suffix : ∃ read, s.stream = s'.stream.prepend read
  traced : s'.traced ++ s'.stream.tokens.tail = s.traced ++ s.stream.tokens.tail

namespace Follows

variable {s s' s'' : ParserState}

theorem refl (s : ParserState) : Follows s s :=
  ⟨⟨[], rfl⟩, rfl⟩

theorem trans (first : Follows s s') (second : Follows s' s'') : Follows s s'' := by
  obtain ⟨read, split⟩ := first.suffix
  obtain ⟨more, split'⟩ := second.suffix
  refine ⟨⟨read ++ more, ?_⟩, second.traced.trans first.traced⟩
  rw [TokenStream.prepend_append, ← split', ← split]

theorem length_le (follows : Follows s s') : s'.stream.length ≤ s.stream.length := by
  obtain ⟨read, split⟩ := follows.suffix
  rw [split, TokenStream.length_prepend]
  exact Nat.le_add_left _ _

end Follows

def Onward (s : ParserState) : EStateM.Result ParseError ParserState α → Prop
  | .ok _ s' => Follows s s' ∧ s'.stream.Readable
  | .error e s' => Follows s s' ∧ ∀ fault, s'.stream = .broken fault → e = .lexical fault

namespace Onward

variable {x : Parser α} {f : α → Parser β} {s s₀ : ParserState}

theorem behind {result : EStateM.Result ParseError ParserState α} (follows : Follows s₀ s)
    (onward : Onward s result) : Onward s₀ result := by
  cases result <;> exact ⟨follows.trans onward.1, onward.2⟩

theorem bind (first : Onward s₀ (x s))
    (second : ∀ a s', x s = .ok a s' → s'.stream.Readable → Onward s' (f a s')) :
    Onward s₀ ((x >>= f) s) := by
  cases ran : x s with
  | error e s' =>
    rw [ran] at first
    rw [bind_of_error ran]
    exact first
  | ok a s' =>
    rw [ran] at first
    obtain ⟨before, readable⟩ := first
    rw [bind_of_ok ran]
    exact behind before (second a s' ran readable)

theorem failed (readable : s.stream.Readable) (e : ParseError) :
    Onward s (.error e s : EStateM.Result ParseError ParserState α) := by
  refine ⟨.refl s, fun fault broken => ?_⟩
  rw [broken] at readable
  cases readable

end Onward

/-- Two runs on streams that give the same at first: both end in the same way with the same current
token, or both have gone on to where the streams part. -/
inductive InStep (far : Option TokenStream) (more : TokenStream) :
    EStateM.Result ParseError ParserState α → EStateM.Result ParseError ParserState α → Prop where
  | ok {a : α} {s s' : ParserState} (supplied : Supplied far more s.stream s'.stream) :
      InStep far more (.ok a s) (.ok a s')
  | error {e : ParseError} {s s' : ParserState} (supplied : Supplied far more s.stream s'.stream) :
      InStep far more (.error e s) (.error e s')
  | parted {r r' : EStateM.Result ParseError ParserState α} {s s' : ParserState}
      (isFar : far = some s.stream) (isMore : more = s'.stream) (here : Onward s r)
      (there : Onward s' r') : InStep far more r r'

theorem InStep.bind {far : Option TokenStream} {more : TokenStream} {x y : Parser α}
    {f g : α → Parser β} {s s' : ParserState} (first : InStep far more (x s) (y s'))
    (second : ∀ a t t', x s = .ok a t → y s' = .ok a t' → Supplied far more t.stream t'.stream →
      InStep far more (f a t) (g a t'))
    (onward : ∀ a t, t.stream.Readable → Onward t (f a t))
    (onward' : ∀ a t, t.stream.Readable → Onward t (g a t)) :
    InStep far more ((x >>= f) s) ((y >>= g) s') := by
  generalize ran : x s = r at first
  generalize ran' : y s' = r' at first
  cases first with
  | ok supplied =>
    rw [bind_of_ok ran, bind_of_ok ran']
    exact second _ _ _ ran ran' supplied
  | error supplied =>
    rw [bind_of_error ran, bind_of_error ran']
    exact .error supplied
  | parted isFar isMore here there =>
    subst ran ran'
    exact .parted isFar isMore (here.bind fun a t _ => onward a t) (there.bind fun a t _ => onward' a t)

/-- A parser that goes forward only, and that looks at nothing but what it has been given, wherever the
current token is of the kind `k`. -/
structure SteadyAt (k : TokenKind) (x : Parser α) : Prop where
  onward {s : ParserState} (here : s.stream.kind = k) (readable : s.stream.Readable) : Onward s (x s)
  inStep {far : Option TokenStream} {more : TokenStream} {s s' : ParserState}
    (here : s.stream.kind = k) (supplied : Supplied far more s.stream s'.stream) :
    InStep far more (x s) (x s')

def Steady (x : Parser α) : Prop :=
  ∀ k, SteadyAt k x

theorem Steady.onward {x : Parser α} (steady : Steady x) (s : ParserState)
    (readable : s.stream.Readable) : Onward s (x s) :=
  (steady _).onward rfl readable

theorem Steady.inStep {x : Parser α} (steady : Steady x) {far : Option TokenStream}
    {more : TokenStream} {s s' : ParserState} (supplied : Supplied far more s.stream s'.stream) :
    InStep far more (x s) (x s') :=
  (steady _).inStep rfl supplied

def Takes (x : Parser α) : Prop :=
  ∀ s a s', x s = .ok a s' → s'.stream.Readable ∧ s'.stream.length < s.stream.length

section Arrive

variable {stream : TokenStream} {s : ParserState}

theorem arrive_onward (stream : TokenStream) (s : ParserState) :
    ∃ t : ParserState, t.stream = stream ∧
      t.traced ++ stream.tokens.tail = s.traced ++ stream.tokens ∧ Onward t (arrive stream s) := by
  cases stream with
  | ended position => exact ⟨⟨.ended position, s.log⟩, rfl, rfl, .refl _, trivial⟩
  | broken e =>
    refine ⟨⟨.broken e, s.log⟩, rfl, rfl, .refl _, fun fault same => ?_⟩
    cases same
    rfl
  | next token rest =>
    refine ⟨⟨.next token rest, .token token :: s.log⟩, rfl, ?_, .refl _, trivial⟩
    simp [ParserState.traced, TokenStream.tokens, Event.token?]

theorem arrive_inStep {far : Option TokenStream} {more stream stream' : TokenStream}
    (supplied : Supplied far more stream stream') (s s' : ParserState) :
    InStep far more (arrive stream s) (arrive stream' s') := by
  cases supplied with
  | apart isFar => exact .ok (.apart isFar)
  | next further => exact .ok (.next further)
  | ended never => exact .ok (.ended never)
  | broken never => exact .error (.broken never)

theorem advance_onward (s : ParserState) (readable : s.stream.Readable) : Onward s (advance s) := by
  obtain ⟨stream, log⟩ := s
  cases stream with
  | ended position => exact ⟨.refl _, trivial⟩
  | broken e => cases readable
  | next token rest =>
    obtain ⟨t, rfl, traced, onward⟩ := arrive_onward rest ⟨.next token rest, log⟩
    have follows : Follows ⟨.next token t.stream, log⟩ t := ⟨⟨[token], rfl⟩, traced⟩
    exact onward.behind follows

-- At the end of the input there is nothing to advance to, but the lexer would be asked again.
theorem SteadyAt.advance {k : TokenKind} (notEnd : k ≠ .endOfInput) : SteadyAt k Parser.advance where
  onward _ readable := advance_onward _ readable
  inStep {far more s s'} here supplied := by
    obtain ⟨stream, log⟩ := s
    obtain ⟨stream', log'⟩ := s'
    cases supplied with
    | ended never | broken never => exact absurd here.symm notEnd
    | next further => exact arrive_inStep further _ _
    | @apart token rest isFar =>
      obtain ⟨t, rfl, -, onward⟩ := arrive_onward rest ⟨.next token rest, log⟩
      obtain ⟨t', rfl, -, onward'⟩ := arrive_onward more ⟨.next token more, log'⟩
      exact .parted isFar rfl onward onward'

theorem advance_takes {s s' : ParserState} (notEnd : s.stream.kind ≠ .endOfInput) {a : Unit}
    (ran : Parser.advance s = .ok a s') :
    s'.stream.Readable ∧ s'.stream.length < s.stream.length := by
  obtain ⟨stream, log⟩ := s
  cases stream with
  | ended position | broken e => exact absurd rfl notEnd
  | next token rest =>
    obtain ⟨t, rfl, -, onward⟩ := arrive_onward rest ⟨.next token rest, log⟩
    have arrived : arrive t.stream ⟨.next token t.stream, log⟩ = .ok a s' := ran
    rw [arrived] at onward
    exact ⟨onward.2, Nat.lt_succ_of_le onward.1.length_le⟩

end Arrive

theorem name_eq_advance {s : ParserState} {x : String} (here : s.stream.lexeme = .identifier x) :
    Parser.name s = (do advance; return x : Parser String) s := by
  obtain ⟨stream, log⟩ := s
  cases stream with
  | ended position | broken e => cases here
  | next token rest =>
    obtain ⟨lexeme, position⟩ := token
    cases here
    rfl

namespace SteadyAt

variable {k : TokenKind} {x : Parser α} {f : α → Parser β}

theorem pure (a : α) : SteadyAt k (Pure.pure a : Parser α) where
  onward _ readable := ⟨.refl _, readable⟩
  inStep _ supplied := .ok supplied

theorem bind (first : SteadyAt k x) (second : ∀ a, Steady (f a)) : SteadyAt k (x >>= f) where
  onward here readable := (first.onward here readable).bind fun a s' _ => (second a).onward s'
  inStep here supplied :=
    (first.inStep here supplied).bind (fun a _ _ _ _ => (second a).inStep)
      (fun a => (second a).onward) fun a => (second a).onward

theorem current_bind {f : TokenKind → Parser α} (steady : SteadyAt k (f k)) :
    SteadyAt k (current >>= f) where
  onward {s} here readable := by
    rw [Phrase.current_bind, here]
    exact steady.onward here readable
  inStep {far more s s'} here supplied := by
    rw [Phrase.current_bind, Phrase.current_bind, supplied.kind, here]
    exact steady.inStep here supplied

theorem tooDeep : SteadyAt k (Parser.tooDeep : Parser α) where
  onward _ readable := .failed readable _
  inStep _ supplied := .error supplied

theorem unexpected (expected : TokenKind) : SteadyAt k (Parser.unexpected expected : Parser α) where
  onward _ readable := .failed readable _
  inStep {far more s s'} _ supplied := by
    have same : (Parser.unexpected expected : Parser α) s' =
        .error (.unexpected expected s.stream.kind s.stream.position) s' := by
      rw [← supplied.kind, ← supplied.position]
      rfl
    rw [same]
    exact .error supplied

theorem eat {expected : TokenKind} (notEnd : expected ≠ .endOfInput) :
    SteadyAt k (Parser.eat expected) := by
  refine current_bind ?_
  by_cases same : k = expected
  next =>
    rw [if_pos same]
    exact SteadyAt.advance (same ▸ notEnd)
  next =>
    rw [if_neg same]
    exact unexpected expected

theorem name : SteadyAt k Parser.name := by
  by_cases isName : k = .identifier
  next =>
    have steady (x : String) : SteadyAt k (do Parser.advance; return x) :=
      (SteadyAt.advance (by simp [isName])).bind fun _ _ => .pure x
    have named {s : ParserState} (here : s.stream.kind = k) : ∃ x, s.stream.lexeme = .identifier x :=
      Lexeme.eq_identifier_of_kind (s.stream.kind_lexeme.trans (here.trans isName))
    constructor
    next =>
      intro s here readable
      obtain ⟨x, current⟩ := named here
      rw [name_eq_advance current]
      exact (steady x).onward here readable
    next =>
      intro far more s s' here supplied
      obtain ⟨x, current⟩ := named here
      rw [name_eq_advance current, name_eq_advance (supplied.lexeme.trans current)]
      exact (steady x).inStep here supplied
  next =>
    constructor
    next =>
      intro s here readable
      rw [Phrase.name_eq_unexpected (here ▸ isName)]
      exact (unexpected .identifier).onward here readable
    next =>
      intro far more s s' here supplied
      rw [Phrase.name_eq_unexpected (here ▸ isName),
        Phrase.name_eq_unexpected (supplied.kind.trans here ▸ isName)]
      exact (unexpected .identifier).inStep here supplied

end SteadyAt

namespace Steady

variable {x y : Parser α} {f : α → Parser β}

theorem pure (a : α) : Steady (Pure.pure a : Parser α) :=
  fun _ => .pure a

theorem bind (first : Steady x) (second : ∀ a, Steady (f a)) : Steady (x >>= f) :=
  fun k => (first k).bind second

theorem ite {c : Prop} [Decidable c] (yes : Steady x) (no : Steady y) :
    Steady (if c then x else y) := by
  split
  next => exact yes
  next => exact no

theorem tooDeep : Steady (Parser.tooDeep : Parser α) :=
  fun _ => .tooDeep

theorem unexpected (expected : TokenKind) : Steady (Parser.unexpected expected : Parser α) :=
  fun _ => .unexpected expected

theorem current_bind {f : TokenKind → Parser α} (steady : ∀ k, SteadyAt k (f k)) :
    Steady (current >>= f) :=
  fun k => .current_bind (steady k)

theorem report {event : Event} (noToken : event.token? = none) : Steady (Parser.report event) := by
  refine fun k => ⟨fun {s} _ readable => ⟨⟨⟨[], rfl⟩, ?_⟩, readable⟩, fun _ supplied => .ok supplied⟩
  simp [ParserState.traced, noToken]

theorem enter (room : Nat) (production : Production) : Steady (Parser.enter room production) :=
  report rfl

theorem eat {expected : TokenKind} (notEnd : expected ≠ .endOfInput) : Steady (Parser.eat expected) :=
  fun _ => .eat notEnd

theorem eatMark (mark : Mark) : Steady (Parser.eatMark mark) :=
  eat (by simp)

theorem eatKeyword (word : Keyword) : Steady (Parser.eatKeyword word) :=
  eat (by simp)

theorem name : Steady Parser.name :=
  fun _ => .name

end Steady

namespace Takes

variable {x : Parser α} {f : α → Parser β}

theorem bind (first : Takes x) (second : ∀ a, Steady (f a)) : Takes (x >>= f) := by
  intro s b s'' ran
  cases took : x s with
  | error e s' =>
    rw [bind_of_error took] at ran
    cases ran
  | ok a s' =>
    obtain ⟨readable, shorter⟩ := first s a s' took
    have onward := (second a).onward s' readable
    rw [bind_of_ok took] at ran
    rw [ran] at onward
    exact ⟨onward.2, Nat.lt_of_le_of_lt onward.1.length_le shorter⟩

theorem eat {expected : TokenKind} (notEnd : expected ≠ .endOfInput) : Takes (Parser.eat expected) := by
  intro s a s' ran
  rw [Parser.eat, Phrase.current_bind] at ran
  split at ran
  next here => exact advance_takes (here ▸ notEnd) ran
  next => cases ran

theorem name : Takes Parser.name := by
  intro s x s' ran
  by_cases here : s.stream.kind = .identifier
  next =>
    obtain ⟨y, current⟩ := Lexeme.eq_identifier_of_kind (s.stream.kind_lexeme.trans here)
    rw [name_eq_advance current] at ran
    cases took : advance s with
    | error e t =>
      rw [bind_of_error took] at ran
      cases ran
    | ok a t =>
      rw [bind_of_ok took] at ran
      cases ran
      exact advance_takes (by simp [here]) took
  next =>
    rw [Phrase.name_eq_unexpected here] at ran
    cases ran

end Takes

section Many

variable {more : TokenKind → Bool} {item : Parser α} {s s' : ParserState} {taken : List α} {fuel : Nat}

theorem kind_of_length {stream : TokenStream} (nothing : stream.length = 0) :
    stream.kind = .endOfInput := by
  cases stream with
  | ended position | broken e => rfl
  | next token rest => cases nothing

theorem manyUpTo_of_stop (stop : more s.stream.kind = false) :
    manyUpTo more item fuel taken s = .ok taken.reverse s := by
  cases fuel with
  | zero => rfl
  | succ fuel =>
    rw [manyUpTo, Phrase.current_bind, if_neg (by simp [stop])]
    rfl

theorem manyUpTo_of_more (goesOn : more s.stream.kind) :
    manyUpTo more item (fuel + 1) taken s =
      (item >>= fun a => manyUpTo more item fuel (a :: taken)) s := by
  rw [manyUpTo, Phrase.current_bind, if_pos goesOn]

theorem manyUpTo_onward (steady : Steady item) (readable : s.stream.Readable) :
    Onward s (manyUpTo more item fuel taken s) := by
  induction fuel generalizing taken s with
  | zero => exact ⟨.refl s, readable⟩
  | succ fuel ih =>
    cases goesOn : more s.stream.kind with
    | false =>
      rw [manyUpTo_of_stop goesOn]
      exact ⟨.refl s, readable⟩
    | true =>
      rw [manyUpTo_of_more goesOn]
      exact (steady.onward s readable).bind fun a t _ readable' => ih readable'

/-- However many tokens may come behind the ones that are shared, a loop does the same: it has fuel for
each token, and an item never comes without one. -/
theorem manyUpTo_inStep (steady : Steady item) (takes : Takes item) (stops : more .endOfInput = false)
    {far : Option TokenStream} {away : TokenStream} {fuel' : Nat} (enough : s.stream.length ≤ fuel)
    (enough' : s'.stream.length ≤ fuel') (supplied : Supplied far away s.stream s'.stream) :
    InStep far away (manyUpTo more item fuel taken s) (manyUpTo more item fuel' taken s') := by
  induction fuel generalizing fuel' taken s s' with
  | zero =>
    have atEnd : s.stream.kind = .endOfInput := kind_of_length (Nat.le_zero.1 enough)
    have stop : more s.stream.kind = false := atEnd ▸ stops
    rw [manyUpTo_of_stop stop, manyUpTo_of_stop (supplied.kind ▸ stop)]
    exact .ok supplied
  | succ fuel ih =>
    cases goesOn : more s.stream.kind with
    | false =>
      rw [manyUpTo_of_stop goesOn, manyUpTo_of_stop (supplied.kind ▸ goesOn)]
      exact .ok supplied
    | true =>
      have goesOn' : more s'.stream.kind := supplied.kind ▸ goesOn
      cases fuel' with
      | zero =>
        rw [kind_of_length (Nat.le_zero.1 enough'), stops] at goesOn'
        cases goesOn'
      | succ fuel' =>
        rw [manyUpTo_of_more goesOn, manyUpTo_of_more goesOn']
        refine (steady.inStep supplied).bind (fun a t t' took took' further => ?_)
          (fun a t => manyUpTo_onward steady) (fun a t => manyUpTo_onward steady)
        have shorter := (takes s a t took).2
        have shorter' := (takes s' a t' took').2
        exact ih (by omega) (by omega) further

theorem Steady.many (steady : Steady item) (takes : Takes item) (stops : more .endOfInput = false) :
    Steady (Parser.many more item) :=
  fun _ => ⟨fun _ readable => manyUpTo_onward steady readable,
    fun _ supplied => manyUpTo_inStep steady takes stops (Nat.le_refl _) (Nat.le_refl _) supplied⟩

theorem Steady.others (steady : Steady item) (mark : Mark) :
    Steady (Parser.many (· == .mark mark) (do Parser.eatMark mark; item)) := by
  have other : Steady (do Parser.eatMark mark; item) := (Steady.eatMark mark).bind fun _ => steady
  have takes : Takes (do Parser.eatMark mark; item) := (Takes.eat (by simp)).bind fun _ => steady
  exact other.many takes rfl

theorem Steady.separated (steady : Steady item) (mark : Mark) : Steady (Parser.separated mark item) :=
  steady.bind fun _ => (steady.others mark).bind fun _ => .pure _

theorem Takes.separated (takes : Takes item) (steady : Steady item) (mark : Mark) :
    Takes (Parser.separated mark item) :=
  takes.bind fun _ => (steady.others mark).bind fun _ => .pure _

end Many

end Parser

end MiniPascal
